import NodeExt2fs.Proof.Atomic.Linking
import NodeExt2fs.Proof.Atomic.Replacing
import NodeExt2fs.Proof.Trees.ExactRemoval
import NodeExt2fs.Proof.Trees.Renaming

/-!
This file says when a rename that fails has changed nothing, on a disk that does not fail.
-/

namespace NodeExt2fs.Atomic
open Programs Structures Glue Library
open Program (wp wp_pure wp_bind wp_ite wp_mono wp_and may may_bind may_mono not_wp_of_may)

variable {resolver : Resolver} {volume volume' volume'' : Volume}

/-- A call that fails has changed no entry, which '..' is one of, and no count. -/
def Unchanged (volume : Volume) (ret : Int) (volume' : Volume) : Prop :=
  ret ≠ 0 → volume'.entries = volume.entries ∧ volume'.links = volume.links

/-- The lookups of a rename find the parts of the move. -/
structure Move.Found (resolver : Resolver) (volume : Volume) (fromPath toPath : Path) (move : Move) :
    Prop where
  fromSplit : strrchr fromPath = some (move.source, move.fromName)
  toSplit : strrchr toPath = some (move.target, move.toName)
  walked : resolver.walk volume fromPath = .ok move.fromIno
  positive : move.fromIno ≠ 0
  targeted : Trees.Targeted resolver volume toPath move.fromIno move.toIno
  fromParent : resolver.walk volume (move.source ++ [slash]) = .ok move.fromDir
  toParent : resolver.walk volume (move.target ++ [slash]) = .ok move.toDir
  fromDir : move.fromDir ≠ 0
  toDir : move.toDir ≠ 0

/-- The move comes to a change: its target can be removed, or there is none and the new name has space. -/
def Move.Writes (resolver : Resolver) (volume : Volume) (move : Move) : Prop :=
  if move.toIno = 0 then
    volume.isDir move.toDir = true ∧
      (volume.fits move.toDir move.toName = true ∨ volume.grows move.toDir = true)
  else move.Replaces resolver volume

/-- The entry of the new name. -/
def Move.entry (volume : Volume) (move : Move) : DirEntry where
  inode := move.fromIno
  name := move.toName
  fileType := ext2FileType (volume.mode move.fromIno)

/-- The entry of a moved directory for its parent leads to the new one. -/
def Move.redirects (volume : Volume) (move : Move) (entries : Ino → List DirEntry) :
    Ino → List DirEntry :=
  if volume.isDir move.fromIno then
    Function.update entries move.fromIno
      ((DirProc.updateDotdotHelper move.toDir).iterate (entries move.fromIno)).2
  else entries

/-- The entries that are left without the target. -/
def Move.Clears (volume : Volume) (move : Move) (entries : Ino → List DirEntry) : Prop :=
  if move.toIno = 0 then entries = volume.entries else move.Leaves volume entries

/-- The entries before the old name goes: the target has gone, the new name is there, and '..' leads to
the new parent. -/
def Move.Moves (volume : Volume) (move : Move) (entries : Ino → List DirEntry) : Prop :=
  ∃ left before after, move.Clears volume left ∧ left move.toDir = before ++ after ∧
    entries = move.redirects volume
      (Function.update left move.toDir (before ++ move.entry volume :: after))

/-- The path does not lead to a directory that has the name. -/
def Lost (resolver : Resolver) (volume : Volume) (source : Path) (name : Name) : Prop :=
  LookupFails (resolver.walk volume source) ∨ ∃ dir, resolver.walk volume source = .ok dir ∧
    (volume.isDir dir = true → volume.find dir name = none)

/-- A move that comes to a change does not free the directory of its new name, and in the changed
directories the old name is found in the path before its last slash, where no link is followed. -/
def RenameReady (resolver : Resolver) (volume : Volume) (fromPath toPath : Path) : Prop :=
  ∀ move : Move, move.Found resolver volume fromPath toPath → move.Writes resolver volume →
    ¬(move.toDir = move.toIno ∧ move.Frees volume) ∧
    ∀ entries, move.Moves volume entries →
      ¬Lost resolver { volume with entries := entries } move.source move.fromName

/-- A lookup depends on the entries, the types and the targets. -/
theorem walk_same (path : Path) (entries : volume'.entries = volume.entries)
    (mode : volume'.mode = volume.mode) (target : volume'.target = volume.target) :
    resolver.walk volume' path = resolver.walk volume path := by
  apply resolver.walk_frame
  intro step _
  refine ⟨?_, fun ino _ => ⟨?_, fun _ => ?_⟩⟩
  · rw [Volume.lookup, Volume.lookup, Volume.find, Volume.find, Volume.isDir, Volume.isDir, entries,
      mode]
  · rw [Volume.isLnk, Volume.isLnk, mode]
  · rw [target]

theorem lost_same {source : Path} {name : Name} (mode : volume'.mode = volume.mode)
    (target : volume'.target = volume.target) :
    Lost resolver { volume with entries := volume'.entries } source name ↔
      Lost resolver volume' source name := by
  have looks (dir : Ino) :
      ({ volume with entries := volume'.entries } : Volume).isDir dir = volume'.isDir dir := by
    rw [Volume.isDir, Volume.isDir, mode]
  have walked : resolver.walk { volume with entries := volume'.entries } source =
      resolver.walk volume' source := walk_same source rfl mode.symm target.symm
  rw [Lost, Lost, walked]
  simp only [looks]
  rfl

/-- The path that still leads to the name is removed. -/
theorem unlinkFileByName_done {path before : Path} {name : Name}
    (split : strrchr path = some (before, name)) (kept : ¬Lost resolver volume before name) :
    wp (libext2fs resolver True) (unlinkFileByName path) (fun ret _ => ret = 0) volume := by
  obtain ⟨found, named⟩ := not_or.mp kept
  rw [unlinkFileByName, split]
  dsimp only
  rw [wp_bind]
  apply wp_library (.namei before)
  intro answer volume₁ allowed
  obtain ⟨same, resolved⟩ := allowed
  rw [same, wp_ite]
  refine ⟨fun bad => absurd ?_ found, fun fine => ?_⟩
  · exact lookupFails_of_resolved resolved bad
  · have walked := (walk_of_resolved resolved (not_not.mp fine)).1
    apply wp_mono (unlinkName_erased answer.2 name)
    intro ret volume₂ removed
    rcases removed with ⟨_, zero⟩ | ⟨_, _, missing⟩
    · exact zero trivial
    · exact absurd ⟨answer.2, walked, missing trivial⟩ named

/-- "Remove the old file" succeeds where the old name is still found. -/
theorem renameFinish_done {fromIno toDir : Ino} {path before : Path} {name : Name}
    (split : strrchr path = some (before, name)) (kept : ¬Lost resolver volume before name) :
    wp (spacious resolver) (renameFinish fromIno toDir path) (fun ret _ => ret = 0) volume := by
  rw [renameFinish, wp_bind]
  apply wp_mono (wp_calm (updateCtime_none fromIno))
  intro stamped volume₁ outcome
  obtain ⟨same, fine⟩ := outcome
  rw [same, wp_ite]
  refine ⟨fun bad => absurd (fine trivial) bad, fun _ => ?_⟩
  rw [wp_bind]
  apply wp_mono (wp_calm (updateMtime_none toDir))
  intro touched volume₂ outcome
  obtain ⟨same, fine⟩ := outcome
  rw [same, wp_ite]
  refine ⟨fun bad => absurd (fine trivial) bad, fun _ => ?_⟩
  rw [wp_bind]
  apply wp_mono (wp_calm (unlinkFileByName_done split kept))
  intro ret volume₃ zero
  rw [wp_ite]
  refine ⟨fun bad => absurd zero bad, fun _ => ?_⟩
  rw [wp_bind]
  apply wp_spacious .flush2
  intro code volume₄ allowed
  obtain ⟨_, _, fine⟩ := allowed
  rw [wp_ite]
  exact ⟨fun bad => absurd fine bad, fun _ => rfl⟩

/-- What the removal of the target leaves to the move. -/
structure Move.Cleared (volume : Volume) (move : Move) (volume' : Volume) : Prop where
  clears : move.Clears volume volume'.entries
  mode : volume'.mode = volume.mode
  target : volume'.target = volume.target
  same : move.toIno = 0 → volume' = volume
  fits : move.toIno ≠ 0 → ¬(move.toDir = move.toIno ∧ move.Frees volume) →
    volume'.fits move.toDir move.toName = true

theorem cleared_none {move : Move} (none : move.toIno = 0) : move.Cleared volume volume where
  clears := by
    rw [Move.Clears, if_pos none]
  mode := rfl
  target := rfl
  same _ := rfl
  fits there := absurd none there

theorem cleared_replaced {move : Move} (there : move.toIno ≠ 0)
    (replaced : move.Replaced volume volume') : move.Cleared volume volume' where
  clears := by
    rw [Move.Clears, if_neg there]
    exact replaced.leaves
  mode := replaced.mode
  target := replaced.target
  same none := absurd none there
  fits _ keeps := replaced.fits (not_and_or.mp keeps)

theorem Move.Cleared.isDir {move : Move} (cleared : move.Cleared volume volume') :
    volume'.isDir = volume.isDir := by
  funext ino
  rw [Volume.isDir, Volume.isDir, cleared.mode]

/-- The volume after "Update '..' pointer if dir". -/
def Move.moved (move : Move) (volume : Volume) : Volume :=
  if volume.isDir move.fromIno then
    Trees.redirected volume move.fromIno move.fromDir move.toDir
  else volume

/-- The entries are those of the move, and the types and the targets are the old ones. -/
theorem moved_linked {move : Move} {before after : List DirEntry}
    (cleared : move.Cleared volume volume')
    (like : (volume'.setEntries move.toDir (before ++ move.entry volume :: after)).Like volume'') :
    (move.moved volume'').entries = move.redirects volume
        (Function.update volume'.entries move.toDir (before ++ move.entry volume :: after)) ∧
      (move.moved volume'').mode = volume.mode ∧ (move.moved volume'').target = volume.target := by
  obtain ⟨fits, grows, same⟩ := like
  have kind : volume''.isDir = volume.isDir := by
    rw [← cleared.isDir, same]
    rfl
  rw [Move.moved, Move.redirects, kind, ← cleared.mode, ← cleared.target]
  split
  · rw [Trees.redirected_mode, same]
    exact ⟨rfl, rfl, rfl⟩
  · rw [same]
    exact ⟨rfl, rfl, rfl⟩

/-- "Get ready to do the move", and the steps after it. -/
theorem renameMove_unchanged {move : Move} {fromPath toPath : Path}
    (ready : RenameReady resolver volume fromPath toPath)
    (found : move.Found resolver volume fromPath toPath) (cleared : move.Cleared volume volume')
    (replaces : move.toIno ≠ 0 → move.Replaces resolver volume) :
    wp (spacious resolver) (renameMove move.fromIno move.fromDir move.toDir move.toName fromPath)
      (fun ret after => Unchanged volume ret after) volume' := by
  rw [renameMove, wp_bind]
  apply wp_spacious (.readInode move.fromIno)
  intro answer volume₁ allowed
  obtain ⟨⟨same, read, fine⟩, _⟩ := allowed
  rw [same, wp_ite]
  refine ⟨fun bad => absurd (fine trivial) bad, fun zero => ?_⟩
  have fileType : ext2FileType answer.2.iMode = ext2FileType (volume.mode move.fromIno) := by
    rw [(read (not_not.mp zero)).1, cleared.mode]
  rw [fileType, wp_bind]
  apply wp_mono (wp_and
    (wp_calm (Trees.expanding_link trivial move.toDir move.toName move.fromIno _))
    (expanding_room move.toDir move.toName move.fromIno _))
  intro code volume₂ outcome
  obtain ⟨added, room⟩ := outcome
  rw [wp_ite]
  rcases added with ⟨fine, directory, before, after, split, like⟩ | ⟨bad, like, full⟩
  · refine ⟨fun bad => absurd fine bad, fun _ => ?_⟩
    have writes : move.Writes resolver volume := by
      rw [Move.Writes]
      by_cases none : move.toIno = 0
      · rw [if_pos none]
        rw [cleared.same none] at directory room
        exact ⟨directory, room fine⟩
      · rw [if_neg none]
        exact replaces none
    obtain ⟨entries, mode, target⟩ := moved_linked cleared like
    have kept := (ready move found writes).2 _
      ⟨volume'.entries, before, after, cleared.clears, split, entries⟩
    rw [lost_same mode target] at kept
    rw [wp_bind]
    apply wp_mono (wp_calm (Trees.renameDotdot_redirected trivial move.fromIno move.fromDir move.toDir))
    intro ret volume₃ outcome
    obtain ⟨zero, redirection⟩ := outcome
    have there : ¬Lost resolver volume₃ move.source move.fromName := redirection ▸ kept
    rw [wp_ite]
    refine ⟨fun bad => absurd zero bad, fun _ => ?_⟩
    apply wp_mono (renameFinish_done found.fromSplit there)
    exact fun ret' after zero bad => absurd zero bad
  · refine ⟨fun _ => ?_, fun fine => absurd bad fine⟩
    apply wp_mono (wp_calm (translateError_quiet code))
    intro ret after quiet _
    rw [quiet.1, like.entries]
    by_cases none : move.toIno = 0
    · obtain ⟨_, _, same⟩ := like
      rw [same, cleared.same none]
      exact ⟨rfl, rfl⟩
    · have replaced := replaces none
      have writes : move.Writes resolver volume := by
        rw [Move.Writes, if_neg none]
        exact replaced
      have fits := cleared.fits none (ready move found writes).1
      have directory : volume'.isDir move.toDir = true := cleared.isDir ▸ replaced.directory
      exact absurd ((full directory).1.symm.trans fits) Bool.noConfusion

/-- A rename that is ready changes nothing when it fails. -/
theorem nodeExt2fsRename_unchanged {fromPath toPath : Path}
    (ready : RenameReady resolver volume fromPath toPath) :
    wp (spacious resolver) (nodeExt2fsRename fromPath toPath)
      (fun ret after => Unchanged volume ret after) volume := by
  have nothing (ret : Int) : Unchanged volume ret volume := fun _ => ⟨rfl, rfl⟩
  apply wp_rename (follows_of_refines (spacious_refines resolver)) fromPath toPath nothing
  intro fromIno toIno positive walked missing present
  apply wp_renameBetween (follows_of_refines (spacious_refines resolver)) fromPath toPath fromIno toIno
    nothing
  intro fromDir toDir source fromName target toName fromSplit toSplit fromParent toParent
    fromNonzero toNonzero
  let move : Move := ⟨source, fromName, target, toName, fromIno, fromDir, toIno, toDir⟩
  have targeted : Trees.Targeted resolver volume toPath fromIno toIno := by
    by_cases none : toIno = 0
    · exact .inl ⟨none, missing none⟩
    · exact .inr ⟨none, present none⟩
  have found : move.Found resolver volume fromPath toPath :=
    ⟨fromSplit, toSplit, walked, positive, targeted, fromParent, toParent, fromNonzero, toNonzero⟩
  by_cases none : toIno = 0
  · rw [renameTarget, if_neg (not_not_intro none)]
    refine ⟨fun bad => absurd rfl bad, fun _ => ?_⟩
    exact renameMove_unchanged ready found (cleared_none none) fun there => absurd none there
  · apply wp_mono (@renameTarget_outcome resolver volume move toPath toSplit toParent
      (present none).1 none)
    intro ret volume' outcome
    rcases outcome with ⟨zero, replaces, replaced⟩ | ⟨bad, same⟩
    · refine ⟨fun bad => absurd zero bad, fun _ => ?_⟩
      exact renameMove_unchanged ready found (cleared_replaced none replaced) fun _ => replaces
    · refine ⟨fun _ => ?_, fun zero => absurd zero bad⟩
      rw [same]
      exact nothing ret

end NodeExt2fs.Atomic
