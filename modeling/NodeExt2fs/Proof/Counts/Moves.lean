import NodeExt2fs.Proof.Counts.Directories
import NodeExt2fs.Proof.Trees.Renaming

/-!
This file follows `rename` where directories may have stopped counting.
-/

namespace NodeExt2fs.Counting
open Programs Structures Glue Library
open Program (wp wp_pure wp_bind wp_ite wp_mono wp_counting)
open Trees (Vacant Movable Moving Moved Targeted TargetRemoved Unfiled Emptied recounted)

variable {resolver : Resolver} {volume volume' volume'' : Volume}

/-- A directory that moves leaves a parent that keeps a link, also when the target that it replaces
takes a link from the same parent. -/
def Spare (volume : Volume) (fromIno fromDir toIno toDir : Ino) : Prop :=
  volume.isDir fromIno = true →
    (if toDir = fromDir ∧ toIno ≠ 0 ∧ volume.isDir toIno = true then 2 else 1) <
      (volume.links fromDir).toNat

theorem asks_idle (call : Call) (listed : asks call = true) : idle call = true := by
  cases call with
  | namei path => rfl
  | strdup => rfl
  | markSuperDirty => rfl
  | flush => rfl
  | _ => cases listed

theorem updating_follows (resolver : Resolver) : Follows (updating resolver) resolver True := by
  intro A routine post volume only before
  apply wp_updating _ before
  exact Program.wp_true_of_only
    (fun volume call listed => safe_of_idle volume call (asks_idle call listed)) only volume

/-- A removal takes at most one link from the directory of the name. -/
theorem removed_links (placed : volume.Placed) {path : Path} {dir ino other : Ino} {name : Name}
    (removed : TargetRemoved resolver volume path dir name ino volume') (different : other ≠ ino) :
    volume'.census.links other =
      if other = dir ∧ volume.isDir ino = true ∧ 1 < volume.census.links other then
        volume.census.links other - 1
      else volume.census.links other := by
  obtain ⟨entry, refers, unfiled | emptied⟩ := removed
  · obtain ⟨rest, _, census⟩ := unfiled.census placed
    rw [← refers] at different ⊢
    rw [census, unfiled.isFile]
    apply (Function.update_of_ne different _ _).trans
    exact (if_neg fun bad => Bool.noConfusion bad.2.1).symm
  · obtain ⟨own, up, rest, _, _, _, _, census⟩ := emptied.census placed
    rw [← refers] at different ⊢
    rw [census]
    apply (Function.update_of_ne different _ _).trans
    by_cases parent : other = dir
    · rw [parent, Function.update_self]
      by_cases more : 1 < volume.census.links dir
      · rw [if_pos more, if_pos ⟨rfl, emptied.vacant.1, more⟩]
      · rw [if_neg more, if_neg fun bad => more bad.2.2]
    · rw [Function.update_of_ne parent, if_neg fun bad => parent bad.1]

/-- A directory that is left is not the target. -/
theorem removed_apart (placed : volume.Placed) {path : Path} {dir ino other : Ino} {name : Name}
    (removed : TargetRemoved resolver volume path dir name ino volume')
    (live : volume'.census.Live other) : other ≠ ino := by
  intro same
  obtain ⟨entry, refers, unfiled | emptied⟩ := removed
  · obtain ⟨rest, _, census⟩ := unfiled.census placed
    rw [census, same, ← refers] at live
    exact absurd (unfiled.isFile.symm.trans live.2) Bool.noConfusion
  · obtain ⟨own, up, rest, _, _, _, _, census⟩ := emptied.census placed
    rw [census, same, ← refers] at live
    exact absurd ((Function.update_self _ _ _).symm.trans live.1) Bool.noConfusion

theorem tallied_removed (tallied : volume.Tallied) {path : Path} {dir ino : Ino} {name : Name}
    (removed : TargetRemoved resolver volume path dir name ino volume') : volume'.Tallied := by
  obtain ⟨entry, _, unfiled | emptied⟩ := removed
  · exact tallied_unfiled tallied unfiled
  · exact tallied_emptied tallied emptied

/-- "If the target exists, unlink it first". -/
theorem renameTarget_careful (closed : resolver.Closed) (tallied : volume.Tallied) (toIno : Ino)
    (toPath : Path)
    (proper : ∀ ino dir name, resolver.walk volume toPath = .ok ino → Vacant volume ino →
      Located resolver volume toPath dir name → name ≠ dot ∧ name ≠ dotdot) :
    CarefulOn resolver volume (renameTarget toIno toPath) := by
  rw [renameTarget]
  refine careful_ite (fun _ => ?_) fun _ => trivial
  rw [CarefulOn, wp_bind]
  apply wp_idle (.readInode toIno) rfl
  intro answer volume₁ allowed
  rw [allowed.1]
  refine careful_ite (fun _ => translateError_careful _ _) fun _ => ?_
  exact careful_ite (fun _ => nodeExt2fsRmdir_careful closed tallied toPath proper)
    fun _ => nodeExt2fsUnlink_careful closed tallied toPath

/-- "Update '..' pointer if dir", with counts that stay in their range. -/
theorem renameDotdot_careful {ino fromDir toDir : Ino}
    (spare : volume.isDir ino = true → 1 < (volume.links fromDir).toNat)
    (room : volume.isDir ino = true → fromDir ≠ toDir → volume.links toDir ≠ 0xffff#16) :
    CarefulOn resolver volume (renameDotdot ino fromDir toDir) := by
  rw [renameDotdot, CarefulOn, wp_bind]
  apply wp_idle (.readInode ino) rfl
  intro answer volume₁ allowed
  obtain ⟨same, read, _⟩ := allowed
  rw [same]
  refine careful_ite (fun _ => translateError_careful _ _) fun zero => ?_
  refine careful_ite (fun kind => ?_) fun _ => trivial
  have directory : volume.isDir ino = true :=
    (congrArg linuxSIsdir (read (not_not.mp zero)).1).symm.trans kind
  have more := spare directory
  rw [CarefulOn, wp_bind]
  apply wp_idle (.dirIterate ino (.updateDotdotHelper toDir)) rfl
  intro visited volume₂ iterated
  refine careful_ite (fun _ => translateError_careful _ _) fun fine => ?_
  rcases iterated with ⟨_, _, _, same⟩ | ⟨bad, _⟩
  · rw [same]
    generalize listed : volume.setEntries ino
      ((DirProc.updateDotdotHelper toDir).iterate (volume.entries ino)).2 = volume₃
    have links : volume₃.links = volume.links := by
      rw [← listed]
      rfl
    rw [← links] at more room
    have taken : volume₃.SafeCount fromDir (volume₃.links fromDir + -1) := by
      have less := @Trees.decrement_toNat (volume₃.links fromDir) (Nat.ne_zero_of_lt more)
      refine .inr (.inr ⟨?_, fun none => ?_⟩)
      · rw [less]
        exact Nat.sub_add_cancel (Nat.le_of_lt more)
      · rw [none] at less
        exact absurd less.symm (Nat.sub_ne_zero_of_lt more)
    apply careful_bind (renameCount_careful taken)
      (Trees.renameCount_counted trivial fromDir (-1))
    intro ret volume₄ outcome
    refine careful_ite (fun _ => trivial) fun _ => ?_
    apply renameCount_careful
    rw [outcome.2]
    exact .inr (.inl (Trees.increment_toNat
      (Trees.room_recounted (Nat.ne_zero_of_lt more) (room directory))))
  · exact absurd bad fine

theorem renameMove_careful {fromIno fromDir toDir : Ino} {toName : Name} {fromPath : Path}
    (spare : volume.isDir fromIno = true → 1 < (volume.links fromDir).toNat)
    (room : volume.isDir fromIno = true → fromDir ≠ toDir → volume.links toDir ≠ 0xffff#16) :
    CarefulOn resolver volume (renameMove fromIno fromDir toDir toName fromPath) := by
  rw [renameMove, CarefulOn, wp_bind]
  apply wp_idle (.readInode fromIno) rfl
  intro answer volume₁ allowed
  rw [allowed.1]
  refine careful_ite (fun _ => translateError_careful _ _) fun _ => ?_
  apply careful_bind (expanding_careful toDir toName fromIno _ volume)
    (Trees.expanding_link trivial toDir toName fromIno _)
  intro code volume₂ added
  refine careful_ite (fun _ => translateError_careful _ _) fun fine => ?_
  rcases added with ⟨_, _, before, after, split, like⟩ | ⟨bad, _⟩
  · have linked := Trees.relisted_insert split like
    rw [← linked.isDir, ← linked.links] at spare room
    apply careful_then (renameDotdot_careful spare room)
    exact fun ret volume₃ =>
      careful_ite (fun _ => trivial) fun _ => renameFinish_careful fromIno toDir fromPath volume₃
  · exact absurd bad fine

/-- The volume after a move. -/
theorem tallied_moved (tallied : volume.Tallied) {fromIno fromDir toDir : Ino} {old : DirEntry}
    {fromName toName : Name} (moving : ∀ fileType, Moving volume fromDir toDir fromName old
      { inode := fromIno, name := toName, fileType := fileType })
    (spare : volume.isDir fromIno = true → 1 < (volume.links fromDir).toNat)
    (room : volume.isDir fromIno = true → fromDir ≠ toDir → volume.links toDir ≠ 0xffff#16)
    (moved : Moved volume fromDir toDir fromName fromIno toName volume') : volume'.Tallied := by
  obtain ⟨fileType, before, after, linked, _, split, like, erased⟩ := moved
  have moving := moving fileType
  have refers : fromIno = old.inode := moving.same
  rw [(Trees.relisted_insert split like).isDir] at erased
  by_cases directory : volume.isDir fromIno = true
  · have more := spare directory
    have roomy := room directory
    rw [if_pos directory, refers] at erased
    rw [refers] at directory
    obtain ⟨⟨up, rest, names, upName, census⟩, bounded⟩ := Trees.moved_directory tallied.placed moving
      split like directory (Nat.ne_zero_of_lt more) roomy erased
    refine ⟨?_, bounded⟩
    rw [census]
    exact @tallied_moveDirectory _ (fromDir, old) (toDir, _) rest tallied.census up
      { up with inode := toDir } names moving.same directory moving.plainOld
      ⟨moving.toLive, moving.plainNew, moving.nonempty⟩ upName upName rfl more
  · rw [if_neg directory] at erased
    obtain ⟨⟨rest, names, census⟩, bounded⟩ :=
      Trees.moved_file tallied.placed moving split like erased
    refine ⟨?_, bounded⟩
    rw [census]
    exact @tallied_move _ (fromDir, old) (toDir, _) rest tallied.census names moving.same
      (refers ▸ Bool.eq_false_iff.mpr directory) ⟨moving.toLive, moving.plainNew, moving.nonempty⟩

section Target

variable (placed : volume.Placed) {path : Path} {fromIno fromDir toIno toDir : Ino} {toName : Name}
  (removed : TargetRemoved resolver volume path toDir toName toIno volume')
include placed removed

/-- The old parent keeps a link when the target has gone. -/
theorem spare_removed (there : toIno ≠ 0) (live : volume'.census.Live fromDir)
    (spare : Spare volume fromIno fromDir toIno toDir) (directory : volume.isDir fromIno = true) :
    1 < (volume'.links fromDir).toNat := by
  have more : _ < volume.census.links fromDir := spare directory
  have links := removed_links placed removed (removed_apart placed removed live)
  show 1 < volume'.census.links fromDir
  rw [links]
  by_cases taken : fromDir = toDir ∧ volume.isDir toIno = true ∧ 1 < volume.census.links fromDir
  · rw [if_pos taken]
    rw [if_pos ⟨taken.1.symm, there, taken.2.1⟩] at more
    exact Nat.lt_sub_of_add_lt more
  · rw [if_neg taken]
    exact lt_of_le_of_lt (by split <;> decide) more

/-- The new parent has room for a link when the target has gone. -/
theorem room_removed (live : volume'.census.Live toDir)
    (room : toIno = 0 ∨ volume.isDir toIno = false → volume.links toDir ≠ 0xffff#16) :
    volume'.links toDir ≠ 0xffff#16 := by
  have links := removed_links placed removed (removed_apart placed removed live)
  intro full
  have top : volume'.census.links toDir = 65535 := congrArg BitVec.toNat full
  rw [links] at top
  by_cases kind : volume.isDir toIno = true
  · have bound : volume.census.links toDir < 65536 := (volume.links toDir).isLt
    by_cases more : 1 < volume.census.links toDir
    · rw [if_pos ⟨rfl, kind, more⟩] at top
      omega
    · rw [if_neg fun bad => more bad.2.2] at top
      omega
  · rw [if_neg fun bad => kind bad.2.1] at top
    exact room (.inr (Bool.eq_false_iff.mpr kind)) (BitVec.eq_of_toNat_eq top)

end Target

theorem renameMove_tallied {source fromPath : Path}
    {fromName toName : Name} {fromIno fromDir toIno toDir : Ino} {old : DirEntry}
    (movable : Movable resolver False volume source fromName toName fromIno fromDir toIno toDir)
    (spared : Trees.Spared volume volume' toDir toName toIno) (tallied' : volume'.Tallied)
    (moving : ∀ fileType, Moving volume' fromDir toDir fromName old
      { inode := fromIno, name := toName, fileType := fileType })
    (fromSplit : strrchr fromPath = some (source, fromName))
    (spare : volume'.isDir fromIno = true → 1 < (volume'.links fromDir).toNat)
    (room : volume'.isDir fromIno = true → fromDir ≠ toDir → volume'.links toDir ≠ 0xffff#16) :
    wp (updating resolver) (renameMove fromIno fromDir toDir toName fromPath)
      (fun _ after => after.Tallied) volume' := by
  apply wp_mono (wp_updating (renameMove_careful spare room)
    (Trees.renameMove_moved trivial movable spared tallied'.placed moving fromSplit))
  intro ret after outcome
  rcases outcome with ⟨_, like⟩ | moved
  · exact tallied_like tallied' like
  · exact tallied_moved tallied' moving spare room moved

theorem nodeExt2fsRename_tallied (closed : resolver.Closed) (tallied : volume.Tallied)
    (fromPath toPath : Path)
    (fromNonempty : ∀ before name, strrchr fromPath = some (before, name) → name ≠ [])
    (toNonempty : ∀ before name, strrchr toPath = some (before, name) → name ≠ [])
    (proper : ∀ target toName toIno, strrchr toPath = some (target, toName) →
      resolver.walk volume toPath = .ok toIno → Vacant volume toIno →
      toName ≠ dot ∧ toName ≠ dotdot)
    (movable : ∀ source fromName target toName fromIno fromDir toIno toDir,
      strrchr fromPath = some (source, fromName) → strrchr toPath = some (target, toName) →
      resolver.walk volume fromPath = .ok fromIno →
      resolver.walk volume (source ++ [slash]) = .ok fromDir →
      resolver.walk volume (target ++ [slash]) = .ok toDir →
      Targeted resolver volume toPath fromIno toIno →
      (toIno ≠ 0 → volume.isDir toIno = true → Vacant volume toIno) →
      Movable resolver False volume source fromName toName fromIno fromDir toIno toDir ∧
        Spare volume fromIno fromDir toIno toDir) :
    wp (updating resolver) (nodeExt2fsRename fromPath toPath) (fun _ volume' => volume'.Tallied)
      volume := by
  apply wp_rename (updating_follows resolver) fromPath toPath fun _ => tallied
  intro fromIno toIno _ walked missing present
  apply wp_renameBetween (updating_follows resolver) fromPath toPath fromIno toIno fun _ => tallied
  intro fromDir toDir source fromName target toName fromSplit toSplit fromParent toParent _ _
  have targeted : Targeted resolver volume toPath fromIno toIno := by
    by_cases none : toIno = 0
    · exact .inl ⟨none, missing none⟩
    · exact .inr ⟨none, present none⟩
  have properly (there : toIno ≠ 0) : Vacant volume toIno → toName ≠ dot ∧ toName ≠ dotdot :=
    proper target toName toIno toSplit (present there).1
  have outside (ino dir : Ino) (name : Name) (found : resolver.walk volume toPath = .ok ino)
      (vacant : Vacant volume ino) (located : Located resolver volume toPath dir name) :
      name ≠ dot ∧ name ≠ dotdot := by
    rw [← ((located_some toSplit).mp located).2]
    exact proper target toName ino toSplit found vacant
  apply wp_mono (wp_updating (renameTarget_careful closed tallied toIno toPath outside)
    (Trees.renameTarget_removed trivial closed tallied.placed (few_links tallied) toSplit toParent
      (fun there => (present there).1) properly))
  intro ret volume' outcome
  rcases outcome with ⟨zero, gone⟩ | ⟨bad, same⟩
  · refine ⟨fun bad => absurd zero bad, fun _ => ?_⟩
    have vacant (there : toIno ≠ 0) : volume.isDir toDir = true ∧ toDir ≠ toIno ∧
        (volume.isDir toIno = true → Vacant volume toIno) := by
      rcases gone with ⟨none, _⟩ | ⟨_, removed⟩
      · exact absurd none there
      · exact (removed.spared tallied.placed).1
    obtain ⟨movable, spare⟩ := movable source fromName target toName fromIno fromDir toIno toDir
      fromSplit toSplit walked fromParent toParent targeted fun there => (vacant there).2.2
    have spared : Trees.Spared volume volume' toDir toName toIno := by
      rcases gone with ⟨none, same⟩ | ⟨_, removed⟩
      · rw [same, none]
        exact .refl volume toDir toName
      · exact (removed.spared tallied.placed).2
    obtain ⟨old, moving⟩ := Trees.moving_of_spared closed tallied.placed fromSplit toSplit
      (fromNonempty source fromName fromSplit) (toNonempty target toName toSplit) walked fromParent
      toParent targeted movable.proper properly vacant spared
    rcases gone with ⟨none, same⟩ | ⟨there, removed⟩
    · rw [same] at spared moving ⊢
      refine renameMove_tallied movable spared tallied moving fromSplit ?_ ?_
      · intro directory
        exact lt_of_le_of_lt (by split <;> decide) (spare directory)
      · exact fun directory differ => movable.room directory differ (.inl none)
    · refine renameMove_tallied movable spared (tallied_removed tallied removed) moving
        fromSplit ?_ ?_
      · intro directory
        rw [spared.isDir] at directory
        exact spare_removed tallied.placed removed there (moving 0).fromLive spare directory
      · intro directory differ
        rw [spared.isDir] at directory
        exact room_removed tallied.placed removed (moving 0).toLive (movable.room directory differ)
  · refine ⟨fun _ => ?_, fun zero => absurd zero bad⟩
    rw [same]
    exact tallied

end NodeExt2fs.Counting
