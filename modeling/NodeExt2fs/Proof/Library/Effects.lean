import NodeExt2fs.Construction.Library.Contract
import NodeExt2fs.Proof.Library.Requests

/-!
This file says what the parts of the operations do to a volume.
-/

namespace NodeExt2fs.Library
open Programs Glue
open Program (Only only_bind only_ite wp wp_pure wp_bind wp_ite wp_mono wp_refines)

variable {resolver : Resolver} {steady : Prop} {volume : Volume}

theorem translateError_quiet (err : Errcode) :
    wp (libext2fs resolver steady) (translateError err)
      (fun ret volume' => volume' = volume ∧ (err ≠ 0 → ret ≠ 0)) volume := by
  unfold translateError
  rw [wp_ite]
  apply And.intro
  · intro _
    refine ⟨rfl, ?_⟩
    intro bad zero
    exact bad (Int.natCast_eq_zero.mp zero)
  · intro _
    have negative := translateCode_neg err
    generalize translateCode err = translation at negative ⊢
    obtain ⟨ret, isErr⟩ := translation
    have nonzero : ret ≠ 0 := by
      intro zero
      rw [zero] at negative
      exact Int.lt_irrefl 0 negative
    simp only [wp_ite, wp_bind, wp_pure]
    apply And.intro
    · intro _
      apply wp_library .markSuperDirty
      intro _ volume₁ marked
      apply wp_library .flush
      intro _ volume₂ flushed
      refine ⟨?_, fun _ => nonzero⟩
      rw [show volume₂ = _ from flushed, show volume₁ = _ from marked]
    · intro _
      exact ⟨trivial, fun _ => nonzero⟩

theorem walk_of_resolved {result : Except Errcode Ino} {answer : Errcode × Ino}
    (resolved : Resolved steady result answer) (fine : answer.1 = 0) :
    result = .ok answer.2 ∧ answer.2 ≠ 0 := by
  cases result with
  | ok ino =>
      rcases resolved with ⟨_, same, positive⟩ | ⟨_, bad, _⟩
      · rw [same]
        exact ⟨rfl, positive⟩
      · exact absurd fine bad
  | error code => exact absurd fine resolved.1

/-- A stamp keeps the type and the link count. -/
theorem setXtime_keeps (xtime : Xtime) (now : Timespec) (inode : InodeLarge) :
    Keeps inode.toInode (ext4InodeSetXtime xtime now inode).toInode := by
  have stamped (value : BitVec 32) : Keeps inode.toInode (inode.setXtime value xtime).toInode := by
    cases xtime with
    | _ => exact ⟨rfl, rfl⟩
  rw [ext4InodeSetXtime]
  by_cases fits : ext4FitsInInode (inode.setXtime (now.tvSec.setWidth 32) xtime) xtime = true
  · simp only [if_pos fits]
    cases xtime with
    | _ => exact ⟨rfl, rfl⟩
  · simp only [if_neg fits]
    exact stamped _

theorem Keeps.trans {inode inode' inode'' : Inode} (first : Keeps inode inode')
    (second : Keeps inode' inode'') : Keeps inode inode'' :=
  ⟨second.1.trans first.1, second.2.trans first.2⟩

theorem incrementVersion_keeps (inode : Inode) : Keeps inode (incrementVersion inode) :=
  ⟨rfl, rfl⟩

/-- The two stamps of a modified inode, and its new version. -/
theorem modified_keeps (now : Timespec) (inode : InodeLarge) :
    Keeps inode.toInode (incrementVersion
      (ext4InodeSetXtime .iCtime now (ext4InodeSetXtime .iMtime now inode)).toInode) := by
  apply Keeps.trans (setXtime_keeps .iMtime now inode)
  apply Keeps.trans (setXtime_keeps .iCtime now _)
  exact incrementVersion_keeps _

theorem getNow_same : wp (libext2fs resolver steady) getNow (fun _ volume' => volume' = volume)
    volume := by
  rw [getNow, wp_bind]
  apply wp_library .clockGettime
  intro answer volume₁ same
  rw [show volume₁ = _ from same, wp_ite]
  apply And.intro
  · intro _
    rfl
  · intro _
    rw [wp_bind]
    apply wp_library .time
    intro now volume₂ same
    exact same

/-- The inode that stays in memory keeps its type and its link count. -/
theorem updateCtime_some (ino : Ino) (pinode : InodeLarge) :
    wp (libext2fs resolver steady) (updateCtime ino (some pinode))
      (fun answer volume' => volume' = volume ∧ answer.1 = 0 ∧
        Keeps pinode.toInode answer.2.toInode) volume := by
  rw [updateCtime, wp_bind]
  apply wp_mono getNow_same
  intro now volume₁ same
  exact ⟨same, rfl, setXtime_keeps _ _ _⟩

theorem updateMtime_some (ino : Ino) (pinode : InodeLarge) :
    wp (libext2fs resolver steady) (updateMtime ino (some pinode))
      (fun answer volume' => volume' = volume ∧ answer.1 = 0 ∧
        Keeps pinode.toInode answer.2.toInode) volume := by
  simp only [updateMtime, wp_bind]
  apply wp_mono getNow_same
  intro now volume₁ same
  exact ⟨same, rfl, modified_keeps now pinode⟩

theorem Volume.written_self (volume : Volume) (ino : Ino) :
    volume.written ino (volume.mode ino) (volume.links ino) = volume := by
  rw [Volume.written, Function.update_eq_self, Function.update_eq_self]

/-- A record that was read and is written back with the same type and count. -/
theorem writeBack {ino : Ino} {inode inode' : Inode} {code : Errcode} {volume' : Volume}
    (read : ReadFrom volume ino inode) (keeps : Keeps inode inode')
    (wrote : WrittenTo steady volume ino inode' code volume') :
    volume' = volume ∧ (steady → code = 0) := by
  have same : volume.written ino inode'.iMode inode'.iLinksCount = volume := by
    rw [keeps.1, keeps.2, read.1, read.2, Volume.written_self]
  rcases wrote with ⟨fine, written⟩ | ⟨unsteady, _, kept | written⟩
  · exact ⟨written.trans same, fun _ => fine⟩
  · exact ⟨kept, fun holds => absurd holds unsteady⟩
  · exact ⟨written.trans same, fun holds => absurd holds unsteady⟩

/-- A failed read or write is translated. -/
theorem failing_quiet {A : Type} (err : Errcode) (inode : A) (bad : steady → err = 0)
    (failed : err ≠ 0) : wp (libext2fs resolver steady)
      (translateError err >>= fun ret => pure (ret, inode))
      (fun answer volume' => volume' = volume ∧ (steady → answer.1 = 0)) volume := by
  rw [wp_bind]
  apply wp_mono (translateError_quiet err)
  intro ret volume' quiet
  exact ⟨quiet.1, fun holds => absurd (bad holds) failed⟩

/-- The stamp of an inode on the disk changes nothing else. -/
theorem updateCtime_none (ino : Ino) :
    wp (libext2fs resolver steady) (updateCtime ino none)
      (fun answer volume' => volume' = volume ∧ (steady → answer.1 = 0)) volume := by
  rw [updateCtime, wp_bind]
  apply wp_mono getNow_same
  intro now volume₁ same
  simp only [same, wp_bind]
  apply wp_library (.readInodeFull ino)
  intro answer volume₂ allowed
  obtain ⟨same, read, fine⟩ := allowed
  rw [same, wp_ite]
  apply And.intro
  · intro bad
    exact failing_quiet answer.1 _ fine bad
  · intro zero
    rw [wp_bind]
    apply wp_library (.writeInodeFull ino _)
    intro code volume₃ wrote
    have keeps : Keeps answer.2.toInode (ext4InodeSetXtime .iCtime now
        { answer.2 with toInode := incrementVersion answer.2.toInode }).toInode :=
      Keeps.trans (incrementVersion_keeps _) (setXtime_keeps .iCtime now _)
    obtain ⟨same, fine⟩ := writeBack (read (not_not.mp zero)) keeps wrote
    rw [same, wp_ite]
    apply And.intro
    · intro bad
      exact failing_quiet code _ fine bad
    · intro _
      exact ⟨rfl, fun _ => rfl⟩

theorem updateMtime_none (ino : Ino) :
    wp (libext2fs resolver steady) (updateMtime ino none)
      (fun answer volume' => volume' = volume ∧ (steady → answer.1 = 0)) volume := by
  simp only [updateMtime, wp_bind]
  apply wp_library (.readInodeFull ino)
  intro answer volume₁ allowed
  obtain ⟨same, read, fine⟩ := allowed
  rw [same, wp_ite]
  apply And.intro
  · intro bad
    exact failing_quiet answer.1 _ fine bad
  · intro zero
    rw [wp_bind]
    apply wp_mono getNow_same
    intro now volume₂ same
    rw [same, wp_bind]
    apply wp_library (.writeInodeFull ino _)
    intro code volume₃ wrote
    obtain ⟨same, fine⟩ := writeBack (read (not_not.mp zero)) (modified_keeps now answer.2) wrote
    rw [same, wp_ite]
    apply And.intro
    · intro bad
      exact failing_quiet code _ fine bad
    · intro _
      exact ⟨rfl, fun _ => rfl⟩

/-- A directory without the first entry of a name. -/
def Volume.erased (volume : Volume) (dir : Ino) (name : Name) : Volume :=
  volume.setEntries dir ((volume.entries dir).eraseP fun entry => entry.name = name)

/-- The first entry of the name has gone. -/
def Erased (volume : Volume) (dir : Ino) (name : Name) (volume' : Volume) : Prop :=
  volume.isDir dir = true ∧ (volume.find dir name).isSome = true ∧
    (volume.erased dir name).Like volume'

/-- A name is removed, or the call says that it was not. -/
theorem unlinkName_erased (dir : Ino) (name : Name) :
    wp (libext2fs resolver steady) (unlinkName dir name)
      (fun ret volume' => Erased volume dir name volume' ∧ (steady → ret = 0) ∨
        volume' = volume ∧ ret ≠ 0 ∧
          (steady → volume.isDir dir = true → volume.find dir name = none)) volume := by
  rw [unlinkName, wp_bind]
  apply wp_library (.unlink dir name)
  intro code volume₁ allowed
  rw [wp_ite]
  rcases allowed with ⟨fine, directory, present, like⟩ | ⟨bad, same, missing⟩
  · apply And.intro
    · intro failed
      exact absurd fine failed
    · intro _
      rw [wp_bind]
      apply wp_mono (updateMtime_none dir)
      intro answer volume₂ stamped
      rw [stamped.1]
      exact .inl ⟨⟨directory, present, like⟩, stamped.2⟩
  · apply And.intro
    · intro _
      apply wp_mono (translateError_quiet code)
      intro ret volume₂ quiet
      rw [quiet.1]
      exact .inr ⟨same, quiet.2 bad, missing⟩
    · intro fine
      exact absurd bad fine

/-- The directory and the name that `unlink_file_by_name` takes from a path. -/
def Located (resolver : Resolver) (volume : Volume) (path : Path) (dir : Ino) (name : Name) : Prop :=
  match strrchr path with
  | some (before, after) => resolver.walk volume before = .ok dir ∧ after = name
  | none => EXT2_ROOT_INO = dir ∧ path = name

theorem located_some {path before : Path} {after : Name}
    (split : strrchr path = some (before, after)) {dir : Ino} {name : Name} :
    Located resolver volume path dir name ↔
      resolver.walk volume before = .ok dir ∧ after = name := by
  rw [Located, split]

theorem located_none {path : Path} (split : strrchr path = none) {dir : Ino} {name : Name} :
    Located resolver volume path dir name ↔ EXT2_ROOT_INO = dir ∧ path = name := by
  rw [Located, split]

theorem unlinkFileByName_erased (path : Path) :
    wp (libext2fs resolver steady) (unlinkFileByName path)
      (fun ret volume' =>
        (∃ dir name, Located resolver volume path dir name ∧ Erased volume dir name volume' ∧
          (steady → ret = 0)) ∨
        volume' = volume ∧ ret ≠ 0 ∧ (steady → ∀ dir name, Located resolver volume path dir name →
          dir ≠ 0 → volume.isDir dir = true → volume.find dir name = none)) volume := by
  rw [unlinkFileByName]
  rcases split : strrchr path with _ | ⟨before, after⟩
  · apply wp_mono (unlinkName_erased EXT2_ROOT_INO path)
    intro ret volume' removed
    rcases removed with ⟨erased, fine⟩ | ⟨same, bad, missing⟩
    · exact .inl ⟨EXT2_ROOT_INO, path, (located_none split).mpr ⟨rfl, rfl⟩, erased, fine⟩
    · refine .inr ⟨same, bad, ?_⟩
      intro holds dir name located _ directory
      rw [located_none split] at located
      rw [← located.1] at directory ⊢
      rw [← located.2]
      exact missing holds directory
  · simp only [wp_bind]
    apply wp_library (.namei before)
    intro answer volume₁ allowed
    obtain ⟨same, resolved⟩ := allowed
    rw [same, wp_ite]
    apply And.intro
    · intro bad
      apply wp_mono (translateError_quiet answer.1)
      intro ret volume₂ quiet
      refine .inr ⟨quiet.1, quiet.2 bad, ?_⟩
      intro holds dir name located nonzero _
      rw [located_some split] at located
      rw [located.1] at resolved
      rcases resolved with ⟨fine, _, _⟩ | ⟨zero, _, _⟩
      · exact absurd fine bad
      · exact absurd (zero holds) nonzero
    · intro fine
      have found := (walk_of_resolved resolved (not_not.mp fine)).1
      apply wp_mono (unlinkName_erased answer.2 after)
      intro ret volume' removed
      rcases removed with ⟨erased, fine⟩ | ⟨same, bad, missing⟩
      · exact .inl ⟨answer.2, after, (located_some split).mpr ⟨found, rfl⟩, erased, fine⟩
      · refine .inr ⟨same, bad, ?_⟩
        intro holds dir name located _ directory
        rw [located_some split, found] at located
        rw [← Except.ok.inj located.1] at directory ⊢
        rw [← located.2]
        exact missing holds directory

/-- One link less, when there is one. -/
def Volume.counted (volume : Volume) (ino : Ino) : Volume :=
  if volume.links ino = 0 then volume
  else volume.written ino (volume.mode ino) (volume.links ino - 1)

/-- The count is taken in memory. -/
theorem takeLink_counted (inode : InodeLarge) :
    wp (libext2fs resolver steady) (takeLink inode)
      (fun inode' volume' => volume' = volume ∧ inode'.iMode = inode.iMode ∧
        inode'.iLinksCount = inode.iLinksCount - 1) volume := by
  simp only [takeLink, wp_ite, wp_bind]
  apply And.intro
  · intro _
    apply wp_library .time
    intro now volume₁ same
    exact ⟨same, rfl, rfl⟩
  · intro _
    exact ⟨rfl, rfl, rfl⟩

/-- `remove_inode` up to the point where nobody holds the file. -/
theorem removeInode_counted (ino : Ino) (held : volume.links ino ≠ 1) :
    wp (libext2fs resolver steady) (removeInode ino)
      (fun ret volume' => volume' = volume.counted ino ∧ (steady → ret = 0) ∨
        volume' = volume ∧ ret ≠ 0 ∧ ¬steady) volume := by
  rw [removeInode, wp_bind]
  apply wp_library (.readInodeFull ino)
  intro answer volume₁ allowed
  obtain ⟨same, read, fine⟩ := allowed
  rw [same, wp_ite]
  apply And.intro
  · intro bad
    apply wp_mono (translateError_quiet answer.1)
    intro ret volume₂ quiet
    exact .inr ⟨quiet.1, quiet.2 bad, fun holds => bad (fine holds)⟩
  · intro zero
    have record := read (not_not.mp zero)
    have count : answer.2.iLinksCount = volume.links ino := record.2
    rw [wp_ite]
    apply And.intro
    · intro unlinked
      have none : volume.counted ino = volume := by
        rw [Volume.counted, if_pos (count.symm.trans unlinked)]
      rw [none]
      exact .inl ⟨rfl, fun _ => rfl⟩
    · intro linked
      rw [wp_bind]
      apply wp_mono (takeLink_counted answer.2)
      intro taken volume₂ took
      obtain ⟨same, mode, links⟩ := took
      rw [same, wp_bind]
      apply wp_mono (updateCtime_some ino taken)
      intro updated volume₃ stamped
      obtain ⟨same, fine, keeps⟩ := stamped
      have left : updated.2.iLinksCount ≠ 0 := by
        rw [keeps.2, links, count]
        intro none
        exact held (eq_of_sub_eq_zero none)
      rw [same, wp_ite]
      refine ⟨fun bad => absurd fine bad, fun _ => ?_⟩
      rw [wp_ite]
      refine ⟨fun _ => ?_, fun none => absurd none (not_not_intro left)⟩
      rw [writeOut, wp_bind]
      apply wp_library (.writeInodeFull ino updated.2)
      intro code volume₄ allowed
      have wrote : WrittenTo steady volume ino updated.2.toInode code volume₄ := allowed
      have written : volume.written ino updated.2.iMode updated.2.iLinksCount =
          volume.counted ino := by
        rw [Volume.counted, if_neg (count ▸ linked), keeps.1, keeps.2, mode, links, count,
          show answer.2.iMode = _ from record.1]
      rw [WrittenTo, written] at wrote
      rw [wp_ite]
      rcases wrote with ⟨zero, same⟩ | ⟨unsteady, bad, same⟩
      · refine ⟨fun bad => absurd zero bad, fun _ => ?_⟩
        exact .inl ⟨same, fun _ => fine⟩
      · refine ⟨fun _ => ?_, fun zero => absurd bad zero⟩
        apply wp_mono (translateError_quiet code)
        intro ret volume₅ quiet
        rw [quiet.1]
        rcases same with same | same
        · exact .inr ⟨same, quiet.2 bad, unsteady⟩
        · exact .inl ⟨same, fun holds => absurd holds unsteady⟩

/-- What `renameParent` finds is the directory of the path up to its last slash. -/
theorem renameParent_found (path : Path) :
    wp (libext2fs resolver steady) (renameParent path)
      (fun result volume' => volume' = volume ∧ (∀ ret, result = .error ret → ret ≠ 0) ∧
        ∀ dir name, result = .ok (dir, name) → dir ≠ 0 ∧ ∃ before, strrchr path = some (before, name) ∧
          resolver.walk volume (before ++ [slash]) = .ok dir) volume := by
  have failed {ret : Int} (bad : ret ≠ 0) :
      (∀ other, (Except.error ret : Except Int (Ino × Name)) = .error other → other ≠ 0) ∧
      ∀ dir name, (Except.error ret : Except Int (Ino × Name)) = .ok (dir, name) → dir ≠ 0 ∧
        ∃ before, strrchr path = some (before, name) ∧
          resolver.walk volume (before ++ [slash]) = .ok dir :=
    ⟨fun _ same => Except.error.inj same ▸ bad, fun _ _ found => by cases found⟩
  unfold renameParent
  rcases split : strrchr path with _ | ⟨before, name⟩
  · rw [split] at failed
    exact ⟨rfl, failed (by decide)⟩
  · rw [split] at failed
    simp only [wp_bind]
    apply wp_library (.namei (before ++ [slash]))
    intro answer volume₁ allowed
    obtain ⟨same, resolved⟩ := allowed
    rw [same, wp_ite]
    apply And.intro
    · intro bad
      rw [wp_bind]
      apply wp_mono (translateError_quiet answer.1)
      intro ret volume' quiet
      exact ⟨quiet.1, failed (quiet.2 bad)⟩
    · intro fine
      rw [wp_ite]
      apply And.intro
      · intro _
        exact ⟨rfl, failed (by decide)⟩
      · intro positive
        refine ⟨rfl, fun ret bad => ?_, ?_⟩
        · cases bad
        · intro dir name' same
          cases same
          exact ⟨positive, before, rfl, (walk_of_resolved resolved (not_not.mp fine)).1⟩

/-- A lookup that finds something, and leaves the volume alone. -/
theorem stringToInode_found (path : Path) (follow : Bool) :
    wp (libext2fs resolver steady) (stringToInode path follow)
      (fun ino volume' => volume' = volume ∧ (ino ≠ 0 →
        (if follow then resolver.walkFollow volume path else resolver.walk volume path) = .ok ino))
      volume := by
  unfold stringToInode
  cases follow with
  | true =>
      simp only [if_true, wp_bind]
      apply wp_library (.nameiFollow path)
      intro answer volume₁ allowed
      rw [wp_ite]
      apply And.intro
      · intro _
        exact ⟨allowed.1, fun bad => absurd rfl bad⟩
      · intro fine
        exact ⟨allowed.1, fun _ => (walk_of_resolved allowed.2 (not_not.mp fine)).1⟩
  | false =>
      simp only [if_false, wp_bind, Bool.false_eq_true]
      apply wp_library (.namei path)
      intro answer volume₁ allowed
      rw [wp_ite]
      apply And.intro
      · intro _
        exact ⟨allowed.1, fun bad => absurd rfl bad⟩
      · intro fine
        exact ⟨allowed.1, fun _ => (walk_of_resolved allowed.2 (not_not.mp fine)).1⟩

/-- `getParentDirIno` finds the directory of the path up to its last slash. -/
theorem getParentDirIno_found (path : Path) :
    wp (libext2fs resolver steady) (getParentDirIno path)
      (fun dir volume' => volume' = volume ∧ (dir ≠ 0 → ∃ before name,
        strrchr path = some (before, name) ∧ resolver.walk volume (before ++ [slash]) = .ok dir))
      volume := by
  unfold getParentDirIno
  rcases strrchr path with _ | ⟨before, name⟩
  · exact ⟨rfl, fun bad => absurd rfl bad⟩
  · apply wp_mono (stringToInode_found (before ++ [slash]) true)
    intro dir volume' ⟨same, found⟩
    refine ⟨same, ?_⟩
    intro positive
    refine ⟨before, name, rfl, ?_⟩
    rw [← resolver.walkFollow_slash]
    exact found positive

theorem getFilename_eq {path before : Path} {name filename : Name}
    (split : strrchr path = some (before, name)) (found : getFilename path = some filename) :
    filename = name ∧ filename ≠ [] := by
  rw [getFilename_split split] at found
  by_cases empty : name = []
  · rw [if_pos empty] at found
    cases found
  · rw [if_neg empty] at found
    rw [← Option.some.inj found]
    exact ⟨rfl, empty⟩

section Rename

variable {contract : Contract Call Answer Volume}

/-- The calls of a rename before it comes to its move. -/
def asks : Call → Bool
  | .namei _ | .strdup | .markSuperDirty | .flush => true
  | _ => false

theorem translateError_asks (err : Errcode) : (translateError err).Only fun call => asks call = true :=
  @translateError_marks (fun call => asks call = true) rfl rfl err

theorem renameParent_asks (path : Path) : (renameParent path).Only fun call => asks call = true := by
  unfold renameParent
  cases strrchr path with
  | none => trivial
  | some split =>
      dsimp only
      apply only_bind (@only_call (fun call => asks call = true) (.namei _) rfl)
      intro answer
      apply only_ite
      · exact only_bind (translateError_asks answer.1) fun _ => trivial
      · exact only_ite trivial trivial

/-- What such calls do under the contract is what they do with the library. -/
def Follows (contract : Contract Call Answer Volume) (resolver : Resolver) (steady : Prop) : Prop :=
  ∀ {A : Type} {routine : Routine A} {post : A → Volume → Prop} {volume : Volume},
    (routine.Only fun call => asks call = true) → wp (libext2fs resolver steady) routine post volume →
    wp contract routine post volume

theorem follows_of_refines (refines : contract.Refines (libext2fs resolver steady)) :
    Follows contract resolver steady :=
  fun _ before => wp_refines refines before

theorem Follows.call (follows : Follows contract resolver steady) (call : Call)
    (listed : asks call = true) {post : Answer call → Volume → Prop}
    (rest : ∀ answer volume', effect resolver steady volume call answer volume' →
      post answer volume') : wp contract call.perform post volume :=
  follows (only_call call listed) (wp_library call rest)

/-- A rename comes to its move from two inodes that differ; a target of zero is a path that leads
nowhere. Without a move it succeeds only where both paths lead to one inode. -/
theorem wp_rename_answered (follows : Follows contract resolver steady)
    {post : Int → Volume → Prop} (fromPath toPath : Path) (failed : ∀ ret, ret ≠ 0 → post ret volume)
    (alike : ∀ ino, resolver.walk volume fromPath = .ok ino → resolver.walk volume toPath = .ok ino →
      post 0 volume)
    (moves : ∀ fromIno toIno, fromIno ≠ 0 → resolver.walk volume fromPath = .ok fromIno →
      (toIno = 0 → resolver.walk volume toPath = .error EXT2_ET_FILE_NOT_FOUND) →
      (toIno ≠ 0 → resolver.walk volume toPath = .ok toIno ∧ toIno ≠ fromIno) →
      wp contract (renameBetween fromPath toPath fromIno toIno) post volume) :
    wp contract (nodeExt2fsRename fromPath toPath) post volume := by
  have reported {err : Errcode} (bad : err ≠ 0) : wp contract (translateError err) post volume := by
    apply wp_mono (follows (translateError_asks err) (translateError_quiet err))
    intro ret volume' quiet
    rw [quiet.1]
    exact failed ret (quiet.2 bad)
  rw [nodeExt2fsRename, wp_bind]
  apply follows.call (.namei fromPath) rfl
  intro source volume₁ found
  rw [found.1, wp_ite]
  refine ⟨fun bad => reported ?_, fun known => ?_⟩
  · intro fine
    have walked := walk_of_resolved found.2 fine
    exact bad.elim (fun other => other fine) walked.2
  have fine : source.1 = 0 := not_not.mp fun bad => known (.inl bad)
  have positive : source.2 ≠ 0 := fun zero => known (.inr zero)
  have walked := (walk_of_resolved found.2 fine).1
  rw [wp_bind]
  apply follows.call (.namei toPath) rfl
  intro target volume₂ allowed
  obtain ⟨same, resolved⟩ := allowed
  rw [same, wp_ite]
  refine ⟨fun bad => reported bad.1, fun known => ?_⟩
  have missing (zero : (if target.1 = EXT2_ET_FILE_NOT_FOUND then 0 else target.2) = 0) :
      resolver.walk volume toPath = .error EXT2_ET_FILE_NOT_FOUND := by
    rcases reached : resolver.walk volume toPath with code | ino
    · rw [reached] at resolved
      by_cases same : target.1 = EXT2_ET_FILE_NOT_FOUND
      · rcases resolved.2 with equal | ⟨_, other⟩
        · rw [← equal, same]
        · exact absurd same other
      · exact absurd ⟨resolved.1, same⟩ known
    · rw [reached] at resolved
      rcases resolved with ⟨fine, equal, positive⟩ | ⟨_, bad, other⟩
      · rw [if_neg (by rw [fine]; decide)] at zero
        exact absurd (equal.symm.trans zero) positive
      · exact absurd ⟨bad, other⟩ known
  have present (there : (if target.1 = EXT2_ET_FILE_NOT_FOUND then 0 else target.2) ≠ 0) :
      resolver.walk volume toPath =
        .ok (if target.1 = EXT2_ET_FILE_NOT_FOUND then 0 else target.2) := by
    by_cases absent : target.1 = EXT2_ET_FILE_NOT_FOUND
    · rw [if_pos absent] at there
      exact absurd rfl there
    · rw [if_neg absent] at there ⊢
      apply (walk_of_resolved resolved _).1
      exact not_not.mp fun bad => known ⟨bad, absent⟩
  simp only [wp_ite, wp_bind, wp_pure]
  refine ⟨fun same => ?_, fun differ => ?_⟩
  · have there := present same.1
    rw [same.2] at there
    exact alike source.2 walked there
  apply follows.call .strdup rfl
  intro _ volume₃ duplicated
  rw [show volume₃ = _ from duplicated]
  refine ⟨fun _ => failed _ (by decide), fun _ => ?_⟩
  apply follows.call .strdup rfl
  intro _ volume₄ duplicated
  rw [show volume₄ = _ from duplicated]
  refine ⟨fun _ => failed _ (by decide), fun _ => ?_⟩
  exact moves source.2 _ positive walked missing
    fun there => ⟨present there, fun same => differ ⟨there, same⟩⟩

theorem wp_rename (follows : Follows contract resolver steady)
    {post : Int → Volume → Prop} (fromPath toPath : Path) (quiet : ∀ ret, post ret volume)
    (moves : ∀ fromIno toIno, fromIno ≠ 0 → resolver.walk volume fromPath = .ok fromIno →
      (toIno = 0 → resolver.walk volume toPath = .error EXT2_ET_FILE_NOT_FOUND) →
      (toIno ≠ 0 → resolver.walk volume toPath = .ok toIno ∧ toIno ≠ fromIno) →
      wp contract (renameBetween fromPath toPath fromIno toIno) post volume) :
    wp contract (nodeExt2fsRename fromPath toPath) post volume :=
  wp_rename_answered follows fromPath toPath (fun ret _ => quiet ret) (fun _ _ _ => quiet 0) moves

/-- The move starts from the directories of both paths. Without them the rename fails. -/
theorem wp_renameBetween_answered (follows : Follows contract resolver steady)
    {post : Int → Volume → Prop} (fromPath toPath : Path) (fromIno toIno : Ino)
    (failed : ∀ ret, ret ≠ 0 → post ret volume)
    (moves : ∀ fromDirIno toDirIno source fromName target toName,
      strrchr fromPath = some (source, fromName) → strrchr toPath = some (target, toName) →
      resolver.walk volume (source ++ [slash]) = .ok fromDirIno →
      resolver.walk volume (target ++ [slash]) = .ok toDirIno → fromDirIno ≠ 0 → toDirIno ≠ 0 →
      wp contract (renameTarget toIno toPath)
        (fun ret volume' => (ret ≠ 0 → post ret volume') ∧ (ret = 0 →
          wp contract (renameMove fromIno fromDirIno toDirIno toName fromPath) post
            volume')) volume) :
    wp contract (renameBetween fromPath toPath fromIno toIno) post volume := by
  rw [renameBetween, wp_bind]
  apply wp_mono (follows (renameParent_asks fromPath) (renameParent_found fromPath))
  intro source volume₁ found
  obtain ⟨same, bad, first⟩ := found
  rw [same]
  rcases source with ret | ⟨fromDirIno, fromName⟩
  · exact failed ret (bad ret rfl)
  · obtain ⟨positive, source, split, parent⟩ := first fromDirIno fromName rfl
    simp only [wp_bind]
    apply wp_mono (follows (renameParent_asks toPath) (renameParent_found toPath))
    intro target volume₂ found
    obtain ⟨same, bad, second⟩ := found
    rw [same]
    rcases target with ret | ⟨toDirIno, toName⟩
    · exact failed ret (bad ret rfl)
    · obtain ⟨positive', target, split', parent'⟩ := second toDirIno toName rfl
      simp only [wp_bind]
      apply wp_mono (moves fromDirIno toDirIno source fromName target toName split split' parent parent'
        positive positive')
      intro ret volume₃ moved
      rw [wp_ite]
      exact ⟨moved.1, fun zero => moved.2 (not_not.mp zero)⟩

theorem wp_renameBetween (follows : Follows contract resolver steady)
    {post : Int → Volume → Prop} (fromPath toPath : Path) (fromIno toIno : Ino)
    (quiet : ∀ ret, post ret volume)
    (moves : ∀ fromDirIno toDirIno source fromName target toName,
      strrchr fromPath = some (source, fromName) → strrchr toPath = some (target, toName) →
      resolver.walk volume (source ++ [slash]) = .ok fromDirIno →
      resolver.walk volume (target ++ [slash]) = .ok toDirIno → fromDirIno ≠ 0 → toDirIno ≠ 0 →
      wp contract (renameTarget toIno toPath)
        (fun ret volume' => (ret ≠ 0 → post ret volume') ∧ (ret = 0 →
          wp contract (renameMove fromIno fromDirIno toDirIno toName fromPath) post
            volume')) volume) :
    wp contract (renameBetween fromPath toPath fromIno toIno) post volume :=
  wp_renameBetween_answered follows fromPath toPath fromIno toIno (fun ret _ => quiet ret) moves

end Rename

end NodeExt2fs.Library
