import NodeExt2fs.Proof.Rejections.Deciding

/-!
This file follows the codes that the operations translate before they return them.
-/

namespace NodeExt2fs.Rejections
open Programs Glue Js
open Program (wp wp_pure wp_bind wp_ite wp_mono)

variable {operation : BindingCall} {verdict : Verdict}

/-- The last failure is translated. -/
theorem told_translated (translates : operation.translates = true) {err : Errcode}
    (last : verdict.last = some err) : Told operation (translateCode err).1 verdict := by
  have fine : Fine operation verdict ↔ ¬Spoils operation err := by
    rw [Fine, last]
    constructor
    · intro every
      exact every err rfl
    · rintro unspoiled _ ⟨⟩
      exact unspoiled
  rw [Told, fine, Spoils, imp_iff_right translates, ← known_translateCode,
    imp_iff_right (translateCode_neg err)]

theorem translateError_wp (translates : operation.translates = true) {err : Errcode}
    (raised : Raised operation err verdict) :
    wp (judged operation) (translateError err) (Told operation) verdict := by
  unfold translateError
  rw [wp_ite]
  constructor
  · intro small
    have success : err = 0 := by
      by_contra failed
      exact absurd small (Nat.not_lt.mpr (Nat.le_of_lt (raised.last failed).1))
    apply (raised.fine success).told
    intro negative
    exact absurd negative (Int.not_lt.mpr (Int.natCast_nonneg err))
  · intro large
    have failed : err ≠ 0 := by
      rintro rfl
      exact large (by decide)
    have told := told_translated translates (raised.last failed).2
    generalize translateCode err = translation at told ⊢
    obtain ⟨ret, isErr⟩ := translation
    simp only [wp_ite, wp_bind, wp_pure]
    refine ⟨fun _ => ?_, fun _ => told⟩
    apply wp_silent .markSuperDirty rfl (fun _ => rfl) rfl
    intro _ verdict' marked _
    apply wp_ignored .flush rfl
    intro _ verdict'' flushed _
    exact told.kept (flushed.trans marked)

/-- A raised code is translated and returned. -/
theorem wp_orTranslate (translates : operation.translates = true) {err : Errcode} {next : Routine Int}
    (raised : Raised operation err verdict)
    (rest : Fine operation verdict → wp (judged operation) next (Told operation) verdict) :
    wp (judged operation) (if err ≠ 0 then translateError err else next) (Told operation) verdict := by
  rw [wp_ite]
  constructor
  · intro failed
    exact translateError_wp translates raised
  · intro success
    exact rest (raised.fine (not_not.mp success))

/-- A call whose failure is translated and returned. -/
theorem wp_guard (translates : operation.translates = true) (call : Call)
    (looked : ignores operation verdict.index call = false) (fine : Fine operation verdict)
    {next : Answer call → Routine Int}
    (rest : ∀ answer verdict, Fine operation verdict →
      wp (judged operation) (next answer) (Told operation) verdict) :
    wp (judged operation)
      (call.perform >>= fun answer =>
        if call.code answer ≠ 0 then translateError (call.code answer) else next answer)
      (Told operation) verdict := by
  rw [wp_bind]
  apply wp_raised call looked fine
  intro answer verdict raised
  exact wp_orTranslate translates raised (rest answer verdict)

/-- Both stamps of an inode on disk end alike. -/
theorem wp_stamped (translates : operation.translates = true) (call : Call)
    (looked : ignores operation verdict.index call = false) (fine : Fine operation verdict)
    {next : Answer call → Routine (Int × InodeLarge)}
    {shown : Answer call → InodeLarge}
    (rest : ∀ answer verdict, Fine operation verdict →
      wp (judged operation) (next answer) (fun result => Told operation result.1) verdict) :
    wp (judged operation)
      (call.perform >>= fun answer =>
        if call.code answer ≠ 0 then do
          let ret ← translateError (call.code answer)
          pure (ret, shown answer)
        else next answer)
      (fun result => Told operation result.1) verdict := by
  rw [wp_bind]
  apply wp_raised call looked fine
  intro answer verdict raised
  rw [wp_ite]
  constructor
  · intro failed
    rw [wp_bind]
    exact translateError_wp translates raised
  · intro success
    exact rest answer verdict (raised.fine (not_not.mp success))

theorem updateCtime_some_wp (ino : Ino) (pinode : InodeLarge) (fine : Fine operation verdict) :
    wp (judged operation) (updateCtime ino (some pinode))
      (fun answer verdict => answer.1 = 0 ∧ Fine operation verdict) verdict := by
  unfold updateCtime
  rw [wp_bind]
  apply wp_mono (getNow_wp fine)
  intro now verdict fine
  exact ⟨rfl, fine⟩

theorem updateMtime_some_wp (ino : Ino) (pinode : InodeLarge) (fine : Fine operation verdict) :
    wp (judged operation) (updateMtime ino (some pinode))
      (fun answer verdict => answer.1 = 0 ∧ Fine operation verdict) verdict := by
  unfold updateMtime
  rw [wp_bind]
  apply wp_mono (getNow_wp fine)
  intro now verdict fine
  exact ⟨rfl, fine⟩

theorem updateCtime_none_wp (translates : operation.translates = true) (ino : Ino)
    (fine : Fine operation verdict) :
    wp (judged operation) (updateCtime ino none) (fun answer => Told operation answer.1) verdict := by
  unfold updateCtime
  rw [wp_bind]
  apply wp_mono (getNow_wp fine)
  intro now verdict fine
  apply wp_stamped translates (.readInodeFull ino) rfl fine
  intro answer verdict fine
  apply wp_stamped translates (.writeInodeFull ino _) rfl fine
  intro err verdict fine
  exact fine.told (by simp)

theorem updateMtime_none_wp (translates : operation.translates = true) (ino : Ino)
    (fine : Fine operation verdict) :
    wp (judged operation) (updateMtime ino none) (fun answer => Told operation answer.1) verdict := by
  unfold updateMtime
  apply wp_stamped translates (.readInodeFull ino) rfl fine
  intro answer verdict fine
  rw [wp_bind]
  apply wp_mono (getNow_wp fine)
  intro now verdict fine
  apply wp_stamped translates (.writeInodeFull ino _) rfl fine
  intro err verdict fine
  exact fine.told (by simp)

/-- The status of a stamp is returned. -/
theorem wp_mtime (translates : operation.translates = true) (ino : Ino) (fine : Fine operation verdict)
    {next : Routine Int}
    (rest : ∀ verdict, Fine operation verdict → wp (judged operation) next (Told operation) verdict) :
    wp (judged operation)
      (updateMtime ino none >>= fun answer => if answer.1 ≠ 0 then pure answer.1 else next)
      (Told operation) verdict := by
  rw [wp_bind]
  apply wp_mono (updateMtime_none_wp translates ino fine)
  rintro ⟨ret, inode⟩ verdict told
  rw [wp_ite]
  exact ⟨fun _ => told, fun zero => rest verdict (told.fine (not_not.mp zero))⟩

theorem writeOut_wp (translates : operation.translates = true) (ino : Ino) (inode : InodeLarge) {ret : Int}
    (told : Told operation ret verdict) :
    wp (judged operation) (writeOut ino inode ret) (Told operation) verdict := by
  unfold writeOut
  rw [wp_bind]
  apply wp_looked (.writeInodeFull ino inode) rfl
  · intro err verdict' _ success _ last
    rw [wp_ite]
    exact ⟨fun failed => absurd success failed, fun _ => told.kept last⟩
  · intro err verdict' failed raised
    rw [wp_ite]
    exact ⟨fun _ => translateError_wp translates raised, fun success => absurd failed success⟩

theorem takeLink_wp (inode : InodeLarge) (fine : Fine operation verdict) :
    wp (judged operation) (takeLink inode) (fun _ verdict => Fine operation verdict) verdict := by
  unfold takeLink
  rw [wp_ite]
  refine ⟨fun _ => ?_, fun _ => fine⟩
  rw [wp_bind]
  apply wp_silent .time rfl (fun _ => rfl) rfl
  intro seconds verdict' last _
  exact fine.kept last

theorem punchBlocks_wp (ino : Ino) (inode : InodeLarge) (fine : Fine operation verdict) :
    wp (judged operation) (punchBlocks ino inode) (fun answer => Raised operation answer.1) verdict := by
  unfold punchBlocks
  rw [wp_bind]
  apply wp_silent (.inodeHasValidBlocks _) rfl (fun _ => rfl) rfl
  intro valid verdict' last _
  rw [wp_ite]
  refine ⟨fun _ => ?_, fun _ => (fine.kept last).raised⟩
  rw [wp_bind]
  apply wp_raised (.punch ino _) rfl (fine.kept last)
  rintro ⟨err, punched⟩ verdict raised
  exact raised

theorem freeInode_wp (translates : operation.translates = true) (ino : Ino) (inode : InodeLarge)
    (fine : Fine operation verdict) :
    wp (judged operation) (freeInode ino inode) (Told operation) verdict := by
  unfold freeInode
  rw [wp_bind]
  apply wp_ignored (.freeExtAttr ino inode) rfl
  rintro ⟨err, inode⟩ verdict' last _
  have fine := fine.kept last
  rw [wp_ite]
  refine ⟨fun _ => writeOut_wp translates ino inode (fine.told (by simp)), fun _ => ?_⟩
  rw [wp_bind]
  apply wp_mono (punchBlocks_wp ino inode fine)
  rintro ⟨err, inode⟩ verdict raised
  rw [wp_ite]
  constructor
  · intro failed
    rw [wp_bind]
    apply wp_mono (translateError_wp translates raised)
    intro ret verdict told
    exact writeOut_wp translates ino inode told
  · intro success
    have fine := raised.fine (not_not.mp success)
    rw [wp_bind]
    apply wp_silent (.inodeAllocStats ino (-1) _) rfl (fun _ => rfl) rfl
    intro _ verdict' last _
    exact writeOut_wp translates ino inode ((fine.kept last).told (by simp))

theorem removeInode_wp (translates : operation.translates = true) (ino : Ino)
    (fine : Fine operation verdict) :
    wp (judged operation) (removeInode ino) (Told operation) verdict := by
  unfold removeInode
  apply wp_guard translates (.readInodeFull ino) rfl fine
  rintro ⟨err, inode⟩ verdict fine
  rw [wp_ite]
  refine ⟨fun _ => fine.told (by simp), fun _ => ?_⟩
  rw [wp_bind]
  apply wp_mono (takeLink_wp inode fine)
  intro inode verdict fine
  rw [wp_bind]
  apply wp_mono (updateCtime_some_wp ino inode fine)
  rintro ⟨ret, inode⟩ verdict ⟨rfl, fine⟩
  have told := @Fine.told operation verdict fine 0 (by simp)
  rw [wp_ite, wp_ite]
  refine ⟨fun _ => told, fun _ => ⟨fun _ => writeOut_wp translates ino inode told, fun _ => ?_⟩⟩
  exact freeInode_wp translates ino inode fine

theorem unlinkName_wp (translates : operation.translates = true) (dir : Ino) (name : Name)
    (fine : Fine operation verdict) :
    wp (judged operation) (unlinkName dir name) (Told operation) verdict := by
  unfold unlinkName
  apply wp_guard translates (.unlink dir name) rfl fine
  intro err verdict fine
  rw [wp_bind]
  exact updateMtime_none_wp translates dir fine

theorem dropParentLink_wp (translates : operation.translates = true) (parent : Ino)
    (fine : Fine operation verdict) :
    wp (judged operation) (dropParentLink parent) (Told operation) verdict := by
  unfold dropParentLink
  apply wp_guard translates (.readInodeFull parent) rfl fine
  rintro ⟨err, inode⟩ verdict fine
  rw [wp_bind]
  apply wp_mono (updateMtime_some_wp parent _ fine)
  rintro ⟨ret, inode⟩ verdict ⟨rfl, fine⟩
  rw [wp_ite]
  refine ⟨fun nonzero => absurd rfl nonzero, fun _ => ?_⟩
  apply wp_guard translates (.writeInodeFull parent inode) rfl fine
  intro err verdict fine
  exact fine.told (by simp)

/-- An operation that translates its codes, looks at its lookups and ignores its checks. -/
structure Moving (operation : BindingCall) : Prop where
  translates : operation.translates = true
  looks : ∀ index path, ignores operation index (.namei path) = false
  checks : ∀ index ino, ignores operation index (.checkDirectory ino) = true

section Moving

variable (moving : Moving operation)

include moving

theorem unlinkFileByName_wp (path : Path) (fine : Fine operation verdict) :
    wp (judged operation) (unlinkFileByName path) (Told operation) verdict := by
  unfold unlinkFileByName
  cases strrchr path with
  | none => exact unlinkName_wp moving.translates EXT2_ROOT_INO path fine
  | some split =>
      obtain ⟨filename, baseName⟩ := split
      apply wp_guard moving.translates (.namei filename) (moving.looks _ _) fine
      rintro ⟨err, dir⟩ verdict fine
      exact unlinkName_wp moving.translates dir baseName fine

theorem nodeExt2fsUnlink_wp (path : Path) (fine : Fine operation verdict) :
    wp (judged operation) (nodeExt2fsUnlink path) (Told operation) verdict := by
  unfold nodeExt2fsUnlink
  apply wp_guard moving.translates (.namei path) (moving.looks _ _) fine
  rintro ⟨err, ino⟩ verdict fine
  rw [wp_bind]
  apply wp_ignored (.checkDirectory ino) (moving.checks _ _)
  intro code verdict' last _
  have fine := fine.kept last
  rw [wp_ite]
  refine ⟨fun _ => fine.told (fun _ => by decide), fun _ => ?_⟩
  apply wp_then (unlinkFileByName_wp moving path fine)
  intro verdict fine
  exact removeInode_wp moving.translates ino fine

theorem nodeExt2fsRmdir_wp (path : Path) (fine : Fine operation verdict) :
    wp (judged operation) (nodeExt2fsRmdir path) (Told operation) verdict := by
  unfold nodeExt2fsRmdir
  apply wp_guard moving.translates (.namei path) (moving.looks _ _) fine
  rintro ⟨err, child⟩ verdict fine
  apply wp_guard moving.translates (.dirIterate child .rmdirProc) rfl fine
  rintro ⟨err, visited⟩ verdict fine
  rw [wp_ite]
  refine ⟨fun _ => fine.told (fun _ => by decide), fun _ => ?_⟩
  apply wp_then (unlinkFileByName_wp moving path fine)
  intro verdict fine
  apply wp_then (removeInode_wp moving.translates child fine)
  intro verdict fine
  apply wp_then (removeInode_wp moving.translates child fine)
  intro verdict fine
  rw [wp_ite]
  refine ⟨fun _ => dropParentLink_wp moving.translates _ fine, fun _ => fine.told (by simp)⟩

theorem renameTarget_wp (toIno : Ino) (toPath : Path) (fine : Fine operation verdict) :
    wp (judged operation) (renameTarget toIno toPath) (Told operation) verdict := by
  unfold renameTarget
  rw [wp_ite]
  refine ⟨fun _ => ?_, fun _ => fine.told (by simp)⟩
  apply wp_guard moving.translates (.readInode toIno) rfl fine
  rintro ⟨err, inode⟩ verdict fine
  rw [wp_ite]
  exact ⟨fun _ => nodeExt2fsRmdir_wp moving toPath fine, fun _ => nodeExt2fsUnlink_wp moving toPath fine⟩

theorem renameCount_wp (dirIno : Ino) (change : BitVec 16) (fine : Fine operation verdict) :
    wp (judged operation) (renameCount dirIno change) (Told operation) verdict := by
  unfold renameCount
  apply wp_guard moving.translates (.readInode dirIno) rfl fine
  rintro ⟨err, inode⟩ verdict fine
  apply wp_guard moving.translates (.writeInode dirIno _) rfl fine
  intro err verdict fine
  exact fine.told (by simp)

theorem renameDotdot_wp (fromIno fromDirIno toDirIno : Ino) (fine : Fine operation verdict) :
    wp (judged operation) (renameDotdot fromIno fromDirIno toDirIno) (Told operation) verdict := by
  unfold renameDotdot
  apply wp_guard moving.translates (.readInode fromIno) rfl fine
  rintro ⟨err, inode⟩ verdict fine
  rw [wp_ite]
  refine ⟨fun _ => ?_, fun _ => fine.told (by simp)⟩
  apply wp_guard moving.translates (.dirIterate fromIno (.updateDotdotHelper toDirIno)) rfl fine
  rintro ⟨err, visited⟩ verdict fine
  apply wp_then (renameCount_wp moving fromDirIno (-1) fine)
  intro verdict fine
  exact renameCount_wp moving toDirIno 1 fine

theorem renameFinish_wp (fromIno toDirIno : Ino) (fromPath : Path) (fine : Fine operation verdict) :
    wp (judged operation) (renameFinish fromIno toDirIno fromPath) (Told operation) verdict := by
  unfold renameFinish
  rw [wp_bind]
  apply wp_mono (updateCtime_none_wp moving.translates fromIno fine)
  rintro ⟨ret, inode⟩ verdict told
  rw [wp_ite]
  refine ⟨fun _ => told, fun zero => ?_⟩
  apply wp_mtime moving.translates toDirIno (told.fine (not_not.mp zero))
  intro verdict fine
  apply wp_then (unlinkFileByName_wp moving fromPath fine)
  intro verdict fine
  apply wp_guard moving.translates .flush2 rfl fine
  intro err verdict fine
  exact fine.told (by simp)

theorem renameMove_wp (fromIno fromDirIno toDirIno : Ino) (toName : Name) (fromPath : Path)
    (fine : Fine operation verdict) :
    wp (judged operation) (renameMove fromIno fromDirIno toDirIno toName fromPath) (Told operation)
      verdict := by
  unfold renameMove
  apply wp_guard moving.translates (.readInode fromIno) rfl fine
  rintro ⟨err, inode⟩ verdict fine
  rw [wp_bind]
  apply wp_mono (expanding_wp toDirIno (fun _ fine => link_wp _ _ _ _ fine) fine)
  intro err verdict raised
  apply wp_orTranslate moving.translates raised
  intro fine
  apply wp_then (renameDotdot_wp moving fromIno fromDirIno toDirIno fine)
  intro verdict fine
  exact renameFinish_wp moving fromIno toDirIno fromPath fine

/-- The parent of a path is found, or its error is told. -/
theorem renameParent_wp (path : Path) (fine : Fine operation verdict) :
    wp (judged operation) (renameParent path) (fun parent verdict => match parent with
      | .error ret => Told operation ret verdict
      | .ok _ => Fine operation verdict) verdict := by
  unfold renameParent
  cases strrchr path with
  | none => exact fine.told (fun _ => by decide)
  | some split =>
      obtain ⟨before, after⟩ := split
      rw [wp_bind]
      apply wp_raised (.namei (before ++ [slash])) (moving.looks _ _) fine
      rintro ⟨err, dirIno⟩ verdict raised
      rw [wp_ite]
      constructor
      · intro failed
        rw [wp_bind]
        exact translateError_wp moving.translates raised
      · intro success
        have fine := raised.fine (not_not.mp success)
        rw [wp_ite]
        exact ⟨fun _ => fine.told (fun _ => by decide), fun _ => fine⟩

theorem renameBetween_wp (fromPath toPath : Path) (fromIno toIno : Ino) (fine : Fine operation verdict) :
    wp (judged operation) (renameBetween fromPath toPath fromIno toIno) (Told operation) verdict := by
  unfold renameBetween
  rw [wp_bind]
  apply wp_mono (renameParent_wp moving fromPath fine)
  intro parent verdict found
  cases parent with
  | error ret => exact found
  | ok fromDir =>
      rw [wp_bind]
      apply wp_mono (renameParent_wp moving toPath found)
      intro parent verdict found
      cases parent with
      | error ret => exact found
      | ok toDir =>
          apply wp_then (renameTarget_wp moving toIno toPath found)
          intro verdict fine
          exact renameMove_wp moving fromIno fromDir.1 toDir.1 toDir.2 fromPath fine

theorem nodeExt2fsRename_wp (fromPath toPath : Path) (fine : Fine operation verdict) :
    wp (judged operation) (nodeExt2fsRename fromPath toPath) (Told operation) verdict := by
  unfold nodeExt2fsRename
  rw [wp_bind]
  apply wp_raised (.namei fromPath) (moving.looks _ _) fine
  rintro ⟨err, fromIno⟩ verdict raised
  rw [wp_ite]
  refine ⟨fun _ => translateError_wp moving.translates raised, fun found => ?_⟩
  have fine := raised.fine (not_not.mp (not_or.mp found).1)
  rw [wp_bind]
  apply wp_raised (.namei toPath) (moving.looks _ _) fine
  rintro ⟨err, toIno⟩ verdict raised
  rw [wp_ite]
  refine ⟨fun _ => translateError_wp moving.translates raised, fun looked => ?_⟩
  have fine : Fine operation verdict := by
    by_cases success : err = 0
    · exact raised.fine success
    · -- The target is absent, which is a known code.
      have absent : err = EXT2_ET_FILE_NOT_FOUND := by
        by_contra other
        exact looked ⟨success, other⟩
      intro code last spoils
      cases (raised.last success).2.symm.trans last
      have named : ¬(EXT2_ET_FILE_NOT_FOUND = EXT2_ET_EA_KEY_NOT_FOUND ∨
          EXT2_ET_FILE_NOT_FOUND = EXT2_ET_UNIMPLEMENTED) := by decide
      apply named
      rw [← absent]
      exact spoils moving.translates
  simp only [wp_ite, wp_bind, wp_pure]
  refine ⟨fun _ => fine.told (by simp), fun _ => ?_⟩
  apply wp_silent .strdup rfl (fun _ => rfl) rfl
  intro copied verdict last _
  have fine := fine.kept last
  refine ⟨fun _ => fine.told (fun _ => by decide), fun _ => ?_⟩
  apply wp_silent .strdup rfl (fun _ => rfl) rfl
  intro copied verdict last _
  have fine := fine.kept last
  exact ⟨fun _ => fine.told (fun _ => by decide),
    fun _ => renameBetween_wp moving fromPath toPath fromIno _ fine⟩

end Moving

section Adding

variable (translates : operation.translates = true)

include translates

theorem linkInto_wp (src : Path) (parent : Ino) (nodeName : Name)
    (looked : ignores operation verdict.index (.namei src) = false) (fine : Fine operation verdict) :
    wp (judged operation) (linkInto src parent nodeName) (Told operation) verdict := by
  unfold linkInto
  rw [wp_bind]
  apply wp_raised (.namei src) looked fine
  rintro ⟨err, ino⟩ verdict raised
  rw [wp_ite]
  refine ⟨fun _ => translateError_wp translates raised, fun found => ?_⟩
  have fine := raised.fine (not_not.mp (not_or.mp found).1)
  apply wp_guard translates (.readInodeFull ino) rfl fine
  rintro ⟨err, inode⟩ verdict fine
  rw [wp_bind]
  apply wp_mono (updateCtime_some_wp ino _ fine)
  rintro ⟨ret, inode⟩ verdict ⟨rfl, fine⟩
  rw [wp_ite]
  refine ⟨fun nonzero => absurd rfl nonzero, fun _ => ?_⟩
  apply wp_guard translates (.writeInodeFull ino inode) rfl fine
  intro err verdict fine
  rw [wp_bind]
  apply wp_mono (expanding_wp parent (fun _ fine => link_wp _ _ _ _ fine) fine)
  intro err verdict raised
  apply wp_orTranslate translates raised
  intro fine
  rw [wp_bind]
  exact updateMtime_none_wp translates parent fine

/-- The second lookup of a link is not looked at. -/
theorem rewriteChild_wp (dest : Path) (looks : ∀ index path, ignores operation index (.namei path) = false)
    (fine : Fine operation verdict) :
    wp (judged operation) (rewriteChild dest) (Told operation) verdict := by
  unfold rewriteChild
  apply wp_guard translates (.namei dest) (looks _ _) fine
  rintro ⟨err, child⟩ verdict fine
  apply wp_guard translates (.readInodeFull child) rfl fine
  rintro ⟨err, inode⟩ verdict fine
  apply wp_guard translates (.writeInodeFull child inode) rfl fine
  intro err verdict fine
  exact fine.told (by simp)

theorem nodeExt2fsSymlink_wp (src dest : Path)
    (looks : ∀ index path, ignores operation index (.namei path) = false)
    (fine : Fine operation verdict) :
    wp (judged operation) (nodeExt2fsSymlink src dest) (Told operation) verdict := by
  unfold nodeExt2fsSymlink
  rw [wp_bind]
  apply wp_silent .strdup rfl (fun _ => rfl) rfl
  intro copied verdict last _
  have fine := fine.kept last
  rw [wp_ite]
  refine ⟨fun _ => fine.told (fun _ => by decide), fun _ => ?_⟩
  cases strrchr dest with
  | none => exact fine.told (fun _ => by decide)
  | some split =>
      obtain ⟨before, nodeName⟩ := split
      apply wp_guard translates (.namei (before ++ [slash])) (looks _ _) fine
      rintro ⟨err, parent⟩ verdict fine
      rw [wp_bind]
      apply wp_mono (expanding_wp parent (fun _ fine => symlink_wp _ _ _ fine) fine)
      intro err verdict raised
      apply wp_orTranslate translates raised
      intro fine
      apply wp_mtime translates parent fine
      intro verdict fine
      exact rewriteChild_wp translates dest looks fine

end Adding

/-- The lookup of the parent directory of a link is not looked at. -/
theorem nodeExt2fsLink_wp (src dest : Path) :
    wp (judged (.change (.link src dest))) (nodeExt2fsLink src dest) (Told (.change (.link src dest)))
      { index := 0, last := none } := by
  have fine : Fine (.change (.link src dest)) { index := 0, last := none } := by
    intro code last
    cases last
  unfold nodeExt2fsLink
  rw [wp_bind]
  apply wp_silent .strdup rfl (fun _ => rfl) rfl
  intro copied verdict last first
  have fine := fine.kept last
  rw [wp_ite]
  refine ⟨fun _ => fine.told (fun _ => by decide), fun _ => ?_⟩
  cases strrchr dest with
  | none => exact fine.told (fun _ => by decide)
  | some split =>
      obtain ⟨before, nodeName⟩ := split
      rw [wp_bind]
      apply wp_ignored (.namei (before ++ [slash])) (by rw [first]; rfl)
      rintro ⟨err, parent⟩ verdict' last second
      have fine := fine.kept last
      rw [wp_ite]
      refine ⟨fun _ => fine.told (by simp), fun _ => ?_⟩
      apply linkInto_wp rfl src parent nodeName _ fine
      rw [second, first]
      rfl

end NodeExt2fs.Rejections
