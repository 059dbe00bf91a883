import NodeExt2fs.Programs.Transition
import NodeExt2fs.Proof.Stamps.Agreement

/-!
This file compares the updates of a buffered inode with those of the inode on the disk.
-/

namespace NodeExt2fs.Stamps
open Programs Glue Library
open Program (wp wp_bind wp_ite wp_mono run_of_wp run_bind)

variable {ino : Ino} {now : Timespec}

/-- A translated error is no success. -/
theorem translateError_stamping {err : Errcode} (failed : err ≠ 0) (state : InodeLarge) :
    wp (inodeStore ino now) (translateError err) (fun ret after => ret ≠ 0 ∧ after = state) state := by
  apply wp_translateError (· = state) _ failed rfl
  rintro call (rfl | rfl) _ rfl
  · exact ⟨trivial, fun _ _ same => same⟩
  · exact ⟨trivial, fun _ _ same => same⟩

/-- The end of a part that has failed. -/
theorem wp_fail {A : Type} {before : InodeLarge} {failed : Int → A} {post : A → InodeLarge → Prop}
    {err : Errcode} (broken : err ≠ 0) (bad : ∀ ret, ret ≠ 0 → post (failed ret) before) :
    wp (inodeStore ino now) (do return failed (← translateError err)) post before := by
  rw [wp_bind]
  apply wp_mono (translateError_stamping broken before)
  rintro ret state ⟨broken, same⟩
  rw [same]
  exact bad ret broken

/-- The inode that an update is to store. -/
def updated (function : UpdateFunction) (now : Timespec) (inode : InodeLarge) : InodeLarge :=
  match function with
  | .updateCtime => ext4InodeSetXtime .iCtime now inode.incrementVersion
  | .updateMtime =>
      (ext4InodeSetXtime .iCtime now (ext4InodeSetXtime .iMtime now inode)).incrementVersion

/-- What a function makes of a buffer. -/
def stamped (function : UpdateFunction) (now : Timespec) (inode : InodeLarge) : InodeLarge :=
  match function with
  | .updateCtime => ext4InodeSetXtime .iCtime now inode
  | .updateMtime => updated .updateMtime now inode

/-- A stamp leaves the version. -/
@[simp] theorem version_set (xtime : Xtime) (now : Timespec) (inode : InodeLarge) :
    (ext4InodeSetXtime xtime now inode).lIVersion = inode.lIVersion := by
  cases xtime <;> rw [ext4InodeSetXtime] <;> split <;> rfl

@[simp] theorem version_increment (inode : InodeLarge) :
    inode.incrementVersion.lIVersion = inode.lIVersion + 1 := rfl

theorem version_updated (function : UpdateFunction) (now : Timespec) (inode : InodeLarge) :
    (updated function now inode).lIVersion = inode.lIVersion + 1 := by
  cases function <;> simp [updated]

/-- The outcome of a call: it stores an inode and succeeds, or leaves the stored inode and fails. -/
def Stores (before inode : InodeLarge) (status : Int) (after : InodeLarge) : Prop :=
  (status = 0 → after = inode) ∧ (status ≠ 0 → after = before)

theorem Stores.success (before inode : InodeLarge) : Stores before inode 0 inode :=
  ⟨fun _ => rfl, fun failed => absurd rfl failed⟩

theorem Stores.failure {before inode : InodeLarge} {status : Int} (failed : status ≠ 0) :
    Stores before inode status before := ⟨fun success => absurd success failed, fun _ => rfl⟩

/-- The end of an update: it stores the inode, or fails. -/
theorem wp_store {A : Type} {before inode : InodeLarge} {failed : Int → A} {done : A}
    {post : A → InodeLarge → Prop} (bad : ∀ ret, ret ≠ 0 → post (failed ret) before)
    (good : post done inode) :
    wp (inodeStore ino now)
      (do
        let err ← ext2fsWriteInodeFull ino inode
        if err ≠ 0 then
          return failed (← translateError err)
        return done)
      post before := by
  rw [wp_bind]
  apply wp_stamping (.writeInodeFull ino inode)
  intro code state written
  rw [show state = _ from written, wp_ite]
  constructor
  · intro broken
    rw [if_neg fun both => broken both.2]
    exact wp_fail broken bad
  · intro success
    rw [if_pos ⟨rfl, not_not.mp success⟩]
    exact good

theorem updateCtimeLocal_null (memory before : InodeLarge) :
    wp (inodeStore ino now) (updateCtimeLocal memory ino none)
      (fun result after => Stores before (updated .updateCtime now before) result.1 after ∧
        result.2.2.readUnset = false) before := by
  unfold updateCtimeLocal
  rw [wp_bind]
  apply wp_mono (getNow_stamping before)
  rintro moment state ⟨clock, same⟩
  rw [clock, same, wp_bind]
  apply wp_stamping (.readInodeFull ino)
  rintro ⟨err, inode⟩ state₁ ⟨same, found⟩
  rw [same, wp_ite]
  constructor
  · intro failed
    exact wp_fail failed fun ret failed => ⟨.failure failed, rfl⟩
  · intro success
    rw [show inode = before from found rfl (not_not.mp success)]
    exact wp_store (fun ret failed => ⟨.failure failed, rfl⟩) ⟨.success before _, rfl⟩

theorem updateMtimeLocal_null (memory before : InodeLarge) :
    wp (inodeStore ino now) (updateMtimeLocal memory ino none)
      (fun result after => Stores before (updated .updateMtime now before) result.1 after ∧
        result.2.2.readUnset = false) before := by
  unfold updateMtimeLocal
  rw [wp_bind]
  apply wp_stamping (.readInodeFull ino)
  rintro ⟨err, inode⟩ state₁ ⟨same, found⟩
  rw [same, wp_ite]
  constructor
  · intro failed
    exact wp_fail failed fun ret failed => ⟨.failure failed, rfl⟩
  · intro success
    rw [show inode = before from found rfl (not_not.mp success), wp_bind]
    apply wp_mono (getNow_stamping before)
    rintro moment state ⟨clock, same⟩
    rw [clock, same]
    exact wp_store (fun ret failed => ⟨.failure failed, rfl⟩) ⟨.success before _, rfl⟩

/-- A function that gets a buffer stamps it, and `update_ctime` reads its local inode. -/
theorem call_buffer (function : UpdateFunction) (memory inode before : InodeLarge) :
    wp (inodeStore ino now) (function.call memory ino (some inode))
      (fun result after => result.1 = 0 ∧ result.2.1 = stamped function now inode ∧
        result.2.2.readUnset = decide (function = .updateCtime) ∧ after = before) before := by
  cases function with
  | updateCtime =>
      unfold UpdateFunction.call updateCtimeLocal
      rw [wp_bind]
      apply wp_mono (getNow_stamping before)
      rintro moment state ⟨clock, same⟩
      rw [clock, same]
      exact ⟨rfl, rfl, rfl, rfl⟩
  | updateMtime =>
      unfold UpdateFunction.call updateMtimeLocal
      dsimp only
      rw [wp_bind]
      apply wp_mono (getNow_stamping before)
      rintro moment state ⟨clock, same⟩
      rw [clock, same]
      exact ⟨rfl, rfl, rfl, rfl⟩

/-- An update on the disk stores the updated inode and reads nothing that is unset. -/
theorem onDisk_stores (update : InodeUpdate) (before : InodeLarge) :
    wp (inodeStore ino update.now) (update.onDisk ino)
      (fun result after => Stores before (updated update.function update.now before) result.1 after ∧
        result.2 = false) before := by
  obtain ⟨function, buffered, now, memory⟩ := update
  unfold InodeUpdate.onDisk
  rw [wp_bind]
  cases function with
  | updateCtime => exact updateCtimeLocal_null memory before
  | updateMtime => exact updateMtimeLocal_null memory before

/-- An update of a buffer stores the stamped inode. -/
theorem writeBack_stores (update : InodeUpdate) (before : InodeLarge) :
    wp (inodeStore ino update.now) (update.writeBack ino before)
      (fun result after => Stores before (stamped update.function update.now before) result.1 after ∧
        result.2 = decide (update.function = .updateCtime)) before := by
  unfold InodeUpdate.writeBack
  rw [wp_bind]
  apply wp_mono (call_buffer update.function update.memory before before)
  rintro ⟨ret, inode, place⟩ state ⟨success, buffer, unset, same⟩
  dsimp only at success buffer unset
  rw [success, buffer, same]
  dsimp only
  rw [unset, wp_ite]
  refine ⟨fun failed => absurd rfl failed, fun _ => ?_⟩
  exact wp_store (fun ret failed => ⟨.failure failed, rfl⟩) ⟨.success before _, rfl⟩

section Runs

variable {Hidden : Type} {library : Timespec → Handler Call Answer Hidden} {view : Hidden → InodeLarge}

/-- The claim about one update: if it succeeds, it raises the version by one and stores what the same
function stores without a buffer, and it reads nothing that is not set. -/
def UpdatesAlike (ino : Ino) (library : Timespec → Handler Call Answer Hidden)
    (view : Hidden → InodeLarge) (hidden : Hidden) : InodeStep Hidden → Prop
  | .others _ => True
  | .stamp update =>
      let outcome := (update.routine ino).run (library update.now) hidden
      (outcome.1.1 = 0 →
        (view outcome.2).lIVersion = (view hidden).lIVersion + 1 ∧
        ∀ hidden', view hidden' = view hidden →
          ((update.onDisk ino).run (library update.now) hidden').1.1 = 0 →
            view outcome.2 = view ((update.onDisk ino).run (library update.now) hidden').2) ∧
      outcome.1.2 = false

/-- The step calls `update_ctime` on a buffer, which it could read. -/
def StampsBuffer (ino : Ino) (library : Timespec → Handler Call Answer Hidden) (hidden : Hidden) :
    InodeStep Hidden → Prop
  | .others _ => False
  | .stamp update => update.function = .updateCtime ∧ update.buffered = true ∧
      (library update.now (.readInodeFull ino) hidden).1.1 = 0

variable (honoured : ∀ now, (inodeStore ino now).Honoured (library now) view)
include honoured

/-- Two updates that store the updated inode store the same. -/
theorem alike_of_updated (update : InodeUpdate) (hidden : Hidden)
    (stored : ((update.routine ino).run (library update.now) hidden).1.1 = 0 →
      view ((update.routine ino).run (library update.now) hidden).2 =
        updated update.function update.now (view hidden))
    (unread : ((update.routine ino).run (library update.now) hidden).1.2 = false) :
    UpdatesAlike ino library view hidden (.stamp update) := by
  refine ⟨fun success => ⟨?_, fun hidden' same success' => ?_⟩, unread⟩
  · rw [stored success, version_updated]
  · have other := run_of_wp (honoured update.now) (onDisk_stores update (view hidden'))
    rw [stored success, other.1.1 success', same]

/-- A buffer that cannot be read is not stamped. -/
theorem unreadable_alike (update : InodeUpdate) (hidden : Hidden) (buffered : update.buffered = true)
    (failed : (library update.now (.readInodeFull ino) hidden).1.1 ≠ 0) :
    UpdatesAlike ino library view hidden (.stamp update) := by
  have chosen : update.routine ino = update.onBuffer ino := if_pos buffered
  have outcome : (update.routine ino).run (library update.now) hidden =
      ((do return (← translateError (library update.now (.readInodeFull ino) hidden).1.1, false) :
        Routine (Int × Bool)).run (library update.now)
          (library update.now (.readInodeFull ino) hidden).2) := by
    rw [chosen, InodeUpdate.onBuffer, run_bind]
    exact congrArg (fun routine : Routine (Int × Bool) => routine.run _ _) (if_pos failed)
  have translated := run_of_wp (honoured update.now)
    (translateError_stamping failed (view (library update.now (.readInodeFull ino) hidden).2))
  refine alike_of_updated honoured update hidden (fun success => ?_) ?_
  · rw [outcome, run_bind] at success
    exact absurd success translated.1
  · rw [outcome, run_bind]
    rfl

/-- A buffer that is read is stamped and written back. -/
theorem readable_outcome (update : InodeUpdate) (hidden : Hidden) (buffered : update.buffered = true)
    (success : (library update.now (.readInodeFull ino) hidden).1.1 = 0) :
    let outcome := (update.routine ino).run (library update.now) hidden
    Stores (view hidden) (stamped update.function update.now (view hidden)) outcome.1.1 (view outcome.2) ∧
      outcome.1.2 = decide (update.function = .updateCtime) := by
  have chosen : update.routine ino = update.onBuffer ino := if_pos buffered
  obtain ⟨same, found⟩ := honoured update.now (.readInodeFull ino) hidden
  have outcome : (update.routine ino).run (library update.now) hidden =
      (update.writeBack ino (view hidden)).run (library update.now)
        (library update.now (.readInodeFull ino) hidden).2 := by
    rw [chosen, InodeUpdate.onBuffer, run_bind, ← found rfl success]
    exact congrArg (fun routine : Routine (Int × Bool) => routine.run _ _) (if_neg (not_not.mpr success))
  have stored := run_of_wp (honoured update.now)
    (writeBack_stores update (view (library update.now (.readInodeFull ino) hidden).2))
  rw [same] at stored
  rw [outcome]
  exact stored

theorem alike_iff (hidden : Hidden) (step : InodeStep Hidden) :
    UpdatesAlike ino library view hidden step ↔ ¬StampsBuffer ino library hidden step := by
  cases step with
  | others after => exact iff_of_true trivial id
  | stamp update =>
      by_cases buffered : update.buffered = true
      · by_cases success : (library update.now (.readInodeFull ino) hidden).1.1 = 0
        · obtain ⟨stored, unset⟩ := readable_outcome honoured update hidden buffered success
          cases function : update.function with
          | updateCtime =>
              apply iff_of_false
              · intro alike
                rw [alike.2, function] at unset
                cases unset
              · exact not_not.mpr ⟨function, buffered, success⟩
          | updateMtime =>
              rw [function] at stored unset
              apply iff_of_true
              · apply alike_of_updated honoured update hidden _ unset
                rw [function]
                exact stored.1
              · intro stamps
                rw [stamps.1] at function
                cases function
        · exact iff_of_true (unreadable_alike honoured update hidden buffered success)
            fun stamps => success stamps.2.2
      · have chosen : update.routine ino = update.onDisk ino := if_neg buffered
        have stored := run_of_wp (honoured update.now) (onDisk_stores update (view hidden))
        rw [← chosen] at stored
        exact iff_of_true (alike_of_updated honoured update hidden stored.1.1 stored.2)
          fun stamps => buffered stamps.2.1

/-- Updates agree, raise the version and read nothing unset in exactly the runs that do not call
`update_ctime` on a buffer. -/
theorem updates_alike_iff (hidden : Hidden) (steps : List (InodeStep Hidden)) :
    Along (InodeStep.step ino library) (UpdatesAlike ino library view) hidden steps ↔
      Along (InodeStep.step ino library) (fun hidden step => ¬StampsBuffer ino library hidden step)
        hidden steps :=
  along_congr (alike_iff honoured) hidden steps

end Runs

/-- A buffer that `update_mtime` stamps, and `update_ctime` without one, raise the version twice. -/
theorem updates_alike_twice :
    Along (InodeStep.step 12 (singleInode 12)) (UpdatesAlike 12 (singleInode 12) id) emptyInode
      [.stamp ⟨.updateMtime, true, ⟨5, 0⟩, emptyInode⟩, .stamp ⟨.updateCtime, false, ⟨6, 0⟩, emptyInode⟩] := by
  apply (updates_alike_iff (singleInode_honours 12) emptyInode _).mpr
  refine ⟨fun stamps => ?_, fun _ _ => ⟨fun stamps => ?_, fun _ _ => trivial⟩⟩
  · cases stamps.1
  · cases stamps.2.1

/-- A buffer that `update_ctime` stamps keeps its version. -/
theorem updates_differ :
    ¬∀ (inode : InodeLarge) (steps : List (InodeStep InodeLarge)),
      Along (InodeStep.step 12 (singleInode 12)) (UpdatesAlike 12 (singleInode 12) id) inode steps := by
  intro every
  have alike := (every emptyInode [.stamp ⟨.updateCtime, true, ⟨5, 0⟩, emptyInode⟩]).1.1 (by decide)
  exact absurd alike.1 (by decide)

end NodeExt2fs.Stamps
