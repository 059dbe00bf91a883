import NodeExt2fs.Proof.Reporting.Reporting

/-!
This file settles which failures of the six operations reach the caller.
-/

namespace NodeExt2fs.Reporting
open Programs Glue Js
open Program (wp wp_pure wp_bind wp_ite wp_mono)

section Write

variable {file : Ptr} {flags : BitVec 32} {buffer : Ptr} {length position : BitVec 32}
  {operation : Operation} {tracker : Tracker} {negative : Bool}

/-- A write of which nothing failed so far; the flag is the sign of its count. -/
structure Writing (negative : Bool) (tracker : Tracker) : Prop where
  none : tracker.last = none
  idle : tracker.retry = .idle
  count : tracker.negative = negative

/-- The calls of a write whose codes are negated and returned. -/
def negated : Call → Bool
  | .fileFlush _ | .flush | .checkDirectory _ => false
  | _ => true

/-- The negated calls that transfer no data. -/
def returned (call : Call) : Bool :=
  match call with
  | .fileWrite _ _ _ => false
  | call => negated call

theorem countsNegative_of_returned {event : CallEvent} (direct : returned event.1) :
    countsNegative event = false := by
  obtain ⟨call, answer⟩ := event
  cases call with
  | fileWrite file buffer wanted => cases direct
  | _ => rfl

theorem Writing.success (writing : Writing negative tracker) {event : CallEvent}
    (direct : returned event.1) (success : event.code = 0) :
    Writing negative (tracker.step (.write file flags buffer length position) event) where
  none := (step_success writing.idle success).1.trans writing.none
  idle := (step_success writing.idle success).2
  count := by simp [Tracker.step, writing.count, countsNegative_of_returned direct]

/-- The negated code of a failed call is reported. -/
theorem settles_of_negated {event : CallEvent} (direct : negated event.1) (failed : event.code ≠ 0)
    {result : Int} (below : result < 0) :
    Settles (.write file flags buffer length position) result
      (tracker.step (.write file flags buffer length position) event) := by
  have unwanted : ¬expected (.write file flags buffer length position) tracker.index event := by
    obtain ⟨call, answer⟩ := event
    cases call with
    | checkDirectory dir => cases direct
    | _ => exact Bool.false_ne_true
  intro failure recorded
  rw [(step_failure failed unwanted).1] at recorded
  cases recorded
  obtain ⟨call, answer⟩ := event
  cases call with
  | fileFlush file => cases direct
  | flush => cases direct
  | _ => exact iff_of_true below rfl

theorem negated_of_returned {call : Call} (direct : returned call) : negated call := by
  cases call with
  | fileWrite file buffer wanted => cases direct
  | _ => exact direct

theorem wp_returned (call : Call) (writing : Writing negative tracker) (direct : returned call)
    {post : Answer call → Tracker → Prop}
    (good : ∀ answer tracker, call.code answer = 0 → Writing negative tracker → post answer tracker)
    (bad : ∀ answer tracker, call.code answer ≠ 0 →
      (∀ result < 0, Settles (.write file flags buffer length position) result tracker) →
        post answer tracker) :
    wp (tracking (.write file flags buffer length position)) call.perform post tracker := by
  rw [wp_call]
  intro answer
  by_cases success : call.code answer = 0
  · exact good answer _ success (writing.success direct success)
  · have failed : CallEvent.code ⟨call, answer⟩ ≠ 0 := success
    exact bad answer _ success fun result below =>
      settles_of_negated (negated_of_returned direct) failed below

/-- The outcome of a part that returns a code. -/
def Coded (operation : Operation) (negative : Bool) (code : Errcode) (tracker : Tracker) : Prop :=
  (code = 0 → Writing negative tracker) ∧
    (code ≠ 0 → ∀ result < 0, Settles operation result tracker)

theorem wp_coded (call : Call) (writing : Writing negative tracker) (direct : returned call) :
    wp (tracking (.write file flags buffer length position)) call.perform
      (fun answer tracker =>
        Coded (.write file flags buffer length position) negative (call.code answer) tracker)
      tracker :=
  wp_returned call writing direct
    (fun _ _ success writing => ⟨fun _ => writing, fun bad => absurd success bad⟩)
    (fun _ _ bad settles => ⟨fun success => absurd success bad, fun _ => settles⟩)

theorem seekForWrite_wp (writing : Writing negative tracker) :
    wp (tracking (.write file flags buffer length position)) (seekForWrite file flags position)
      (Coded (.write file flags buffer length position) negative) tracker := by
  unfold seekForWrite
  simp only [wp_ite]
  refine ⟨fun _ => wp_coded (.fileLlseek file 0 EXT2_SEEK_END) writing rfl, fun _ => ?_⟩
  refine ⟨fun _ => wp_coded (.fileLlseek file _ EXT2_SEEK_SET) writing rfl, fun _ => ?_⟩
  exact ⟨fun _ => writing, fun bad => absurd rfl bad⟩

theorem wp_silent (call : Call) (writing : Writing negative tracker) (direct : returned call)
    (quiet : ∀ answer, call.code answer = 0) {post : Answer call → Tracker → Prop}
    (rest : ∀ answer tracker, Writing negative tracker → post answer tracker) :
    wp (tracking (.write file flags buffer length position)) call.perform post tracker :=
  wp_returned call writing direct (fun answer tracker _ writing => rest answer tracker writing)
    (fun answer _ bad _ => absurd (quiet answer) bad)

theorem updateXtime_wp (a c m : Bool) (writing : Writing negative tracker) :
    wp (tracking (.write file flags buffer length position)) (updateXtime file a c m)
      (Coded (.write file flags buffer length position) negative) tracker := by
  unfold updateXtime
  rw [wp_bind]
  apply wp_silent (.loadFile file) writing rfl (fun _ => rfl)
  intro handle tracker writing
  rw [wp_bind]
  apply wp_returned (.readInode handle.ino) writing rfl
  · rintro ⟨err, inode⟩ tracker success writing
    rw [wp_ite]
    refine ⟨fun bad => absurd success bad, fun _ => ?_⟩
    unfold getNow
    rw [wp_bind, wp_bind]
    apply wp_silent .clockGettime writing rfl (fun _ => rfl)
    rintro ⟨failed, now⟩ tracker writing
    have rest (now : Timespec) (tracker : Tracker) (writing : Writing negative tracker) :
        wp (tracking (.write file flags buffer length position))
          (do
            storeFileInode file (incrementVersion (stampTimes inode (now.tvSec.setWidth 32) a c m))
            ext2fsWriteInode handle.ino
              (incrementVersion (stampTimes inode (now.tvSec.setWidth 32) a c m)))
          (Coded (.write file flags buffer length position) negative) tracker := by
      rw [wp_bind]
      apply wp_silent (.storeFileInode file _) writing rfl (fun _ => rfl)
      intro _ tracker writing
      exact wp_coded (.writeInode handle.ino _) writing rfl
    rw [wp_ite]
    refine ⟨fun _ => rest now tracker writing, fun _ => ?_⟩
    rw [wp_bind]
    apply wp_silent .time writing rfl (fun _ => rfl)
    intro seconds tracker writing
    exact rest _ tracker writing
  · rintro ⟨err, inode⟩ tracker bad settles
    rw [wp_ite]
    exact ⟨fun _ => ⟨fun success => absurd success bad, fun _ => settles⟩,
      fun success => absurd bad success⟩

/-- The failures of a flush are reported only through the sign of the count. -/
structure Flushing (operation : Operation) (negative : Bool) (tracker : Tracker) : Prop where
  count : tracker.negative = negative
  waiting : Waiting tracker
  unread : ∀ failure, tracker.last = some failure → reports operation negative failure = negative

theorem Flushing.step {event : CallEvent} (flushing : Flushing operation negative tracker)
    (quiet : countsNegative event = false) (other : ∀ dir, event.1 ≠ .expandDir dir)
    (unread : event.code ≠ 0 → ∀ index, ¬expected operation index event ∧
      reports operation negative (index, event) = negative) :
    Flushing operation negative (tracker.step operation event) where
  count := by simp [Tracker.step, flushing.count, quiet]
  waiting := flushing.waiting.step other
  unread failure recorded := by
    by_cases success : event.code = 0
    · rw [flushing.waiting.success success] at recorded
      exact flushing.unread failure recorded
    · rw [(step_failure success (unread success _).1).1] at recorded
      cases recorded
      exact (unread success _).2

theorem Flushing.settles (flushing : Flushing operation negative tracker) {result : Int}
    (sign : result < 0 ↔ negative = true) : Settles operation result tracker := by
  intro failure recorded
  rw [flushing.count, flushing.unread failure recorded]
  exact sign

theorem translateError_flushing (err : Errcode)
    (flushing : Flushing (.write file flags buffer length position) negative tracker) :
    wp (tracking (.write file flags buffer length position)) (translateError err)
      (fun _ tracker => Flushing (.write file flags buffer length position) negative tracker)
      tracker := by
  unfold translateError
  rw [wp_ite]
  refine ⟨fun _ => flushing, fun _ => ?_⟩
  simp only [wp_ite, wp_bind, wp_pure]
  refine ⟨fun _ => ?_, fun _ => flushing⟩
  rw [ext2fsMarkSuperDirty, wp_call]
  intro answer
  rw [ext2fsFlush, wp_call]
  intro code
  have marked := @Flushing.step _ _ _ ⟨.markSuperDirty, answer⟩ flushing rfl (by simp)
    (fun bad => absurd rfl bad)
  exact marked.step rfl (by simp) fun _ index => ⟨by simp [expected], rfl⟩

/-- The failed flush of a written file is not returned. -/
theorem flushWritten_wp (written : BitVec 32)
    (writing : Writing (decide (written.toInt < 0)) tracker) :
    wp (tracking (.write file flags buffer length position)) (flushWritten file written)
      (Settles (.write file flags buffer length position)) tracker := by
  unfold flushWritten
  rw [wp_bind, ext2fsFileFlush, wp_call]
  intro code
  have flushing : Flushing (.write file flags buffer length position) (decide (written.toInt < 0))
      (tracker.step (.write file flags buffer length position) ⟨.fileFlush file, code⟩) := by
    have before : Flushing (.write file flags buffer length position)
        (decide (written.toInt < 0)) tracker := by
      refine ⟨writing.count, .of_idle writing.idle, ?_⟩
      intro failure recorded
      cases writing.none.symm.trans recorded
    exact before.step rfl (by simp) fun _ index => ⟨by simp [expected], rfl⟩
  simp only [wp_ite, wp_bind, wp_pure]
  constructor
  · intro bad
    apply wp_mono (translateError_flushing code flushing)
    intro _ tracker flushing
    exact flushing.settles (by simp)
  · intro success
    exact flushing.settles (by simp)

theorem stampWritten_wp (writing : Writing negative tracker) :
    wp (tracking (.write file flags buffer length position)) (stampWritten file flags)
      (Coded (.write file flags buffer length position) negative) tracker := by
  unfold stampWritten
  rw [wp_ite]
  exact ⟨fun _ => updateXtime_wp false true true writing,
    fun _ => ⟨fun _ => writing, fun bad => absurd rfl bad⟩⟩

/-- A part of a write whose nonzero code is negated and returned. -/
theorem wp_then_negated {program : Routine Errcode} {next : Routine Int}
    (first : wp (tracking (.write file flags buffer length position)) program
      (Coded (.write file flags buffer length position) negative) tracker)
    (rest : ∀ tracker, Writing negative tracker →
      wp (tracking (.write file flags buffer length position)) next
        (Settles (.write file flags buffer length position)) tracker) :
    wp (tracking (.write file flags buffer length position))
      (program >>= fun ret => if ret ≠ 0 then pure (-(ret : Int)) else next)
      (Settles (.write file flags buffer length position)) tracker := by
  apply wp_seq first
  rintro ret tracker ⟨good, bad⟩
  rw [wp_ite]
  constructor
  · intro nonzero
    exact bad nonzero _ (neg_errcode_lt_zero.mpr nonzero)
  · intro zero
    exact rest tracker (good (not_not.mp zero))

theorem nodeExt2fsWrite_wp :
    wp (tracking (.write file flags buffer length position))
      (nodeExt2fsWrite file flags buffer length position)
      (Settles (.write file flags buffer length position)) Tracker.start := by
  have start : Writing false Tracker.start := ⟨rfl, rfl, rfl⟩
  unfold nodeExt2fsWrite
  rw [wp_ite]
  refine ⟨fun _ => settles_of_none rfl, fun _ => ?_⟩
  refine wp_then_negated (seekForWrite_wp start) ?_
  intro tracker writing
  rw [wp_bind, ext2fsFileWrite, wp_call]
  rintro ⟨ret, written⟩
  rw [wp_ite]
  constructor
  · intro bad
    have failed : CallEvent.code ⟨.fileWrite file buffer length, (ret, written)⟩ ≠ 0 := bad
    exact settles_of_negated rfl failed (neg_errcode_lt_zero.mpr bad)
  · intro success
    have step := @step_success (.write file flags buffer length position) tracker writing.idle
      ⟨.fileWrite file buffer length, (ret, written)⟩ (not_not.mp success)
    have counted : Writing (decide (written.toInt < 0))
        (tracker.step (.write file flags buffer length position)
          ⟨.fileWrite file buffer length, (ret, written)⟩) :=
      ⟨step.1.trans writing.none, step.2, by simp [Tracker.step, writing.count, countsNegative]⟩
    refine wp_then_negated (stampWritten_wp counted) ?_
    intro tracker writing
    exact flushWritten_wp written writing

end Write

/-- Every operation ends with a result that is negative exactly when its last failure is reported. -/
theorem routine_wp (operation : Operation) :
    wp (tracking operation) operation.routine (Settles operation) Tracker.start := by
  cases operation with
  | unlink path => exact wp_settles (nodeExt2fsUnlink_wp path (.start trivial (by simp)))
  | rmdir path => exact wp_settles (nodeExt2fsRmdir_wp path (.start trivial (by simp)))
  | rename fromPath toPath => exact nodeExt2fsRename_wp fromPath toPath
  | link src dest => exact nodeExt2fsLink_wp src dest
  | symlink src dest => exact wp_settles (nodeExt2fsSymlink_wp src dest (.start trivial (by simp)))
  | write file flags buffer length position => exact nodeExt2fsWrite_wp

/-- The last failure that the operation does not recover from. -/
def lastFailure (operation : Operation) (history : List CallEvent) : Option Failure :=
  (unrecovered operation 0 history).getLast?

/-- The claim about one history: whenever some failure is not recovered from, the call rejects. -/
def Reported (operation : Operation) (args : List Int) (history : List CallEvent) (result : Int) :
    Prop :=
  unrecovered operation 0 history ≠ [] →
    result < 0 ∧ ∃ exception, ccallThrowAsync operation.name args result = .error exception

/-- A failed operation rejects exactly when its last unrecovered failure is one that it reports. -/
theorem reported_iff (operation : Operation) (args : List Int) {history : List CallEvent}
    {result : Int} (outcome : Program.Outcome operation.routine history result) :
    Reported operation args history result ↔
      ∀ failure ∈ lastFailure operation history,
        reports operation (history.any countsNegative) failure := by
  have settled := Program.outcome_of_wp_monitor (routine_wp operation) outcome
  have last := @foldl_last operation Tracker.start rfl history
  have negative := @foldl_negative operation Tracker.start history
  have same : (history.foldl (Tracker.step operation) Tracker.start).last =
      lastFailure operation history := by
    rw [last]
    exact Option.or_none
  rw [Settles, same, negative, Tracker.start, Bool.false_or] at settled
  unfold Reported
  rw [ccallThrowAsync_rejects_iff, and_self]
  cases found : lastFailure operation history with
  | none =>
      have empty : unrecovered operation 0 history = [] := List.getLast?_eq_none_iff.mp found
      simp [empty]
  | some failure =>
      have some : unrecovered operation 0 history ≠ [] := by
        intro empty
        rw [lastFailure, empty] at found
        cases found
      simp [some, settled failure found]

/-- The failed lookup of an unlinked path is reported. -/
theorem reported_iff_unlink :
    Reported (.unlink [0x2f, 0x61]) [] [⟨.namei [0x2f, 0x61], (EXT2_ET_FILE_NOT_FOUND, 0)⟩]
      (-ENOENT) := by
  have outcome : Program.Outcome (Operation.unlink [0x2f, 0x61]).routine
      [⟨.namei [0x2f, 0x61], (EXT2_ET_FILE_NOT_FOUND, 0)⟩] (-ENOENT) :=
    @Program.Outcome.call Call Answer Int (.namei [0x2f, 0x61]) _ (EXT2_ET_FILE_NOT_FOUND, 0) _ _
      (.pure _)
  apply (reported_iff (.unlink [0x2f, 0x61]) [] outcome).mpr
  rintro failure ⟨⟩
  rfl

/-- A link into a directory that does not exist resolves. -/
theorem link_into_missing :
    ¬∀ (operation : Operation) (args : List Int) (history : List CallEvent) (result : Int),
      Program.Outcome operation.routine history result → Reported operation args history result := by
  intro reported
  have outcome : Program.Outcome (Operation.link [0x2f, 0x61] [0x2f, 0x6d, 0x2f, 0x62]).routine
      [⟨.strdup, true⟩, ⟨.namei [0x2f, 0x6d, 0x2f], (EXT2_ET_FILE_NOT_FOUND, 0)⟩] 0 :=
    @Program.Outcome.call Call Answer Int .strdup _ true _ _
      (@Program.Outcome.call Call Answer Int (.namei [0x2f, 0x6d, 0x2f]) _ (EXT2_ET_FILE_NOT_FOUND, 0)
        _ _ (.pure _))
  have negative := (reported _ [] _ _ outcome (by decide)).1
  exact absurd negative (by decide)

end NodeExt2fs.Reporting
