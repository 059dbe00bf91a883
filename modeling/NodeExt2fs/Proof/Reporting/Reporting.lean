import NodeExt2fs.Proof.Reporting.Failures

/-!
This file follows the errors of each operation to its result.
-/

namespace NodeExt2fs.Reporting
open Programs Glue Js
open Program (wp wp_pure wp_bind wp_ite wp_mono)

/-- The tracker as a contract, which permits every call. -/
def tracking (operation : Operation) : Contract Call Answer Tracker :=
  .monitor (fun _ _ => True) (Tracker.step operation)

/-- The operation changes names, and is past the lookup of a link's parent directory. -/
def Past : Operation → Nat → Prop
  | .link _ _, index => 2 ≤ index
  | .write _ _ _ _ _, _ => False
  | _, _ => True

/-- Nothing that failed so far will be reported. -/
structure Calm (operation : Operation) (tracker : Tracker) : Prop where
  silent : ∀ failure, tracker.last = some failure → ∀ negative, ¬reports operation negative failure
  idle : tracker.retry = .idle
  past : Past operation tracker.index
  looked : ∀ fromPath toPath, operation = .rename fromPath toPath → 2 ≤ tracker.index

/-- No repeated call is between its expansion and its second attempt. -/
def Waiting (tracker : Tracker) : Prop := ∀ first before, tracker.retry ≠ .grown first before

/-- The event has just failed. -/
structure Failed (operation : Operation) (event : CallEvent) (tracker : Tracker) : Prop where
  recorded : ∃ index, tracker.last = some (index, event) ∧ Past operation index
  waiting : Waiting tracker
  past : Past operation tracker.index

/-- The result is negative exactly when the last failure is reported. -/
def Settles (operation : Operation) (result : Int) (tracker : Tracker) : Prop :=
  ∀ failure, tracker.last = some failure → (result < 0 ↔ reports operation tracker.negative failure)

/-- A part of an operation ends with a settled result, and stays calm when it succeeds. -/
structure Ends (operation : Operation) (result : Int) (tracker : Tracker) : Prop where
  settled : Settles operation result tracker
  calm : result = 0 → Calm operation tracker
  waiting : Waiting tracker
  past : Past operation tracker.index

/-- The calls whose codes the operations translate. -/
def translated : Call → Bool
  | .freeExtAttr _ _ | .checkDirectory _ | .flush => false
  | _ => true

variable {operation : Operation} {tracker : Tracker}

theorem Past.succ {index : Nat} (past : Past operation index) : Past operation (index + 1) := by
  cases operation with
  | link src dest => exact Nat.le_succ_of_le past
  | _ => exact past

/-- Only lookups and directory checks have expected errors. -/
theorem expected_cases {index : Nat} {event : CallEvent} (wanted : expected operation index event) :
    (∃ fromPath toPath path, operation = .rename fromPath toPath ∧ event.1 = .namei path ∧ index = 1) ∨
      ∃ dir, event.1 = .checkDirectory dir := by
  unfold expected at wanted
  split at wanted
  case h_1 fromPath toPath path looked =>
      have first := (of_decide_eq_true wanted).1
      exact .inl ⟨fromPath, toPath, path, rfl, looked, first⟩
  case h_2 checked => exact .inr ⟨_, checked⟩
  case h_3 => cases wanted

theorem unexpected {index : Nat} {event : CallEvent} (coded : translated event.1)
    (other : ∀ path, event.1 ≠ .namei path) : ¬expected operation index event := by
  intro wanted
  obtain ⟨_, _, path, -, looked, -⟩ | ⟨dir, checked⟩ := expected_cases wanted
  · exact other path looked
  · rw [checked] at coded
    cases coded

theorem Calm.unexpected (calm : Calm operation tracker) {event : CallEvent}
    (coded : translated event.1) : ¬expected operation tracker.index event := by
  intro wanted
  obtain ⟨fromPath, toPath, _, renames, -, first⟩ | ⟨dir, checked⟩ := expected_cases wanted
  · have later := calm.looked fromPath toPath renames
    omega
  · rw [checked] at coded
    cases coded

theorem reports_of_past {index : Nat} (past : Past operation index) {event : CallEvent}
    (coded : translated event.1) (negative : Bool) :
    reports operation negative (index, event) ↔ EXT2_ET_BASE ≤ event.code := by
  unfold reports
  split
  case h_1 | h_2 | h_3 => exact past.elim
  case h_4 same | h_5 same | h_6 same =>
      dsimp only at same
      rw [same] at coded
      cases coded
  case h_7 =>
      have later : index ≠ 1 := by
        unfold Past at past
        omega
      rw [decide_eq_true_iff]
      exact and_iff_left later
  case h_8 => exact decide_eq_true_iff

/-- A call moves the tracker by its event. -/
theorem wp_call (call : Call) (post : Answer call → Tracker → Prop) :
    wp (tracking operation) call.perform post tracker ↔
      ∀ answer, post answer (tracker.step operation ⟨call, answer⟩) := by
  constructor
  · intro before answer
    exact before.2 answer _ rfl
  · rintro before
    refine ⟨trivial, ?_⟩
    rintro answer _ rfl
    exact before answer

theorem wp_seq {A B : Type} {program : Routine A} {next : A → Routine B}
    {post : A → Tracker → Prop} {post' : B → Tracker → Prop}
    (first : wp (tracking operation) program post tracker)
    (rest : ∀ value tracker, post value tracker → wp (tracking operation) (next value) post' tracker) :
    wp (tracking operation) (program >>= next) post' tracker := by
  rw [wp_bind]
  exact wp_mono first rest

theorem Waiting.of_idle (idle : tracker.retry = .idle) : Waiting tracker := by
  intro first before grown
  cases idle.symm.trans grown

theorem expansion_eq_some {first call : Call} (expands : expansion first = some call) :
    ∃ dir, call = .expandDir dir := by
  cases first <;> cases expands
  · exact ⟨_, rfl⟩
  · exact ⟨_, rfl⟩

theorem Waiting.success (waiting : Waiting tracker) {event : CallEvent} (success : event.code = 0) :
    (tracker.step operation event).last = tracker.last := by
  cases phase : tracker.retry with
  | idle => simp [Tracker.step, success, Tracker.succeed, phase]
  | full first before => simp [Tracker.step, success, Tracker.succeed, phase]
  | grown first before => exact absurd phase (waiting first before)

/-- Only an expansion starts a second attempt. -/
theorem Waiting.step (waiting : Waiting tracker) {event : CallEvent}
    (other : ∀ dir, event.1 ≠ .expandDir dir) : Waiting (tracker.step operation event) := by
  by_cases success : event.code = 0
  · apply Waiting.of_idle
    cases phase : tracker.retry with
    | idle => simp [Tracker.step, success, Tracker.succeed, phase]
    | full first before =>
        have lost : expansion first ≠ some event.1 := by
          intro expands
          obtain ⟨dir, same⟩ := expansion_eq_some expands
          exact other dir same
        simp [Tracker.step, success, Tracker.succeed, phase, lost]
    | grown first before => exact absurd phase (waiting first before)
  · by_cases wanted : expected operation tracker.index event
    · exact .of_idle (step_expected success wanted).2
    · intro first before grown
      rw [(step_failure success wanted).2] at grown
      split at grown
      · cases grown
      · cases grown

theorem Calm.ends (calm : Calm operation tracker) : Ends operation 0 tracker where
  settled failure recorded := by simpa using calm.silent failure recorded _
  calm _ := calm
  waiting := .of_idle calm.idle
  past := calm.past

theorem Calm.of_step {event : CallEvent} (calm : Calm operation tracker)
    (step : (tracker.step operation event).last = tracker.last ∧
      (tracker.step operation event).retry = .idle) :
    Calm operation (tracker.step operation event) where
  silent := by
    rw [step.1]
    exact calm.silent
  idle := step.2
  past := calm.past.succ
  looked fromPath toPath same := Nat.le_succ_of_le (calm.looked fromPath toPath same)

theorem Calm.success (calm : Calm operation tracker) {event : CallEvent} (success : event.code = 0) :
    Calm operation (tracker.step operation event) :=
  calm.of_step (step_success calm.idle success)

theorem Past.failed (past : Past operation tracker.index) {event : CallEvent}
    (failed : event.code ≠ 0) (unwanted : ¬expected operation tracker.index event) :
    Failed operation event (tracker.step operation event) := by
  have step := step_failure failed unwanted
  refine ⟨⟨tracker.index, step.1, past⟩, ?_, past.succ⟩
  intro first before grown
  rw [step.2] at grown
  split at grown
  · cases grown
  · cases grown

/-- The codes of these calls have no effect on the result. -/
def dropped : Call → Bool
  | .freeExtAttr _ _ | .checkDirectory _ => true
  | _ => false

theorem reports_of_dropped {index : Nat} (past : Past operation index) {event : CallEvent}
    (unread : dropped event.1) (negative : Bool) : ¬reports operation negative (index, event) := by
  obtain ⟨call, answer⟩ := event
  cases call with
  | freeExtAttr ino inode =>
      cases operation with
      | write file flags buffer length position => exact past.elim
      | _ => exact Bool.false_ne_true
  | checkDirectory dir =>
      cases operation with
      | write file flags buffer length position => exact past.elim
      | _ => exact Bool.false_ne_true
  | _ => cases unread

/-- A dropped error leaves the operation calm. -/
theorem Calm.dropped (calm : Calm operation tracker) {event : CallEvent} (unread : dropped event.1) :
    Calm operation (tracker.step operation event) := by
  by_cases success : event.code = 0
  · exact calm.success success
  · by_cases wanted : expected operation tracker.index event
    · exact calm.of_step (step_expected success wanted)
    · have step := step_failure success wanted
      have single : (expansion event.1).isSome = false := by
        obtain ⟨call, answer⟩ := event
        cases call with
        | freeExtAttr ino inode => rfl
        | checkDirectory dir => rfl
        | _ => cases unread
      constructor
      · rw [step.1]
        rintro failure ⟨⟩
        exact reports_of_dropped calm.past unread
      · rw [step.2]
        simp [single]
      · exact calm.past.succ
      · intro fromPath toPath same
        exact Nat.le_succ_of_le (calm.looked fromPath toPath same)

/-- A call without a status keeps the operation calm. -/
theorem wp_quiet (call : Call) (calm : Calm operation tracker) (quiet : ∀ answer, call.code answer = 0)
    {post : Answer call → Tracker → Prop}
    (rest : ∀ answer tracker, Calm operation tracker → post answer tracker) :
    wp (tracking operation) call.perform post tracker :=
  (wp_call call post).mpr fun answer => rest answer _ (calm.success (quiet answer))

theorem wp_dropped (call : Call) (calm : Calm operation tracker) (unread : dropped call)
    {post : Answer call → Tracker → Prop}
    (rest : ∀ answer tracker, Calm operation tracker → post answer tracker) :
    wp (tracking operation) call.perform post tracker :=
  (wp_call call post).mpr fun answer => rest answer _ (calm.dropped unread)

theorem reports_flush {index : Nat} (past : Past operation index) {event : CallEvent}
    (flushed : event.1 = .flush) (negative : Bool) : reports operation negative (index, event) := by
  obtain ⟨call, answer⟩ := event
  obtain rfl : call = .flush := flushed
  cases operation with
  | write file flags buffer length position => exact past.elim
  | _ => rfl

/-- A failure that is reported in any case ends the operation with a negative result. -/
theorem Ends.of_negative {result : Int} (negative : result < 0) (waiting : Waiting tracker)
    (past : Past operation tracker.index)
    (reported : ∀ failure, tracker.last = some failure → reports operation tracker.negative failure) :
    Ends operation result tracker where
  settled failure recorded := iff_of_true negative (reported failure recorded)
  calm zero := absurd negative (by simp [zero])
  waiting := waiting
  past := past

/-- After a flush, the last failure is the reported one or that of the flush. -/
theorem Failed.flush {event : CallEvent} (failed : Failed operation event tracker)
    (reported : ∀ negative index, Past operation index → reports operation negative (index, event))
    (code : Errcode) (failure : Failure)
    (recorded : (tracker.step operation ⟨.flush, code⟩).last = some failure) :
    reports operation (tracker.step operation ⟨.flush, code⟩).negative failure := by
  by_cases success : CallEvent.code ⟨.flush, code⟩ = 0
  · obtain ⟨index, before, earlier⟩ := failed.recorded
    rw [failed.waiting.success success, before] at recorded
    cases recorded
    exact reported _ index earlier
  · have unwanted : ¬expected operation tracker.index ⟨.flush, code⟩ := by
      cases operation <;> simp [expected]
    rw [(step_failure success unwanted).1] at recorded
    cases recorded
    exact reports_flush failed.past rfl _

/-- The translation of a failure settles the result, even when its flush fails. -/
theorem translateError_wp {event : CallEvent} {err : Errcode} (failed : Failed operation event tracker)
    (same : event.code = err) (bad : err ≠ 0) (coded : translated event.1) :
    wp (tracking operation) (translateError err) (Ends operation) tracker := by
  subst same
  unfold translateError
  obtain ⟨index, recorded, past⟩ := failed.recorded
  have judged := reports_of_past past coded
  rw [wp_ite]
  constructor
  · intro small
    rw [wp_pure]
    constructor
    · intro failure same
      cases recorded.symm.trans same
      rw [judged]
      constructor
      · intro negative
        exact absurd negative (by simp)
      · intro large
        exact absurd small (Nat.not_lt.mpr large)
    · intro zero
      exact absurd (Int.natCast_eq_zero.mp zero) bad
    · exact failed.waiting
    · exact failed.past
  · intro large
    have reported (negative : Bool) (index : Nat) (past : Past operation index) :
        reports operation negative (index, event) :=
      (reports_of_past past coded negative).mpr (Nat.not_lt.mp large)
    have negative := translateCode_neg event.code
    generalize translateCode event.code = translation at negative ⊢
    rcases translation with ⟨ret, isErr⟩
    simp only [wp_ite, wp_bind, wp_pure]
    constructor
    · intro printed
      rw [ext2fsMarkSuperDirty, wp_call]
      intro answer
      have marked : Failed operation event (tracker.step operation ⟨.markSuperDirty, answer⟩) :=
        ⟨⟨index, (failed.waiting.success rfl).trans recorded, past⟩,
          failed.waiting.step (by simp), failed.past.succ⟩
      rw [ext2fsFlush, wp_call]
      intro code
      exact .of_negative negative (marked.waiting.step (by simp)) marked.past.succ
        (marked.flush reported code)
    · intro silent
      apply Ends.of_negative negative failed.waiting failed.past
      intro failure same
      cases recorded.symm.trans same
      exact reported _ index past

/-- A call with a status leaves the operation calm, or has just failed. -/
theorem wp_attempt (call : Call) (calm : Calm operation tracker) (coded : translated call)
    {post : Answer call → Tracker → Prop}
    (good : ∀ answer tracker, call.code answer = 0 → Calm operation tracker → post answer tracker)
    (bad : ∀ answer tracker, call.code answer ≠ 0 → Failed operation ⟨call, answer⟩ tracker →
      post answer tracker) :
    wp (tracking operation) call.perform post tracker := by
  rw [wp_call]
  intro answer
  by_cases success : call.code answer = 0
  · exact good answer _ success (calm.success success)
  · exact bad answer _ success (calm.past.failed success (calm.unexpected coded))

/-- A call whose failure is translated: the operation stays calm, or ends settled. -/
theorem wp_guard (call : Call) (calm : Calm operation tracker) (coded : translated call)
    {next : Answer call → Routine Int}
    (rest : ∀ answer tracker, Calm operation tracker →
      wp (tracking operation) (next answer) (Ends operation) tracker) :
    wp (tracking operation)
      (call.perform >>= fun answer =>
        if call.code answer ≠ 0 then translateError (call.code answer) else next answer)
      (Ends operation) tracker := by
  rw [wp_bind]
  apply wp_attempt call calm coded
  · intro answer tracker success calm
    rw [wp_ite]
    exact ⟨fun bad => absurd success bad, fun _ => rest answer tracker calm⟩
  · intro answer tracker bad failed
    rw [wp_ite]
    exact ⟨fun _ => translateError_wp failed rfl bad coded, fun good => absurd bad good⟩

/-- Nothing has failed so far. -/
structure Clean (operation : Operation) (tracker : Tracker) : Prop extends Calm operation tracker where
  none : tracker.last = none

theorem Clean.success (clean : Clean operation tracker) {event : CallEvent}
    (success : event.code = 0) : Clean operation (tracker.step operation event) where
  toCalm := clean.toCalm.success success
  none := (step_success clean.idle success).1.trans clean.none

/-- A result before the first failure settles nothing. -/
theorem Clean.ends (clean : Clean operation tracker) {result : Int} (nonzero : result ≠ 0) :
    Ends operation result tracker where
  settled failure recorded := by cases clean.none.symm.trans recorded
  calm zero := absurd zero nonzero
  waiting := .of_idle clean.idle
  past := clean.past

/-- The first call that can fail keeps a clean record, or ends settled. -/
theorem wp_guard_clean (call : Call) (clean : Clean operation tracker) (coded : translated call)
    {next : Answer call → Routine Int}
    (rest : ∀ answer tracker, Clean operation tracker →
      wp (tracking operation) (next answer) (Ends operation) tracker) :
    wp (tracking operation)
      (call.perform >>= fun answer =>
        if call.code answer ≠ 0 then translateError (call.code answer) else next answer)
      (Ends operation) tracker := by
  rw [wp_bind, wp_call]
  intro answer
  rw [wp_ite]
  constructor
  · intro bad
    have failed : Failed operation ⟨call, answer⟩ (tracker.step operation _) :=
      clean.past.failed bad (clean.unexpected coded)
    exact translateError_wp failed rfl bad coded
  · intro success
    have good : CallEvent.code ⟨call, answer⟩ = 0 := not_not.mp success
    exact rest answer _ (clean.success good)

/-- A part whose nonzero result is returned: the operation stays calm, or ends settled. -/
theorem wp_then {program next : Routine Int}
    (first : wp (tracking operation) program (Ends operation) tracker)
    (rest : ∀ tracker, Calm operation tracker →
      wp (tracking operation) next (Ends operation) tracker) :
    wp (tracking operation) (program >>= fun ret => if ret ≠ 0 then pure ret else next)
      (Ends operation) tracker := by
  apply wp_seq first
  intro ret tracker ends
  rw [wp_ite]
  constructor
  · intro nonzero
    exact ends
  · intro zero
    exact rest tracker (ends.calm (not_not.mp zero))

theorem getNow_wp (calm : Calm operation tracker) :
    wp (tracking operation) getNow (fun _ tracker => Calm operation tracker) tracker := by
  unfold getNow
  rw [wp_bind]
  apply wp_quiet .clockGettime calm (fun _ => rfl)
  rintro ⟨failed, now⟩ tracker calm
  rw [wp_ite]
  constructor
  · intro fine
    exact calm
  · intro broken
    exact wp_quiet .time calm (fun _ => rfl) fun _ tracker calm => calm

theorem updateCtime_some_wp (ino : Ino) (pinode : InodeLarge) (calm : Calm operation tracker) :
    wp (tracking operation) (updateCtime ino (some pinode))
      (fun answer tracker => answer.1 = 0 ∧ Calm operation tracker) tracker := by
  unfold updateCtime
  apply wp_seq (getNow_wp calm)
  intro now tracker calm
  exact ⟨rfl, calm⟩

theorem updateMtime_some_wp (ino : Ino) (pinode : InodeLarge) (calm : Calm operation tracker) :
    wp (tracking operation) (updateMtime ino (some pinode))
      (fun answer tracker => answer.1 = 0 ∧ Calm operation tracker) tracker := by
  unfold updateMtime
  apply wp_seq (getNow_wp calm)
  intro now tracker calm
  exact ⟨rfl, calm⟩

theorem updateCtime_none_wp (ino : Ino) (calm : Calm operation tracker) :
    wp (tracking operation) (updateCtime ino none)
      (fun answer tracker => Ends operation answer.1 tracker) tracker := by
  unfold updateCtime
  apply wp_seq (getNow_wp calm)
  intro now tracker calm
  simp only [wp_bind, wp_ite, wp_pure]
  apply wp_attempt (.readInodeFull ino) calm rfl
  · rintro ⟨err, inode⟩ tracker success calm
    refine ⟨fun bad => absurd success bad, fun _ => ?_⟩
    apply wp_attempt (.writeInodeFull ino _) calm rfl
    · intro err tracker success calm
      exact ⟨fun bad => absurd success bad, fun _ => calm.ends⟩
    · intro err tracker bad failed
      exact ⟨fun _ => translateError_wp failed rfl bad rfl, fun good => absurd bad good⟩
  · rintro ⟨err, inode⟩ tracker bad failed
    exact ⟨fun _ => translateError_wp failed rfl bad rfl, fun good => absurd bad good⟩

theorem updateMtime_none_wp (ino : Ino) (calm : Calm operation tracker) :
    wp (tracking operation) (updateMtime ino none)
      (fun answer tracker => Ends operation answer.1 tracker) tracker := by
  unfold updateMtime
  simp only [wp_bind, wp_ite, wp_pure]
  apply wp_attempt (.readInodeFull ino) calm rfl
  · rintro ⟨err, inode⟩ tracker success calm
    refine ⟨fun bad => absurd success bad, fun _ => ?_⟩
    apply wp_mono (getNow_wp calm)
    intro now tracker calm
    apply wp_attempt (.writeInodeFull ino _) calm rfl
    · intro err tracker success calm
      exact ⟨fun bad => absurd success bad, fun _ => calm.ends⟩
    · intro err tracker bad failed
      exact ⟨fun _ => translateError_wp failed rfl bad rfl, fun good => absurd bad good⟩
  · rintro ⟨err, inode⟩ tracker bad failed
    exact ⟨fun _ => translateError_wp failed rfl bad rfl, fun good => absurd bad good⟩

theorem reports_congr {index : Nat} (past : Past operation index) (failure : Failure)
    (negative negative' : Bool) :
    reports operation negative failure = reports operation negative' failure := by
  obtain ⟨place, call, answer⟩ := failure
  cases operation with
  | write file flags buffer length position => exact past.elim
  | _ => cases call <;> rfl

theorem Ends.success {result : Int} (ends : Ends operation result tracker) {event : CallEvent}
    (success : event.code = 0) (other : ∀ dir, event.1 ≠ .expandDir dir) :
    Ends operation result (tracker.step operation event) where
  settled failure recorded := by
    rw [ends.waiting.success success] at recorded
    rw [reports_congr ends.past failure _ tracker.negative]
    exact ends.settled failure recorded
  calm zero := (ends.calm zero).success success
  waiting := ends.waiting.step other
  past := ends.past.succ

/-- An inode that is written out keeps the result, unless the write fails. -/
theorem writeOut_wp (ino : Ino) (inode : InodeLarge) {ret : Int}
    (ends : Ends operation ret tracker) :
    wp (tracking operation) (writeOut ino inode ret) (Ends operation) tracker := by
  unfold writeOut
  rw [wp_bind, ext2fsWriteInodeFull, wp_call]
  intro code
  rw [wp_ite]
  constructor
  · intro bad
    have failed : Failed operation ⟨.writeInodeFull ino inode, code⟩ (tracker.step operation _) :=
      ends.past.failed bad (unexpected rfl (by simp))
    exact translateError_wp failed rfl bad rfl
  · intro success
    exact ends.success (not_not.mp success) (by simp)

theorem takeLink_wp (inode : InodeLarge) (calm : Calm operation tracker) :
    wp (tracking operation) (takeLink inode) (fun _ tracker => Calm operation tracker) tracker := by
  unfold takeLink
  rw [wp_ite]
  constructor
  · intro single
    rw [wp_bind]
    exact wp_quiet .time calm (fun _ => rfl) fun _ tracker calm => calm
  · intro several
    exact calm

theorem punchBlocks_wp (ino : Ino) (inode : InodeLarge) (calm : Calm operation tracker) :
    wp (tracking operation) (punchBlocks ino inode)
      (fun answer tracker => (answer.1 = 0 → Calm operation tracker) ∧
        (answer.1 ≠ 0 → ∃ inode punched, Failed operation ⟨.punch ino inode, (answer.1, punched)⟩ tracker))
      tracker := by
  unfold punchBlocks
  rw [wp_bind]
  apply wp_quiet (.inodeHasValidBlocks _) calm (fun _ => rfl)
  intro valid tracker calm
  rw [wp_ite]
  constructor
  · intro blocks
    rw [wp_bind]
    apply wp_attempt (.punch ino _) calm rfl
    · rintro ⟨err, punched⟩ tracker success calm
      exact ⟨fun _ => calm, fun bad => absurd success bad⟩
    · rintro ⟨err, punched⟩ tracker bad failed
      exact ⟨fun success => absurd success bad, fun _ => ⟨_, _, failed⟩⟩
  · intro none
    exact ⟨fun _ => calm, fun bad => absurd rfl bad⟩

theorem freeInode_wp (ino : Ino) (inode : InodeLarge) (calm : Calm operation tracker) :
    wp (tracking operation) (freeInode ino inode) (Ends operation) tracker := by
  unfold freeInode
  rw [wp_bind]
  apply wp_dropped (.freeExtAttr ino inode) calm rfl
  rintro ⟨err, inode⟩ tracker calm
  rw [wp_ite]
  constructor
  · intro bad
    exact writeOut_wp ino inode calm.ends
  · intro success
    apply wp_seq (punchBlocks_wp ino inode calm)
    rintro ⟨err, inode⟩ tracker ⟨good, bad⟩
    rw [wp_ite]
    constructor
    · intro failed
      obtain ⟨_, _, failure⟩ := bad failed
      apply wp_seq (translateError_wp failure rfl failed rfl)
      intro ret tracker ends
      exact writeOut_wp ino inode ends
    · intro success
      rw [wp_bind]
      apply wp_quiet (.inodeAllocStats ino (-1) _) (good (not_not.mp success)) (fun _ => rfl)
      intro _ tracker calm
      exact writeOut_wp ino inode calm.ends

theorem removeInode_wp (ino : Ino) (calm : Calm operation tracker) :
    wp (tracking operation) (removeInode ino) (Ends operation) tracker := by
  unfold removeInode
  refine wp_guard (.readInodeFull ino) calm rfl ?_
  rintro ⟨err, inode⟩ tracker calm
  rw [wp_ite]
  constructor
  · intro none
    exact calm.ends
  · intro some
    apply wp_seq (takeLink_wp inode calm)
    intro inode tracker calm
    apply wp_seq (updateCtime_some_wp ino inode calm)
    rintro ⟨ret, inode⟩ tracker ⟨rfl, calm⟩
    rw [wp_ite]
    constructor
    · intro nonzero
      exact absurd rfl nonzero
    · intro zero
      rw [wp_ite]
      exact ⟨fun _ => writeOut_wp ino inode calm.ends, fun _ => freeInode_wp ino inode calm⟩

theorem unlinkName_wp (dir : Ino) (name : Name) (calm : Calm operation tracker) :
    wp (tracking operation) (unlinkName dir name) (Ends operation) tracker := by
  unfold unlinkName
  refine wp_guard (.unlink dir name) calm rfl ?_
  intro code tracker calm
  rw [wp_bind]
  exact updateMtime_none_wp dir calm

theorem unlinkFileByName_wp (path : Path) (calm : Calm operation tracker) :
    wp (tracking operation) (unlinkFileByName path) (Ends operation) tracker := by
  unfold unlinkFileByName
  cases strrchr path with
  | none => exact unlinkName_wp EXT2_ROOT_INO path calm
  | some split =>
      obtain ⟨filename, baseName⟩ := split
      refine wp_guard (.namei filename) calm rfl ?_
      rintro ⟨err, dir⟩ tracker calm
      exact unlinkName_wp dir baseName calm

/-- An error of the directory check is either expected or dropped. -/
theorem nodeExt2fsUnlink_wp (path : Path) (clean : Clean operation tracker) :
    wp (tracking operation) (nodeExt2fsUnlink path) (Ends operation) tracker := by
  unfold nodeExt2fsUnlink
  refine wp_guard_clean (.namei path) clean rfl ?_
  rintro ⟨err, ino⟩ tracker clean
  rw [wp_bind, ext2fsCheckDirectory, wp_call]
  intro code
  rw [wp_ite]
  constructor
  · intro directory
    have success : CallEvent.code ⟨.checkDirectory ino, code⟩ = 0 := directory
    exact (clean.success success).ends (by decide)
  · intro file
    have calm := @Calm.dropped operation _ clean.toCalm ⟨.checkDirectory ino, code⟩ rfl
    refine wp_then (unlinkFileByName_wp path calm) ?_
    intro tracker calm
    exact removeInode_wp ino calm

theorem dropParentLink_wp (parent : Ino) (calm : Calm operation tracker) :
    wp (tracking operation) (dropParentLink parent) (Ends operation) tracker := by
  unfold dropParentLink
  refine wp_guard (.readInodeFull parent) calm rfl ?_
  rintro ⟨err, inode⟩ tracker calm
  apply wp_seq (updateMtime_some_wp parent _ calm)
  rintro ⟨ret, inode⟩ tracker ⟨rfl, calm⟩
  rw [wp_ite]
  constructor
  · intro nonzero
    exact absurd rfl nonzero
  · intro zero
    refine wp_guard (.writeInodeFull parent inode) calm rfl ?_
    intro code tracker calm
    exact calm.ends

theorem nodeExt2fsRmdir_wp (path : Path) (clean : Clean operation tracker) :
    wp (tracking operation) (nodeExt2fsRmdir path) (Ends operation) tracker := by
  unfold nodeExt2fsRmdir
  refine wp_guard_clean (.namei path) clean rfl ?_
  rintro ⟨err, child⟩ tracker clean
  refine wp_guard_clean (.dirIterate child .rmdirProc) clean rfl ?_
  rintro ⟨err, visited⟩ tracker clean
  rw [wp_ite]
  constructor
  · intro full
    exact clean.ends (by decide)
  · intro empty
    refine wp_then (unlinkFileByName_wp path clean.toCalm) ?_
    intro tracker calm
    refine wp_then (removeInode_wp child calm) ?_
    intro tracker calm
    refine wp_then (removeInode_wp child calm) ?_
    intro tracker calm
    rw [wp_ite]
    exact ⟨fun _ => dropParentLink_wp _ calm, fun _ => calm.ends⟩

/-- A full directory is expanded and the call repeated; a failure of either is the last one. -/
theorem expanding_wp {dir : Ino} {attempt : Routine Errcode} {call : Call}
    {answer : Errcode → Answer call} (codes : ∀ code, call.code (answer code) = code)
    (expands : expansion call = some (.expandDir dir)) (coded : translated call)
    (attempts : ∀ (post : Errcode → Tracker → Prop) (tracker : Tracker),
      (∀ code, post code (tracker.step operation ⟨call, answer code⟩)) →
        wp (tracking operation) attempt post tracker)
    (calm : Calm operation tracker) {next : Errcode → Routine Int}
    (good : ∀ tracker, Calm operation tracker →
      wp (tracking operation) (next 0) (Ends operation) tracker) :
    wp (tracking operation)
      (expanding dir attempt >>= fun err => if err ≠ 0 then translateError err else next err)
      (Ends operation) tracker := by
  have named (path : Path) : call ≠ .namei path := by
    rintro rfl
    cases expands
  have answered (code : Errcode) : CallEvent.code ⟨call, answer code⟩ = code := codes code
  have bad (event : CallEvent) (tracker : Tracker) (past : Past operation tracker.index)
      (unwanted : ¬expected operation tracker.index event) (coded : translated event.1)
      (bad : event.code ≠ 0) :
      wp (tracking operation)
        (if event.code ≠ 0 then translateError event.code else next event.code)
        (Ends operation) (tracker.step operation event) := by
    rw [if_pos bad]
    exact translateError_wp (past.failed bad unwanted) rfl bad coded
  unfold expanding
  rw [wp_bind, wp_bind]
  apply attempts
  intro code
  rw [wp_ite]
  constructor
  · intro full
    have failed : CallEvent.code ⟨call, answer code⟩ ≠ 0 := by
      rw [answered, full]
      decide
    have first := step_failure failed (calm.unexpected coded)
    rw [wp_bind, ext2fsExpandDir, wp_call]
    intro grown
    rw [wp_ite]
    constructor
    · intro stuck
      exact bad ⟨.expandDir dir, grown⟩ _ calm.past.succ (unexpected rfl (by simp)) rfl stuck
    · intro grows
      apply attempts
      intro again
      by_cases success : again = 0
      · have retry : (tracker.step operation ⟨call, answer code⟩).retry = .full call tracker.last := by
          rw [first.2, if_pos ⟨(answered code).trans full, by simp [expands]⟩]
        have settled := @step_retried operation _ _ _ retry ⟨.expandDir dir, grown⟩
          ⟨call, answer again⟩ expands (not_not.mp grows) rfl ((answered again).trans success)
        subst success
        rw [if_neg (by simp)]
        apply good
        constructor
        · rw [settled.1]
          exact calm.silent
        · exact settled.2
        · exact calm.past.succ.succ.succ
        · intro fromPath toPath same
          have looked := calm.looked fromPath toPath same
          simp only [step_index]
          omega
      · have failure := bad ⟨call, answer again⟩
          ((tracker.step operation ⟨call, answer code⟩).step operation ⟨.expandDir dir, grown⟩)
          calm.past.succ.succ (unexpected coded named) coded
        rw [answered] at failure
        exact failure success
  · intro room
    rw [wp_pure]
    by_cases success : code = 0
    · subst success
      rw [if_neg (by simp)]
      exact good _ (calm.success (answered 0))
    · have failure := bad ⟨call, answer code⟩ tracker calm.past (calm.unexpected coded) coded
      rw [answered] at failure
      exact failure success

/-- The expansion around an added entry. -/
theorem linking_wp (dir : Ino) (name : Name) (ino : Ino) (fileType : Nat)
    (calm : Calm operation tracker) {next : Errcode → Routine Int}
    (good : ∀ tracker, Calm operation tracker →
      wp (tracking operation) (next 0) (Ends operation) tracker) :
    wp (tracking operation)
      (expanding dir (ext2fsLink dir name ino fileType) >>= fun err =>
        if err ≠ 0 then translateError err else next err)
      (Ends operation) tracker :=
  @expanding_wp operation tracker dir _ (.link dir name ino fileType) id (fun _ => rfl) rfl rfl
    (fun post _ rest => (wp_call (.link dir name ino fileType) post).mpr rest) calm next good

theorem renameTarget_wp (toIno : Ino) (toPath : Path) (clean : Clean operation tracker) :
    wp (tracking operation) (renameTarget toIno toPath) (Ends operation) tracker := by
  unfold renameTarget
  rw [wp_ite]
  constructor
  · intro present
    refine wp_guard_clean (.readInode toIno) clean rfl ?_
    rintro ⟨err, inode⟩ tracker clean
    rw [wp_ite]
    exact ⟨fun _ => nodeExt2fsRmdir_wp toPath clean, fun _ => nodeExt2fsUnlink_wp toPath clean⟩
  · intro absent
    exact clean.toCalm.ends

theorem renameCount_wp (dirIno : Ino) (change : BitVec 16) (calm : Calm operation tracker) :
    wp (tracking operation) (renameCount dirIno change) (Ends operation) tracker := by
  unfold renameCount
  refine wp_guard (.readInode dirIno) calm rfl ?_
  rintro ⟨err, inode⟩ tracker calm
  refine wp_guard (.writeInode dirIno _) calm rfl ?_
  intro code tracker calm
  exact calm.ends

theorem renameDotdot_wp (fromIno fromDirIno toDirIno : Ino) (calm : Calm operation tracker) :
    wp (tracking operation) (renameDotdot fromIno fromDirIno toDirIno) (Ends operation) tracker := by
  unfold renameDotdot
  refine wp_guard (.readInode fromIno) calm rfl ?_
  rintro ⟨err, inode⟩ tracker calm
  rw [wp_ite]
  constructor
  · intro directory
    refine wp_guard (.dirIterate fromIno (.updateDotdotHelper toDirIno)) calm rfl ?_
    rintro ⟨err, visited⟩ tracker calm
    refine wp_then (renameCount_wp fromDirIno _ calm) ?_
    intro tracker calm
    exact renameCount_wp toDirIno _ calm
  · intro file
    exact calm.ends

/-- The wrapped result of a part that also returns a buffer. -/
theorem wp_then_fst {A : Type} {program : Routine (Int × A)} {next : Int × A → Routine Int}
    (first : wp (tracking operation) program
      (fun answer tracker => Ends operation answer.1 tracker) tracker)
    (rest : ∀ answer tracker, Calm operation tracker →
      wp (tracking operation) (next answer) (Ends operation) tracker) :
    wp (tracking operation)
      (program >>= fun answer => if answer.1 ≠ 0 then pure answer.1 else next answer)
      (Ends operation) tracker := by
  apply wp_seq first
  intro answer tracker ends
  rw [wp_ite]
  constructor
  · intro nonzero
    exact ends
  · intro zero
    exact rest answer tracker (ends.calm (not_not.mp zero))

theorem renameFinish_wp (fromIno toDirIno : Ino) (fromPath : Path) (calm : Calm operation tracker) :
    wp (tracking operation) (renameFinish fromIno toDirIno fromPath) (Ends operation) tracker := by
  unfold renameFinish
  refine wp_then_fst (updateCtime_none_wp fromIno calm) ?_
  intro answer tracker calm
  refine wp_then_fst (updateMtime_none_wp toDirIno calm) ?_
  intro answer tracker calm
  refine wp_then (unlinkFileByName_wp fromPath calm) ?_
  intro tracker calm
  refine wp_guard .flush2 calm rfl ?_
  intro code tracker calm
  exact calm.ends

theorem renameMove_wp (fromIno fromDirIno toDirIno : Ino) (toName : Name) (fromPath : Path)
    (calm : Calm operation tracker) :
    wp (tracking operation) (renameMove fromIno fromDirIno toDirIno toName fromPath)
      (Ends operation) tracker := by
  unfold renameMove
  refine wp_guard (.readInode fromIno) calm rfl ?_
  rintro ⟨err, inode⟩ tracker calm
  refine linking_wp toDirIno toName fromIno _ calm ?_
  intro tracker calm
  refine wp_then (renameDotdot_wp fromIno fromDirIno toDirIno calm) ?_
  intro tracker calm
  exact renameFinish_wp fromIno toDirIno fromPath calm

theorem translateError_zero (post : Int → Tracker → Prop) (settled : post 0 tracker) :
    wp (tracking operation) (translateError 0) post tracker := by
  have small : (0 : Errcode) < EXT2_ET_BASE := by decide
  unfold translateError
  rw [if_pos small]
  exact settled

theorem settles_of_none {result : Int} (none : tracker.last = none) :
    Settles operation result tracker := by
  intro failure recorded
  cases none.symm.trans recorded

theorem Clean.settles (clean : Clean operation tracker) (result : Int) :
    Settles operation result tracker := settles_of_none clean.none

theorem wp_settles {program : Routine Int}
    (ends : wp (tracking operation) program (Ends operation) tracker) :
    wp (tracking operation) program (Settles operation) tracker :=
  wp_mono ends fun _ _ ends => ends.settled

theorem Clean.start (past : Past operation 0)
    (other : ∀ fromPath toPath, operation ≠ .rename fromPath toPath) :
    Clean operation Tracker.start where
  silent := by
    rintro failure ⟨⟩
  idle := rfl
  past := past
  looked fromPath toPath same := absurd same (other fromPath toPath)
  none := rfl

theorem wp_quiet_clean (call : Call) (clean : Clean operation tracker)
    (quiet : ∀ answer, call.code answer = 0) {post : Answer call → Tracker → Prop}
    (rest : ∀ answer tracker, Clean operation tracker → post answer tracker) :
    wp (tracking operation) call.perform post tracker :=
  (wp_call call post).mpr fun answer => rest answer _ (clean.success (quiet answer))

/-- A parent directory is found with a clean record, or the search ends settled. -/
theorem renameParent_wp (path : Path) (clean : Clean operation tracker) :
    wp (tracking operation) (renameParent path)
      (fun found tracker => match found with
        | .error ret => Ends operation ret tracker
        | .ok _ => Clean operation tracker) tracker := by
  unfold renameParent
  cases strrchr path with
  | none => exact clean.ends (by decide)
  | some split =>
      obtain ⟨before, after⟩ := split
      rw [wp_bind, ext2fsNamei, wp_call]
      rintro ⟨err, dirIno⟩
      rw [wp_ite]
      constructor
      · intro bad
        have failed : Failed operation ⟨.namei (before ++ [slash]), (err, dirIno)⟩
            (tracker.step operation _) := clean.past.failed bad (clean.unexpected rfl)
        rw [wp_bind]
        exact translateError_wp failed rfl bad rfl
      · intro success
        have clean := @Clean.success operation tracker clean
          ⟨.namei (before ++ [slash]), (err, dirIno)⟩ (not_not.mp success)
        rw [wp_ite]
        exact ⟨fun _ => clean.ends (by decide), fun _ => clean⟩

theorem renameBetween_wp (fromPath toPath : Path) (fromIno toIno : Ino)
    (clean : Clean operation tracker) :
    wp (tracking operation) (renameBetween fromPath toPath fromIno toIno) (Ends operation) tracker := by
  unfold renameBetween
  apply wp_seq (renameParent_wp fromPath clean)
  rintro (ret | ⟨fromDirIno, fromName⟩) tracker found
  · exact found
  · apply wp_seq (renameParent_wp toPath found)
    rintro (ret | ⟨toDirIno, toName⟩) tracker found
    · exact found
    · refine wp_then (renameTarget_wp toIno toPath found) ?_
      intro tracker calm
      exact renameMove_wp fromIno fromDirIno toDirIno toName fromPath calm

/-- The two lookups of a rename are singled out by their place in the history. -/
theorem nodeExt2fsRename_wp (fromPath toPath : Path) :
    wp (tracking (.rename fromPath toPath)) (nodeExt2fsRename fromPath toPath)
      (Settles (.rename fromPath toPath)) Tracker.start := by
  unfold nodeExt2fsRename
  rw [wp_bind, ext2fsNamei, wp_call]
  rintro ⟨err, fromIno⟩
  have past (index : Nat) : Past (.rename fromPath toPath) index := trivial
  rw [wp_ite]
  constructor
  · intro absent
    by_cases success : err = 0
    · subst success
      apply translateError_zero
      exact settles_of_none (step_success rfl rfl).1
    · have failed : Failed (.rename fromPath toPath) ⟨.namei fromPath, (err, fromIno)⟩
          (Tracker.start.step _ _) := (past 0).failed success (by simp [expected, Tracker.start])
      exact wp_settles (translateError_wp failed rfl success rfl)
  · intro present
    have success : err = 0 := by
      by_contra bad
      exact present (.inl bad)
    have first := @step_success (.rename fromPath toPath) Tracker.start rfl
      ⟨.namei fromPath, (err, fromIno)⟩ success
    generalize moved : Tracker.start.step (.rename fromPath toPath) ⟨.namei fromPath, (err, fromIno)⟩ =
      tracker at first ⊢
    have second : tracker.index = 1 := by rw [← moved, step_index, Tracker.start]
    rw [wp_bind, ext2fsNamei, wp_call]
    rintro ⟨err, toIno⟩
    rw [wp_ite]
    constructor
    · intro lost
      have failed : Failed (.rename fromPath toPath) ⟨.namei toPath, (err, toIno)⟩
          (tracker.step _ _) := (past _).failed lost.1 (by simp [expected, code_namei, lost.2])
      exact wp_settles (translateError_wp failed rfl lost.1 rfl)
    · intro known
      have kept : (tracker.step (.rename fromPath toPath) ⟨.namei toPath, (err, toIno)⟩).last =
          tracker.last ∧
          (tracker.step (.rename fromPath toPath) ⟨.namei toPath, (err, toIno)⟩).retry = .idle := by
        by_cases success : err = 0
        · exact step_success first.2 success
        · have absent : err = EXT2_ET_FILE_NOT_FOUND := by
            by_contra other
            exact known ⟨success, other⟩
          exact step_expected success (by simp [expected, second, absent, code_namei])
      have clean : Clean (.rename fromPath toPath)
          (tracker.step (.rename fromPath toPath) ⟨.namei toPath, (err, toIno)⟩) := by
        have none := kept.1.trans first.1
        refine ⟨⟨?_, kept.2, trivial, ?_⟩, none⟩
        · intro failure recorded
          cases none.symm.trans recorded
        · intro _ _ _
          rw [step_index, second]
      rw [wp_ite]
      constructor
      · intro same
        exact clean.settles 0
      · intro different
        rw [wp_bind]
        apply wp_quiet_clean .strdup clean (fun _ => rfl)
        intro copied tracker clean
        rw [wp_ite]
        refine ⟨fun _ => clean.settles _, fun _ => ?_⟩
        rw [wp_bind]
        apply wp_quiet_clean .strdup clean (fun _ => rfl)
        intro copied tracker clean
        rw [wp_ite]
        refine ⟨fun _ => clean.settles _, fun _ => ?_⟩
        exact wp_settles (renameBetween_wp fromPath toPath fromIno _ clean)

theorem linkInto_wp (src : Path) (parent : Ino) (nodeName : Name) (clean : Clean operation tracker) :
    wp (tracking operation) (linkInto src parent nodeName) (Ends operation) tracker := by
  unfold linkInto
  rw [wp_bind, ext2fsNamei, wp_call]
  rintro ⟨err, ino⟩
  rw [wp_ite]
  constructor
  · intro absent
    by_cases success : err = 0
    · have clean := @Clean.success operation tracker clean ⟨.namei src, (err, ino)⟩ success
      subst success
      exact translateError_zero _ clean.toCalm.ends
    · have failed : Failed operation ⟨.namei src, (err, ino)⟩ (tracker.step operation _) :=
        clean.past.failed success (clean.unexpected rfl)
      exact translateError_wp failed rfl success rfl
  · intro present
    have success : err = 0 := by
      by_contra bad
      exact present (.inl bad)
    have calm := @Calm.success operation tracker clean.toCalm ⟨.namei src, (err, ino)⟩ success
    refine wp_guard (.readInodeFull ino) calm rfl ?_
    rintro ⟨err, inode⟩ tracker calm
    apply wp_seq (updateCtime_some_wp ino _ calm)
    rintro ⟨ret, inode⟩ tracker ⟨rfl, calm⟩
    rw [wp_ite]
    refine ⟨fun nonzero => absurd rfl nonzero, fun _ => ?_⟩
    refine wp_guard (.writeInodeFull ino inode) calm rfl ?_
    intro code tracker calm
    refine linking_wp parent nodeName ino _ calm ?_
    intro tracker calm
    rw [wp_bind]
    exact updateMtime_none_wp parent calm

theorem nodeExt2fsLink_wp (src dest : Path) :
    wp (tracking (.link src dest)) (nodeExt2fsLink src dest) (Settles (.link src dest))
      Tracker.start := by
  unfold nodeExt2fsLink
  rw [wp_bind, strdup, wp_call]
  intro copied
  have first := @step_success (.link src dest) Tracker.start rfl ⟨.strdup, copied⟩ rfl
  generalize moved : Tracker.start.step (.link src dest) ⟨.strdup, copied⟩ = tracker at first ⊢
  have second : tracker.index = 1 := by rw [← moved, step_index, Tracker.start]
  rw [wp_ite]
  constructor
  · intro failed
    exact settles_of_none first.1
  · intro copied
    cases strrchr dest with
    | none => exact settles_of_none first.1
    | some split =>
        obtain ⟨before, nodeName⟩ := split
        rw [wp_bind, ext2fsNamei, wp_call]
        rintro ⟨err, parent⟩
        rw [wp_ite]
        constructor
        · intro bad
          have step := @step_failure (.link src dest) tracker
            ⟨.namei (before ++ [slash]), (err, parent)⟩ bad (by simp [expected])
          intro failure recorded
          cases step.1.symm.trans recorded
          simp [reports, second]
        · intro success
          have found := @step_success (.link src dest) tracker first.2
            ⟨.namei (before ++ [slash]), (err, parent)⟩ (not_not.mp success)
          have clean : Clean (.link src dest)
              (tracker.step (.link src dest) ⟨.namei (before ++ [slash]), (err, parent)⟩) := by
            have none := found.1.trans first.1
            refine ⟨⟨?_, found.2, ?_, ?_⟩, none⟩
            · intro failure recorded
              cases none.symm.trans recorded
            · rw [step_index, second]
              exact Nat.le_refl 2
            · rintro _ _ ⟨⟩
          exact wp_settles (linkInto_wp src parent nodeName clean)

theorem rewriteChild_wp (dest : Path) (calm : Calm operation tracker) :
    wp (tracking operation) (rewriteChild dest) (Ends operation) tracker := by
  unfold rewriteChild
  refine wp_guard (.namei dest) calm rfl ?_
  rintro ⟨err, child⟩ tracker calm
  refine wp_guard (.readInodeFull child) calm rfl ?_
  rintro ⟨err, inode⟩ tracker calm
  refine wp_guard (.writeInodeFull child inode) calm rfl ?_
  intro code tracker calm
  exact calm.ends

theorem nodeExt2fsSymlink_wp (src dest : Path) (clean : Clean operation tracker) :
    wp (tracking operation) (nodeExt2fsSymlink src dest) (Ends operation) tracker := by
  unfold nodeExt2fsSymlink
  rw [wp_bind]
  apply wp_quiet_clean .strdup clean (fun _ => rfl)
  intro copied tracker clean
  rw [wp_ite]
  refine ⟨fun _ => clean.ends (by decide), fun _ => ?_⟩
  cases strrchr dest with
  | none => exact clean.ends (by decide)
  | some split =>
      obtain ⟨before, nodeName⟩ := split
      refine wp_guard (.namei (before ++ [slash])) clean.toCalm rfl ?_
      rintro ⟨err, parent⟩ tracker calm
      refine @expanding_wp operation tracker parent _ (.symlink parent nodeName src) id
        (fun _ => rfl) rfl rfl
        (fun post _ rest => (wp_call (.symlink parent nodeName src) post).mpr rest) calm _ ?_
      intro tracker calm
      refine wp_then_fst (updateMtime_none_wp parent calm) ?_
      intro answer tracker calm
      exact rewriteChild_wp dest calm

end NodeExt2fs.Reporting
