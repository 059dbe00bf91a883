import NodeExt2fs.Construction.Js.Binding

/-!
This file says which errors of a run an operation does not recover from, and which of them it reports.
-/

namespace NodeExt2fs.Reporting
open Programs Glue Js

/-- The expansion after which the operations repeat a call that found no space. -/
def expansion : Call → Option Call
  | .link dir _ _ _ => some (.expandDir dir)
  | .symlink parent _ _ => some (.expandDir parent)
  | _ => none

/-- The call found no space, and succeeded when it was repeated after a successful expansion. -/
def retried (event : CallEvent) : List CallEvent → Bool
  | grown :: again :: _ =>
      decide (event.code = EXT2_ET_DIR_NO_SPACE ∧ expansion event.1 = some grown.1 ∧
        grown.code = 0 ∧ again.1 = event.1 ∧ again.code = 0)
  | _ => false

/-- The errors that are expected answers: `rename` looks up a target that may be absent, and
`unlink` checks that its target is no directory. -/
def expected (operation : Operation) (index : Nat) (event : CallEvent) : Bool :=
  match operation, event.1 with
  | .rename _ _, .namei _ => index = 1 ∧ event.code = EXT2_ET_FILE_NOT_FOUND
  | _, .checkDirectory _ => event.code = EXT2_ET_NO_DIRECTORY
  | _, _ => false

theorem code_namei (path : Path) (answer : Errcode × Ino) :
    CallEvent.code ⟨.namei path, answer⟩ = answer.1 := rfl

theorem retried_iff {event : CallEvent} {later : List CallEvent} :
    retried event later ↔ ∃ grown again rest, later = grown :: again :: rest ∧
      event.code = EXT2_ET_DIR_NO_SPACE ∧ expansion event.1 = some grown.1 ∧ grown.code = 0 ∧
        again.1 = event.1 ∧ again.code = 0 := by
  rcases later with _ | ⟨grown, _ | ⟨again, rest⟩⟩
  · simp [retried]
  · simp [retried]
  · constructor
    · intro found
      exact ⟨grown, again, rest, rfl, of_decide_eq_true found⟩
    · rintro ⟨_, _, _, joined, facts⟩
      cases joined
      exact decide_eq_true facts

/-- A failure is an event with its place in the history. -/
abbrev Failure := Nat × CallEvent

/-- The failures from the given place on that the operation does not recover from. -/
def unrecovered (operation : Operation) : Nat → List CallEvent → List Failure
  | _, [] => []
  | index, event :: later =>
      if event.code = 0 ∨ expected operation index event ∨ retried event later then
        unrecovered operation (index + 1) later
      else (index, event) :: unrecovered operation (index + 1) later

/-- A write whose count has the top bit set returns a negative number in any case. -/
def countsNegative (event : CallEvent) : Bool :=
  match event with
  | ⟨.fileWrite _ _ _, answer⟩ => answer.2.toInt < 0
  | _ => false

/-- Whether the operation turns the failure into a negative result. The flag says that the
count of a write has its top bit set. -/
def reports (operation : Operation) (negative : Bool) (failure : Failure) : Bool :=
  match operation, failure.2.1 with
  | .write _ _ _ _ _, .fileFlush _ => negative
  | .write _ _ _ _ _, .flush => negative
  | .write _ _ _ _ _, _ => true
  | _, .flush => true
  | _, .freeExtAttr _ _ => false
  | _, .checkDirectory _ => false
  | .link _ _, _ => EXT2_ET_BASE ≤ failure.2.code ∧ failure.1 ≠ 1
  | _, _ => EXT2_ET_BASE ≤ failure.2.code

/-- The phases of a repeated call, with the last failure before its first attempt. -/
inductive Retry where
  | idle
  | full (call : Call) (before : Option Failure)
  | grown (call : Call) (before : Option Failure)

/-- The tracker reads a history from left to right and keeps the last unrecovered failure. -/
structure Tracker where
  index : Nat
  last : Option Failure
  retry : Retry
  negative : Bool

def Tracker.start : Tracker where
  index := 0
  last := none
  retry := .idle
  negative := false

/-- The tracker after a successful call. -/
def Tracker.succeed (tracker : Tracker) (call : Call) : Tracker :=
  match tracker.retry with
  | .idle => tracker
  | .full first before =>
      { tracker with retry := if expansion first = some call then .grown first before else .idle }
  | .grown first before =>
      { tracker with
        last := if call = first then before else tracker.last
        retry := .idle }

/-- The tracker after a failed call. -/
def Tracker.fail (operation : Operation) (tracker : Tracker) (event : CallEvent) : Tracker :=
  if expected operation tracker.index event then { tracker with retry := .idle }
  else
    { tracker with
      last := some (tracker.index, event)
      retry :=
        if event.code = EXT2_ET_DIR_NO_SPACE ∧ (expansion event.1).isSome then
          .full event.1 tracker.last
        else .idle }

def Tracker.step (operation : Operation) (tracker : Tracker) (event : CallEvent) : Tracker :=
  let next := if event.code = 0 then tracker.succeed event.1 else tracker.fail operation event
  { next with
    index := tracker.index + 1
    negative := tracker.negative || countsNegative event }

variable {operation : Operation}

theorem step_index (tracker : Tracker) (event : CallEvent) :
    (tracker.step operation event).index = tracker.index + 1 := rfl

/-- The tracker sees every negative count of the history. -/
theorem foldl_negative (tracker : Tracker) (history : List CallEvent) :
    (history.foldl (Tracker.step operation) tracker).negative =
      (tracker.negative || history.any countsNegative) := by
  induction history generalizing tracker with
  | nil => simp
  | cons event later ih =>
      rw [List.foldl_cons, ih, List.any_cons, ← Bool.or_assoc]
      rfl

/-- Without a repeated call in progress, a success changes nothing that is recorded. -/
theorem step_success {tracker : Tracker} (idle : tracker.retry = .idle) {event : CallEvent}
    (success : event.code = 0) :
    (tracker.step operation event).last = tracker.last ∧
      (tracker.step operation event).retry = .idle := by
  simp [Tracker.step, success, Tracker.succeed, idle]

/-- An expected error changes nothing that is recorded. -/
theorem step_expected {tracker : Tracker} {event : CallEvent} (failed : event.code ≠ 0)
    (wanted : expected operation tracker.index event) :
    (tracker.step operation event).last = tracker.last ∧
      (tracker.step operation event).retry = .idle := by
  simp [Tracker.step, failed, Tracker.fail, wanted]

theorem step_failure {tracker : Tracker} {event : CallEvent} (failed : event.code ≠ 0)
    (unwanted : ¬expected operation tracker.index event) :
    (tracker.step operation event).last = some (tracker.index, event) ∧
      (tracker.step operation event).retry =
        if event.code = EXT2_ET_DIR_NO_SPACE ∧ (expansion event.1).isSome then
          .full event.1 tracker.last
        else .idle := by
  simp [Tracker.step, failed, Tracker.fail, unwanted]

/-- The repeated call succeeds, so that its first failure is forgotten. -/
theorem step_retried {tracker : Tracker} {first : Call} {before : Option Failure}
    (full : tracker.retry = .full first before) {grown again : CallEvent}
    (expands : expansion first = some grown.1) (grows : grown.code = 0) (same : again.1 = first)
    (success : again.code = 0) :
    (((tracker.step operation grown).step operation again).last = before) ∧
      ((tracker.step operation grown).step operation again).retry = .idle := by
  have middle : (tracker.step operation grown).retry = .grown first before := by
    simp [Tracker.step, grows, Tracker.succeed, full, expands]
  simp only [Tracker.step, success, Tracker.succeed, if_true] at middle ⊢
  simp [middle, same]

def Tracker.forget (tracker : Tracker) : Tracker := { tracker with retry := .idle }

theorem step_forget_of_failed (tracker : Tracker) {event : CallEvent} (failed : event.code ≠ 0) :
    tracker.forget.step operation event = tracker.step operation event := by
  simp only [Tracker.step, failed, if_false]
  rfl

/-- A repeated call that does not go through leaves its first failure in place. -/
theorem foldl_forget {tracker : Tracker} {event : CallEvent} {before : Option Failure}
    (full : tracker.retry = .full event.1 before) (space : event.code = EXT2_ET_DIR_NO_SPACE)
    {later : List CallEvent} (lost : ¬retried event later) :
    (later.foldl (Tracker.step operation) tracker).last =
      (later.foldl (Tracker.step operation) tracker.forget).last := by
  cases later with
  | nil => rfl
  | cons grown later =>
      rw [List.foldl_cons, List.foldl_cons]
      by_cases grows : grown.code = 0
      · by_cases expands : expansion event.1 = some grown.1
        · cases later with
          | nil => simp [Tracker.step, grows, Tracker.succeed, full, Tracker.forget]
          | cons again later =>
              have middle : tracker.forget.step operation grown =
                  (tracker.step operation grown).forget := by
                simp [Tracker.step, grows, Tracker.succeed, full, Tracker.forget]
              rw [middle, List.foldl_cons, List.foldl_cons]
              by_cases success : again.code = 0
              · have other : again.1 ≠ event.1 := by
                  intro same
                  exact lost (by simp [retried, space, expands, grows, same, success])
                simp [Tracker.step, grows, success, Tracker.succeed, full, expands, other,
                  Tracker.forget]
              · rw [step_forget_of_failed _ success]
        · simp [Tracker.step, grows, Tracker.succeed, full, expands, Tracker.forget]
      · rw [step_forget_of_failed _ grows]

/-- The tracker ends with the last unrecovered failure of the history. -/
theorem foldl_last {tracker : Tracker} (idle : tracker.retry = .idle) (history : List CallEvent) :
    (history.foldl (Tracker.step operation) tracker).last =
      (unrecovered operation tracker.index history).getLast?.or tracker.last := by
  induction length : history.length using Nat.strong_induction_on generalizing tracker history with
  | _ size ih =>
      cases history with
      | nil => simp [unrecovered]
      | cons event later =>
          have shorter : later.length < size := by
            rw [← length, List.length_cons]
            omega
          rw [List.foldl_cons, unrecovered]
          by_cases success : event.code = 0
          · have step := @step_success operation tracker idle event success
            rw [ih _ shorter step.2 later rfl, step.1, step_index]
            simp [success]
          · by_cases wanted : expected operation tracker.index event
            · have step := step_expected success wanted
              rw [ih _ shorter step.2 later rfl, step.1, step_index]
              simp [wanted]
            · have step := step_failure success wanted
              by_cases lost : retried event later
              · obtain ⟨grown, again, rest, rfl, space, expands, grows, same, repeats⟩ :=
                  retried_iff.mp lost
                have full : (tracker.step operation event).retry = .full event.1 tracker.last := by
                  rw [step.2, if_pos ⟨space, by simp [expands]⟩]
                have settled := @step_retried operation _ _ _ full _ _ expands grows same repeats
                rw [List.foldl_cons, List.foldl_cons,
                  ih rest.length (by simp at shorter; omega) settled.2 rest rfl, settled.1,
                  step_index, step_index, step_index]
                simp [lost, unrecovered, grows, repeats]
              · have rest := @ih _ shorter (tracker.step operation event).forget rfl later rfl
                have ends : (later.foldl (Tracker.step operation) (tracker.step operation event)).last =
                    (later.foldl (Tracker.step operation) (tracker.step operation event).forget).last := by
                  by_cases space : event.code = EXT2_ET_DIR_NO_SPACE ∧ (expansion event.1).isSome
                  · exact foldl_forget (step.2.trans (if_pos space)) space.1 lost
                  · have same : (tracker.step operation event).forget = tracker.step operation event := by
                      have still := step.2.trans (if_neg space)
                      unfold Tracker.forget
                      rw [← still]
                    rw [same]
                rw [ends, rest]
                simp [success, wanted, lost, Tracker.forget, step.1, step_index, List.getLast?_cons]

end NodeExt2fs.Reporting
