import NodeExt2fs.Proof.Descriptors.Turns

/-!
This file compares `openFiles` with the open files of libext2fs.

A descriptor is in the map only from the end of its open call to the end of its close call, while its
file is open from the answer of the one to the answer of the other.
-/

namespace NodeExt2fs.Handles
open Programs Structures Js

variable {calls calls' : Descriptors} {label : DescriptorLabel} {id : Nat} {frame : Frame}
variable {ops : List BindingOp} {ok : Bool} {value : Nat} {op : BindingOp}

section Changing

/-- A call that has got what it awaited of a change, and has not gone on. -/
def Changed (calls : Descriptors) (id : Nat) (change : HandleChange) (value : Nat) : Prop :=
  ∃ task, calls.task id = some task ∧ task.frame.change? = some change ∧ task.waiting = 0 ∧
    task.failed = false ∧ task.value = value

/-- The file has been opened for a call that has not put it into `openFiles`. -/
def Opening (calls : Descriptors) (fd : Nat) : Prop := ∃ id, Changed calls id .opens fd

/-- The file has been freed for a call that has not deleted it from `openFiles`. -/
def Closing (calls : Descriptors) (fd : Nat) : Prop := ∃ id value, Changed calls id (.closes fd) value

variable {change : HandleChange} {fd : Nat}

theorem Turns.label_eq (turns : Turns calls label id frame ops calls')
    (changed : Changed calls id change value) : label = .resume id := by
  obtain ⟨task, found, _⟩ := changed
  exact (turns.due task found).1

/-- The call that goes on is the only one that is no longer between its answer and its next step. -/
theorem Turns.changed_iff (turns : Turns calls label id frame ops calls') (id' : Nat) :
    Changed calls' id' change value ↔ id' ≠ id ∧ Changed calls id' change value := by
  unfold Changed
  rw [turns.task]
  by_cases own : id' = id
  · rw [own, Function.update_self]
    refine iff_of_false ?_ fun both => both.1 rfl
    rintro ⟨task, same, changing, answered, _⟩
    cases same
    have one := turns.requests.alone (ne_of_eq_of_ne changing (Option.some_ne_none change))
    exact absurd (one.symm.trans answered) (by decide)
  · rw [Function.update_of_ne own]
    exact (and_iff_right own).symm

/-- The map gains the file of a call that has opened it, and loses that of a call that has freed it. -/
theorem Turns.mem_keys (turns : Turns calls label id frame ops calls') :
    fd ∈ calls'.openFiles.keys ↔ Changed calls id .opens fd ∨
      fd ∈ calls.openFiles.keys ∧ ¬∃ value, Changed calls id (.closes fd) value := by
  have changed_iff (task : Task) (found : calls.task id = some task) (change : HandleChange)
      (value : Nat) : Changed calls id change value ↔ task.frame.change? = some change ∧
        task.failed = false ∧ task.value = value := by
    apply Iff.intro
    · rintro ⟨task', found', changing, _, fine, same⟩
      cases found.symm.trans found'
      exact ⟨changing, fine, same⟩
    · rintro ⟨changing, fine, same⟩
      refine ⟨task, found, changing, ?_, fine, same⟩
      rcases (turns.due task found).2.2 with ⟨failed, _⟩ | ⟨_, answered⟩
      · rw [fine] at failed
        cases failed
      · exact answered
  rw [turns.openFiles]
  rcases found : calls.task id with _ | task
  · have unchanged (change : HandleChange) (value : Nat) : ¬Changed calls id change value := by
      rintro ⟨task, found', _⟩
      cases found.symm.trans found'
    simp [mapAfter, unchanged]
  · simp only [changed_iff task found]
    cases failed : task.failed with
    | true => simp [mapAfter, failed]
    | false =>
        cases frame : task.frame with
        | openFile flags => simp [mapAfter, failed, frame, Frame.change?, InsertionMap.mem_keys_set, eq_comm]
        | closeFile fd' => simp [mapAfter, failed, frame, Frame.change?, InsertionMap.mem_keys_delete, eq_comm]
        | closeAllFile fd' unmounting =>
            simp [mapAfter, failed, frame, Frame.change?, InsertionMap.mem_keys_delete, eq_comm]
        | _ => simp [mapAfter, failed, frame, Frame.change?]

/-- The call whose operation comes next has not got what it awaits. -/
theorem Waits.unanswered (waits : Waits calls) (executes : Executes calls ok value id op calls')
    (fd' : Nat) : ¬Changed calls id change fd' := by
  rintro ⟨task, found, changing, answered, _⟩
  have awaiting := not_isDone (ne_of_eq_of_ne changing (Option.some_ne_none change))
  exact waits.waiting executes.first found awaiting answered

/-- The execution of a change answers the call that awaits it, and no other. -/
theorem Waits.changed_iff (waits : Waits calls) (executes : Executes calls ok value id op calls')
    (id' fd' : Nat) : Changed calls' id' change fd' ↔
      Changed calls id' change fd' ∨
        id' = id ∧ ok = true ∧ op.change? = some change ∧ fd' = value := by
  obtain ⟨owner, owned, same⟩ := waits.owned _ executes.first
  change op.change? = _ at same
  by_cases own : id' = id
  · rw [own, or_iff_right (waits.unanswered executes fd'), and_iff_right rfl]
    have after := executes.after owned
    rw [if_pos rfl] at after
    apply Iff.intro
    · rintro ⟨task, found, changing, _, fine, result⟩
      cases after.symm.trans found
      refine ⟨?_, same.trans changing, result.symm⟩
      cases ok with
      | true => rfl
      | false => simp [Task.answered] at fine
    · rintro ⟨fine, changing, result⟩
      have changing' := same.symm.trans changing
      have changes := ne_of_eq_of_ne changing' (Option.some_ne_none change)
      rcases waits.single id owner owned changes with ⟨one, calm⟩ | none_left
      · refine ⟨_, after, changing', ?_, ?_, result.symm⟩
        · rw [Task.answered, one]
        · simp [Task.answered, calm, fine]
      · exact absurd none_left (waits.waiting executes.first owned (not_isDone changes))
  · rw [or_iff_left fun both => own both.1]
    unfold Changed
    rw [executes.task, Function.update_of_ne own]

end Changing

section Recorded

variable {state state' : LiveHandles}

/-- An open call goes on only when each close call that has freed the same address has gone on, as the
queue resolves their promises in this order. -/
def InTurn (state : LiveHandles) (label : DescriptorLabel) : Prop :=
  ∀ id fd, label = .resume id → Changed state.calls id .opens fd → ¬Closing state.calls fd

/-- The file is about to enter the map, or in it and not about to leave it. -/
def Recorded (calls : Descriptors) (fd : Nat) : Prop :=
  Opening calls fd ∨ fd ∈ calls.openFiles.keys ∧ ¬Closing calls fd

/-- The invariant of the open files: none of them is forgotten. -/
structure Accounted (state : LiveHandles) : Prop where
  waits : Waits state.calls
  recorded : ∀ fd ∈ state.live, Recorded state.calls fd

theorem accounted_empty : Accounted .empty := by
  refine ⟨waits_empty, ?_⟩
  intro fd member
  cases member

/-- A close call that goes on takes no recorded file along, and an open call records its file. -/
theorem Recorded.turns (turns : Turns calls label id frame ops calls') {fd : Nat}
    (inTurn : Changed calls id .opens fd → ¬Closing calls fd) (recorded : Recorded calls fd) :
    Recorded calls' fd := by
  have calm (open_still : ¬Closing calls fd) : ¬Closing calls' fd := by
    rintro ⟨id', value, changed⟩
    exact open_still ⟨id', value, ((turns.changed_iff id').mp changed).2⟩
  rcases recorded with ⟨id', changed⟩ | ⟨key, open_still⟩
  · by_cases own : id' = id
    · rw [own] at changed
      exact .inr ⟨turns.mem_keys.mpr (.inl changed), calm (inTurn changed)⟩
    · exact .inl ⟨id', (turns.changed_iff id').mpr ⟨own, changed⟩⟩
  · refine .inr ⟨turns.mem_keys.mpr (.inr ⟨key, ?_⟩), calm open_still⟩
    rintro ⟨value, changed⟩
    exact open_still ⟨id, value, changed⟩

theorem mem_liveAfter {fd : Nat} {live : List Nat} : fd ∈ op.liveAfter ok value live ↔
    op.change? = some .opens ∧ ok = true ∧ fd = value ∨
      fd ∈ live ∧ op.change? ≠ some (.closes fd) := by
  unfold BindingOp.liveAfter
  rcases changing : op.change? with _ | change
  · simp
  · cases change with
    | opens =>
        cases ok with
        | true => simp
        | false => simp
    | closes fd' => simp [eq_comm (a := fd')]

theorem accounted_step (state : LiveHandles) (label : DescriptorLabel) (state' : LiveHandles)
    (accounted : Accounted state) (inTurn : InTurn state label)
    (taken : state.step label = some state') : Accounted state' := by
  rcases LiveHandles.step_cases taken with ⟨id, frame, ops, turns, same⟩ |
    ⟨ok, value, id, op, _, executes, same⟩
  · refine ⟨accounted.waits.turns turns, ?_⟩
    intro fd member
    rw [same] at member
    apply (accounted.recorded fd member).turns turns
    intro changed
    exact inTurn id fd (turns.label_eq changed) changed
  · refine ⟨accounted.waits.executes executes, ?_⟩
    intro fd member
    rw [same] at member
    rcases mem_liveAfter.mp member with ⟨opened, fine, returned⟩ | ⟨old, other⟩
    · exact .inl ⟨id, (accounted.waits.changed_iff executes id fd).mpr
        (.inr ⟨rfl, fine, opened, returned⟩)⟩
    · rcases accounted.recorded fd old with ⟨id', changed⟩ | ⟨key, open_still⟩
      · exact .inl ⟨id', (accounted.waits.changed_iff executes id' fd).mpr (.inl changed)⟩
      · refine .inr ⟨executes.openFiles ▸ key, ?_⟩
        rintro ⟨id', value', changed⟩
        rcases (accounted.waits.changed_iff executes id' value').mp changed with before | ⟨_, _, freed, _⟩
        · exact open_still ⟨id', value', before⟩
        · exact other freed

/-- No open file of libext2fs is lost, whatever operations fail: `openFiles` has its address, or the
call that has opened it has still to put it there. -/
theorem recorded_of_inTurn (reached : Reaches LiveHandles.step InTurn .empty state) {fd : Nat}
    (member : fd ∈ state.live) : Recorded state.calls fd :=
  (reached.invariant accounted_empty accounted_step).recorded fd member

/-- Only an open call that has its file has to wait for its turn. -/
theorem inTurn_of_unopened (unopened : ∀ id fd, label = .resume id → ¬Changed state.calls id .opens fd) :
    InTurn state label :=
  fun id fd same changed => absurd changed (unopened id fd same)

/-- A file is opened and closed, and the next one is opened at its address before the close call has
gone on. -/
def reopening (closed : Bool) : List DescriptorLabel :=
  [.start 0 (.open 0), .execute true 0, .resume 0, .execute true 7, .resume 0,
    .start 1 (.onFd .close 7), .start 2 (.open 1), .execute closed 0, .execute true 0, .resume 2,
    .execute true 7, .resume 1, .resume 2]

theorem inTurn_reopening (closed : Bool) : Along LiveHandles.step InTurn .empty (reopening closed) := by
  have other {state : LiveHandles} {label : DescriptorLabel} (apart : ∀ id, label ≠ .resume id) :
      InTurn state label := inTurn_of_unopened fun id _ same => absurd same (apart id)
  refine ⟨other (by simp), ?_⟩
  rintro _ ⟨⟩
  refine ⟨other (by simp), ?_⟩
  rintro _ ⟨⟩
  refine ⟨?_, ?_⟩
  · apply inTurn_of_unopened
    rintro _ fd ⟨⟩ ⟨task, found, changing, _⟩
    cases found
    cases changing
  rintro _ ⟨⟩
  refine ⟨other (by simp), ?_⟩
  rintro _ ⟨⟩
  refine ⟨?_, ?_⟩
  · rintro _ fd ⟨⟩ _ ⟨id, value, task, found, changing, _⟩
    rcases id with _ | id
    · cases found
      cases changing
    · cases found
  rintro _ ⟨⟩
  refine ⟨other (by simp), ?_⟩
  rintro _ ⟨⟩
  refine ⟨other (by simp), ?_⟩
  rintro _ ⟨⟩
  refine ⟨other (by simp), ?_⟩
  rintro _ ⟨⟩
  refine ⟨other (by simp), ?_⟩
  rintro _ ⟨⟩
  refine ⟨?_, ?_⟩
  · apply inTurn_of_unopened
    rintro _ fd ⟨⟩ ⟨task, found, changing, _⟩
    cases found
    cases changing
  rintro _ ⟨⟩
  refine ⟨other (by simp), ?_⟩
  rintro _ ⟨⟩
  refine ⟨?_, ?_⟩
  · apply inTurn_of_unopened
    rintro _ fd ⟨⟩ ⟨task, found, changing, _⟩
    cases found
    cases changing
  intro state' taken
  refine ⟨?_, fun _ _ => trivial⟩
  rintro _ fd ⟨⟩ _ ⟨id, value, task, found, changing, _⟩
  have ended : ∀ id task, state'.calls.task id = some task → task.frame.change? ≠ some (.closes fd) := by
    cases closed with
    | true =>
        cases taken
        rintro (_ | _ | _ | id) task ⟨⟩ ⟨⟩
    | false =>
        cases taken
        rintro (_ | _ | _ | id) task ⟨⟩ ⟨⟩
  exact ended id task found changing

/-- A close that fails has freed the file, so that the address can be used again. -/
theorem recorded_reopening : ∃ state,
    follow LiveHandles.step .empty (reopening false) = some state ∧ state.live = [7] ∧
      Recorded state.calls 7 := by
  refine ⟨_, rfl, rfl, recorded_of_inTurn (@reaches_of_follow _ _ _ _ _ _ _ (reopening false) .first
    (inTurn_reopening false) rfl) ?_⟩
  exact List.mem_cons_self

/-- Out of turn, the close call takes the key of the new file away. -/
example : (follow LiveHandles.step .empty ((reopening true).take 11 ++ [.resume 2, .resume 1])).map
    (fun state => (state.live, state.calls.openFiles.keys)) = some ([7], []) := rfl

end Recorded

section Exact

variable {state state' : LiveHandles}

/-- A call that awaits a change. -/
def Awaits (calls : Descriptors) (id : Nat) (change : HandleChange) : Prop :=
  ∃ task, calls.task id = some task ∧ task.frame.change? = some change

/-- A step of a run in which libext2fs returns no address of an open file, no two close calls on one
descriptor overlap and no close fails. -/
structure Tidy (state : LiveHandles) (label : DescriptorLabel) : Prop where
  inTurn : InTurn state label
  fresh : ∀ value id rest, label = .execute true value →
    state.calls.queue = { task := id, op := .open } :: rest → value ∉ state.live
  apart : ∀ fd, entering state.calls label = some (.close, fd) →
    ∀ id, ¬Awaits state.calls id (.closes fd)
  flushed : ∀ value id fd rest, label = .execute false value →
    state.calls.queue ≠ { task := id, op := .close fd } :: rest

/-- The invariant of a tidy run. A file of which a close is queued is open, and its open call has gone
on. -/
structure Exact (state : LiveHandles) : Prop where
  waits : Waits state.calls
  exact : ∀ fd, fd ∈ state.live ↔ Recorded state.calls fd
  stale : ∀ fd, Opening state.calls fd → fd ∈ state.calls.openFiles.keys → Closing state.calls fd
  opener : ∀ fd id id', Changed state.calls id .opens fd → Changed state.calls id' .opens fd → id = id'
  closer : ∀ fd id id', Awaits state.calls id (.closes fd) → Awaits state.calls id' (.closes fd) →
    id = id'
  queued : ∀ fd id, Awaits state.calls id (.closes fd) →
    (¬∃ value, Changed state.calls id (.closes fd) value) →
      fd ∈ state.live ∧ ¬Opening state.calls fd

end Exact

end NodeExt2fs.Handles
