import NodeExt2fs.Construction.Js.Queue

/-!
This file proves that the queue runs its operations one at a time and in order.
-/

namespace NodeExt2fs.Queue
open Programs Js Js.OperationQueue

variable {Fn Arguments Value Error : Type}

/-- What the records of a queue say about each other. The promises of the waiting operations go on
from the number of calls. -/
structure Recorded (state : OperationQueue Fn Arguments Value Error) : Prop where
  inOrder : state.calls ++ state.queue.map (fun operation => (operation.fn, operation.args)) =
    state.added
  numbered : state.queue.map QueuedOperation.promise =
    List.range' state.calls.length state.queue.length
  own : state.settled = state.ended
  settled : state.settled.map Prod.fst = List.range state.settled.length

/-- Every call has ended. -/
structure Resting (state : OperationQueue Fn Arguments Value Error) : Prop where
  recorded : Recorded state
  none : state.inFlight = []
  all : state.calls.length = state.settled.length

/-- One call has not ended, and it is the last one. -/
structure Busy (state : OperationQueue Fn Arguments Value Error) : Prop where
  recorded : Recorded state
  running : state.running = true
  last : state.inFlight = [⟨state.settled.length, state.settled.length⟩]
  all : state.calls.length = state.settled.length + 1

/-- The queue between two events. -/
def Steady (state : OperationQueue Fn Arguments Value Error) : Prop :=
  (Resting state ∧ state.running = false ∧ state.queue = []) ∨ Busy state

/-- The promises of a queue in order have the numbers of the calls that they wait for. -/
theorem Recorded.added_length {state : OperationQueue Fn Arguments Value Error}
    (recorded : Recorded state) :
    state.added.length = state.calls.length + state.queue.length := by
  rw [← recorded.inOrder, List.length_append, List.length_map]

theorem Recorded.promises {state : OperationQueue Fn Arguments Value Error}
    (recorded : Recorded state) (fn : Fn) (args : Arguments) :
    (state.queue ++ [(⟨fn, args, state.added.length⟩ : QueuedOperation Fn Arguments)]).map
        (·.promise) = List.range' state.calls.length (state.queue.length + 1) := by
  rw [List.map_append, recorded.numbered, List.range'_concat, recorded.added_length]
  simp only [List.map_cons, List.map_nil, Nat.one_mul]

/-- An addition keeps the records true. -/
theorem Recorded.push {state : OperationQueue Fn Arguments Value Error}
    (recorded : Recorded state) (fn : Fn) (args : Arguments) :
    Recorded { state with
      queue := state.queue ++ [⟨fn, args, state.added.length⟩]
      added := state.added ++ [(fn, args)] } where
  inOrder := by
    change state.calls ++ (state.queue ++ [_]).map _ = state.added ++ [(fn, args)]
    rw [List.map_append, ← List.append_assoc, recorded.inOrder]
    rfl
  numbered := by
    change _ = List.range' state.calls.length (state.queue ++ [_]).length
    rw [List.length_append]
    exact recorded.promises fn args
  own := recorded.own
  settled := recorded.settled

/-- A run with no call in flight starts the next one, or finds the queue empty. -/
theorem steady_run {state : OperationQueue Fn Arguments Value Error} (resting : Resting state) :
    Steady state.run := by
  have recorded := resting.recorded
  cases waiting : state.queue with
  | nil =>
      left
      have same : state.run = { state with running := false } := by
        simp only [run, waiting]
      rw [same]
      exact ⟨⟨⟨recorded.inOrder, recorded.numbered, recorded.own, recorded.settled⟩,
        resting.none, resting.all⟩, rfl, waiting⟩
  | cons operation rest =>
      right
      have inOrder := recorded.inOrder
      have numbered := recorded.numbered
      rw [waiting] at inOrder numbered
      rw [List.map_cons, List.length_cons, List.range'_succ] at numbered
      obtain ⟨first, later⟩ := List.cons.inj numbered
      have same : state.run = { state with
          running := true
          queue := rest
          calling := ⟨state.calls.length, operation.promise⟩ :: state.calling
          calls := state.calls ++ [(operation.fn, operation.args)] } := by
        simp only [run, waiting]
      rw [same]
      constructor
      · constructor
        · change (state.calls ++ [(operation.fn, operation.args)]) ++ rest.map _ = state.added
          rw [← inOrder, List.append_assoc]
          rfl
        · change rest.map QueuedOperation.promise =
            List.range' (state.calls ++ [_]).length rest.length
          rw [later, List.length_append]
          rfl
        · exact recorded.own
        · exact recorded.settled
      · rfl
      · change (⟨state.calls.length, operation.promise⟩ :: state.calling) ++ state.awaiting = _
        have none := resting.none
        rw [inFlight] at none
        rw [List.cons_append, none, first, resting.all]
      · change (state.calls ++ [_]).length = state.settled.length + 1
        rw [List.length_append, resting.all]
        rfl

theorem Steady.recorded {state : OperationQueue Fn Arguments Value Error} (steady : Steady state) :
    Recorded state := by
  rcases steady with ⟨resting, -, -⟩ | busy
  · exact resting.recorded
  · exact busy.recorded

/-- Nothing is in flight while the queue rests. -/
theorem Steady.busy {state : OperationQueue Fn Arguments Value Error} (steady : Steady state)
    {activation : Activation} (member : activation ∈ state.inFlight) : Busy state := by
  rcases steady with ⟨resting, -, -⟩ | busy
  · rw [resting.none] at member
    cases member
  · exact busy

theorem mem_inFlight_of_calling {state : OperationQueue Fn Arguments Value Error}
    {activation : Activation} {rest : List Activation} (stack : state.calling = activation :: rest) :
    activation ∈ state.inFlight := by
  rw [inFlight, stack]
  exact List.mem_cons_self

/-- The end of the call in flight settles its own promise, and the queue goes on. -/
theorem steady_settle {state rest : OperationQueue Fn Arguments Value Error} (busy : Busy state)
    {activation : Activation} (member : activation ∈ state.inFlight)
    (taken : rest = { state with calling := rest.calling, awaiting := rest.awaiting })
    (left : rest.inFlight = []) (result : Except Error Value) :
    Steady (rest.settle activation result) := by
  rw [busy.last, List.mem_singleton] at member
  have recorded := busy.recorded
  rw [settle]
  apply steady_run
  have settled : rest.settled = state.settled := by rw [taken]
  have ended : rest.ended = state.ended := by rw [taken]
  have calls : rest.calls = state.calls := by rw [taken]
  have queue : rest.queue = state.queue := by rw [taken]
  have added : rest.added = state.added := by rw [taken]
  constructor
  · constructor
    · change rest.calls ++ rest.queue.map _ = rest.added
      rw [calls, queue, added]
      exact recorded.inOrder
    · change rest.queue.map QueuedOperation.promise =
        List.range' rest.calls.length rest.queue.length
      rw [calls, queue]
      exact recorded.numbered
    · change rest.settled ++ [(activation.promise, result)] =
        rest.ended ++ [(activation.call, result)]
      rw [settled, ended, recorded.own, member]
    · change (rest.settled ++ [(activation.promise, result)]).map Prod.fst =
        List.range (rest.settled ++ [(activation.promise, result)]).length
      rw [List.map_append, List.length_append, settled, recorded.settled, member]
      exact List.range_succ.symm
  · exact left
  · change rest.calls.length = (rest.settled ++ [_]).length
    rw [calls, settled, List.length_append, busy.all]
    rfl

/-- A list whose append with another is a singleton, and which has a head, is that singleton. -/
theorem append_eq_singleton_of_cons {α : Type} {first : α} {rest others : List α} {last : α}
    (same : (first :: rest) ++ others = [last]) : rest = [] ∧ others = [] := by
  rw [List.cons_append] at same
  exact List.append_eq_nil_iff.mp (List.cons.inj same).2

/-- Every event leads from a queue between events to another. -/
theorem steady_step {state state' : OperationQueue Fn Arguments Value Error}
    {event : QueueEvent Fn Arguments Value Error} (steady : Steady state)
    (taken : state.step event = some state') : Steady state' := by
  cases event with
  | addOperation fn args =>
      obtain rfl := Option.some.inj taken
      rcases steady with ⟨resting, idle, _⟩ | busy
      · have stopped : ¬state.running = true := by
          rw [idle]
          exact Bool.false_ne_true
        have same : state.addOperation fn args = run { state with
            queue := state.queue ++ [⟨fn, args, state.added.length⟩]
            added := state.added ++ [(fn, args)] } := if_neg stopped
        rw [same]
        exact steady_run ⟨resting.recorded.push fn args, resting.none, resting.all⟩
      · have same : state.addOperation fn args = { state with
            queue := state.queue ++ [⟨fn, args, state.added.length⟩]
            added := state.added ++ [(fn, args)] } := if_pos busy.running
        rw [same]
        exact .inr ⟨busy.recorded.push fn args, busy.running, busy.last, busy.all⟩
  | throws error =>
      rw [step] at taken
      cases stack : state.calling with
      | nil =>
          rw [stack] at taken
          cases taken
      | cons activation rest =>
          rw [stack] at taken
          obtain rfl := Option.some.inj taken
          have member := mem_inFlight_of_calling stack
          have busy := steady.busy member
          have last := busy.last
          rw [inFlight, stack] at last
          obtain ⟨empty, others⟩ := append_eq_singleton_of_cons last
          apply steady_settle busy member
          · rfl
          · rw [inFlight]
            exact List.append_eq_nil_iff.mpr ⟨empty, others⟩
  | returns =>
      rw [step] at taken
      cases stack : state.calling with
      | nil =>
          rw [stack] at taken
          cases taken
      | cons activation rest =>
          rw [stack] at taken
          obtain rfl := Option.some.inj taken
          right
          have busy := steady.busy (mem_inFlight_of_calling stack)
          have last := busy.last
          rw [inFlight, stack] at last
          obtain ⟨empty, others⟩ := append_eq_singleton_of_cons last
          rw [empty, others] at last
          have recorded := busy.recorded
          refine ⟨⟨recorded.inOrder, recorded.numbered, recorded.own, recorded.settled⟩,
            busy.running, ?_, busy.all⟩
          change rest ++ (state.awaiting ++ [activation]) = _
          rw [empty, others]
          exact last
  | resumes index result =>
      rw [step] at taken
      cases found : state.awaiting[index]? with
      | none =>
          rw [found] at taken
          cases taken
      | some activation =>
          rw [found] at taken
          obtain rfl := Option.some.inj taken
          have member : activation ∈ state.inFlight :=
            List.mem_append_right _ (List.mem_of_getElem? found)
          have busy := steady.busy member
          have one := congrArg List.length busy.last
          rw [inFlight, List.length_append, List.length_singleton] at one
          obtain ⟨below, -⟩ := List.getElem?_eq_some_iff.mp found
          apply steady_settle busy member
          · rfl
          · change state.calling ++ state.awaiting.eraseIdx index = []
            apply List.eq_nil_of_length_eq_zero
            rw [List.length_append, List.length_eraseIdx_of_lt below]
            omega

/-- A queue between two events is as it should be. -/
theorem serialized_of_steady {state : OperationQueue Fn Arguments Value Error}
    (steady : Steady state) : state.Serialized := by
  have recorded := steady.recorded
  have once : (state.settled.map Prod.fst).Nodup := by
    rw [recorded.settled]
    exact List.nodup_range
  rcases steady with ⟨resting, idle, empty⟩ | busy
  · have added := recorded.added_length
    rw [empty, List.length_nil, Nat.add_zero, resting.all] at added
    refine ⟨recorded.inOrder, ?_, recorded.own, once, ?_, ?_, fun _ => empty⟩
    · rw [resting.none]
      exact Nat.zero_le 1
    · intro _
      rw [recorded.settled, added]
    · rw [idle, resting.none]
      exact iff_of_false Bool.false_ne_true fun differs => differs rfl
  · have some : state.inFlight ≠ [] := by
      rw [busy.last]
      exact List.cons_ne_nil _ _
    refine ⟨recorded.inOrder, ?_, recorded.own, once, fun none => absurd none some, ?_, ?_⟩
    · rw [busy.last]
      exact Nat.le_refl 1
    · exact iff_of_true busy.running some
    · intro idle
      exact absurd (idle.symm.trans busy.running) Bool.false_ne_true

theorem steady_initial :
    Steady (initial : OperationQueue Fn Arguments Value Error) :=
  .inl ⟨⟨⟨rfl, rfl, rfl, rfl⟩, rfl, rfl⟩, rfl, rfl⟩

/-- The queue is a mutex and runs its operations in the order of their additions. -/
theorem serialized {state : OperationQueue Fn Arguments Value Error}
    (reached : Reaches step (fun _ _ => True) initial state) : state.Serialized :=
  serialized_of_steady
    (reached.invariant steady_initial fun _ _ _ steady _ taken => steady_step steady taken)

/-- A fn adds an operation and throws, and the operation that waits then runs to its end. -/
theorem serialized_throw :
    ∃ state : OperationQueue Nat Unit Nat Nat,
      follow step initial [.addOperation 0 (), .addOperation 1 (), .throws 5, .returns,
        .resumes 0 (.ok 7)] = some state ∧ state.settled = [(0, .error 5), (1, .ok 7)] ∧
      state.Serialized := by
  refine ⟨_, rfl, rfl, serialized ?_⟩
  exact reaches_of_follow .first (along_of_forall (fun _ _ => trivial) _
    [.addOperation 0 (), .addOperation 1 (), .throws 5, .returns, .resumes 0 (.ok 7)]) rfl

end NodeExt2fs.Queue
