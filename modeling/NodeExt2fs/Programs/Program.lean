import Mathlib.Data.List.Basic
import Mathlib.Control.Basic

/-!
Programs that call an environment they do not define, and rules of pre- and postconditions for them.
-/

namespace NodeExt2fs.Programs

/-- A program issues requests and continues with their answers. -/
inductive Program (Request : Type) (Answer : Request → Type) (A : Type) where
  | pure (value : A)
  | call (request : Request) (next : Answer request → Program Request Answer A)

/-- An event records one request and the answer it received. -/
abbrev Event (Request : Type) (Answer : Request → Type) := (request : Request) × Answer request

/-- A handler answers each request and moves its own state. -/
abbrev Handler (Request : Type) (Answer : Request → Type) (State : Type) :=
  (request : Request) → State → Answer request × State

namespace Program

variable {Request : Type} {Answer : Request → Type} {A B State : Type}

def bind : Program Request Answer A → (A → Program Request Answer B) → Program Request Answer B
  | .pure value, next => next value
  | .call request rest, next => .call request fun answer => (rest answer).bind next

instance : Monad (Program Request Answer) where
  pure := Program.pure
  bind := Program.bind

/-- The program that makes one request and returns its answer. -/
def perform (request : Request) : Program Request Answer (Answer request) :=
  .call request .pure

theorem bind_pure_right (program : Program Request Answer A) : program.bind .pure = program := by
  induction program with
  | pure value => rfl
  | call request next ih => exact congrArg (Program.call request) (funext ih)

theorem bind_bind {C : Type} (program : Program Request Answer A)
    (first : A → Program Request Answer B) (second : B → Program Request Answer C) :
    (program.bind first).bind second = program.bind fun value => (first value).bind second := by
  induction program with
  | pure value => rfl
  | call request next ih => exact congrArg (Program.call request) (funext ih)

instance : LawfulMonad (Program Request Answer) :=
  LawfulMonad.mk' (Program Request Answer) bind_pure_right (fun _ _ => rfl) bind_bind

/-- A run answers every request by the handler. -/
def run (handler : Handler Request Answer State) : Program Request Answer A → State → A × State
  | .pure value, state => (value, state)
  | .call request next, state =>
      (next (handler request state).1).run handler (handler request state).2

theorem run_bind (handler : Handler Request Answer State) (program : Program Request Answer A)
    (next : A → Program Request Answer B) (state : State) :
    (program >>= next).run handler state =
      (next (program.run handler state).1).run handler (program.run handler state).2 := by
  change (program.bind next).run handler state = _
  induction program generalizing state with
  | pure value => rfl
  | call request rest ih => exact ih _ _

/-- The events of a run, in the order of the requests. -/
def events (handler : Handler Request Answer State) :
    Program Request Answer A → State → List (Event Request Answer)
  | .pure _, _ => []
  | .call request next, state =>
      ⟨request, (handler request state).1⟩ ::
        (next (handler request state).1).events handler (handler request state).2

/-- An outcome is one possible history with its result, whatever the environment answers. -/
inductive Outcome : Program Request Answer A → List (Event Request Answer) → A → Prop where
  | pure (value : A) : Outcome (.pure value) [] value
  | call {request : Request} {next : Answer request → Program Request Answer A}
      (answer : Answer request) {history : List (Event Request Answer)} {value : A}
      (rest : Outcome (next answer) history value) :
      Outcome (.call request next) (⟨request, answer⟩ :: history) value

/-- Each run is an outcome. -/
theorem run_outcome (handler : Handler Request Answer State) (program : Program Request Answer A)
    (state : State) :
    Outcome program (program.events handler state) (program.run handler state).1 := by
  induction program generalizing state with
  | pure value => exact .pure value
  | call request next ih => exact .call _ (ih _ _)

end Program

/-- A contract says which requests are permitted and how each answer may change the state. -/
structure Contract (Request : Type) (Answer : Request → Type) (State : Type) where
  permits : State → Request → Prop
  allows : State → (request : Request) → Answer request → State → Prop

/-- The handler keeps to the contract on every state, as seen through the view. -/
def Contract.Honoured {Request : Type} {Answer : Request → Type} {State Hidden : Type}
    (contract : Contract Request Answer State) (handler : Handler Request Answer Hidden)
    (view : Hidden → State) : Prop :=
  ∀ request hidden, contract.allows (view hidden) request (handler request hidden).1
    (view (handler request hidden).2)

/-- A contract that allows no more than another one. -/
structure Contract.Refines {Request : Type} {Answer : Request → Type} {State : Type}
    (contract contract' : Contract Request Answer State) : Prop where
  permits : ∀ state request, contract'.permits state request → contract.permits state request
  allows : ∀ state request answer state', contract.allows state request answer state' →
    contract'.allows state request answer state'

theorem Contract.Refines.refl {Request : Type} {Answer : Request → Type} {State : Type}
    (contract : Contract Request Answer State) : contract.Refines contract :=
  ⟨fun _ _ permitted => permitted, fun _ _ _ _ allowed => allowed⟩

namespace Program

variable {Request : Type} {Answer : Request → Type} {A B State Hidden : Type}

/-- The weakest precondition under which every request is permitted and the result satisfies the
postcondition, for all behaviours that the contract allows. -/
def wp (contract : Contract Request Answer State) :
    Program Request Answer A → (A → State → Prop) → State → Prop
  | .pure value, post, state => post value state
  | .call request next, post, state =>
      contract.permits state request ∧
        ∀ answer state', contract.allows state request answer state' →
          (next answer).wp contract post state'

variable {contract : Contract Request Answer State}

@[simp] theorem wp_pure (value : A) (post : A → State → Prop) (state : State) :
    wp contract (Pure.pure value) post state ↔ post value state := Iff.rfl

theorem wp_perform (request : Request) (post : Answer request → State → Prop) (state : State) :
    wp contract (perform request) post state ↔
      contract.permits state request ∧
        ∀ answer state', contract.allows state request answer state' → post answer state' := Iff.rfl

@[simp] theorem wp_bind (program : Program Request Answer A) (next : A → Program Request Answer B)
    (post : B → State → Prop) (state : State) :
    wp contract (program >>= next) post state ↔
      wp contract program (fun value state' => wp contract (next value) post state') state := by
  change wp contract (program.bind next) post state ↔ _
  induction program generalizing state with
  | pure value => rfl
  | call request rest ih =>
      constructor
      · intro before
        exact ⟨before.1, fun answer state' allowed =>
          (ih answer state').mp (before.2 answer state' allowed)⟩
      · intro before
        exact ⟨before.1, fun answer state' allowed =>
          (ih answer state').mpr (before.2 answer state' allowed)⟩

@[simp] theorem wp_map (program : Program Request Answer A) (f : A → B) (post : B → State → Prop)
    (state : State) :
    wp contract (f <$> program) post state ↔
      wp contract program (fun value state' => post (f value) state') state := by
  rw [← bind_pure_comp]
  exact wp_bind _ _ _ _

@[simp] theorem wp_ite (condition : Prop) [Decidable condition] (yes no : Program Request Answer A)
    (post : A → State → Prop) (state : State) :
    wp contract (if condition then yes else no) post state ↔
      (condition → wp contract yes post state) ∧ (¬condition → wp contract no post state) := by
  split
  · simp_all
  · simp_all

/-- The rule of consequence. -/
theorem wp_mono {program : Program Request Answer A} {post post' : A → State → Prop} {state : State}
    (before : wp contract program post state)
    (implies : ∀ value state', post value state' → post' value state') :
    wp contract program post' state := by
  induction program generalizing state with
  | pure value => exact implies _ _ before
  | call request next ih =>
      exact ⟨before.1, fun answer state' allowed => ih answer (before.2 answer state' allowed)⟩

/-- What holds under a contract holds under one that refines it. -/
theorem wp_refines {contract' : Contract Request Answer State} (refines : contract.Refines contract')
    {program : Program Request Answer A} {post : A → State → Prop} {state : State}
    (before : wp contract' program post state) : wp contract program post state := by
  induction program generalizing state with
  | pure value => exact before
  | call request next ih =>
      exact ⟨refines.permits _ _ before.1, fun answer state' allowed =>
        ih answer (before.2 answer state' (refines.allows _ _ _ _ allowed))⟩

/-- Nothing can go wrong where every request is permitted. -/
theorem wp_true (permitted : ∀ state request, contract.permits state request)
    (program : Program Request Answer A) (state : State) :
    wp contract program (fun _ _ => True) state := by
  induction program generalizing state with
  | pure value => trivial
  | call request next ih =>
      exact ⟨permitted state request, fun answer state' _ => ih answer state'⟩

/-- Two postconditions hold together. -/
theorem wp_and {program : Program Request Answer A} {post post' : A → State → Prop} {state : State}
    (first : wp contract program post state) (second : wp contract program post' state) :
    wp contract program (fun value state' => post value state' ∧ post' value state') state := by
  induction program generalizing state with
  | pure value => exact ⟨first, second⟩
  | call request next ih =>
      exact ⟨first.1, fun answer state' allowed =>
        ih answer (first.2 answer state' allowed) (second.2 answer state' allowed)⟩

/-- A run of an honoured contract meets the postcondition. -/
theorem run_of_wp {handler : Handler Request Answer Hidden} {view : Hidden → State}
    (honoured : contract.Honoured handler view) {program : Program Request Answer A}
    {post : A → State → Prop} {hidden : Hidden} (before : wp contract program post (view hidden)) :
    post (program.run handler hidden).1 (view (program.run handler hidden).2) := by
  induction program generalizing hidden with
  | pure value => exact before
  | call request next ih => exact ih _ (before.2 _ _ (honoured request hidden))

/-- Every request that the program can make has the property. -/
def Only (holds : Request → Prop) : Program Request Answer A → Prop
  | .pure _ => True
  | .call request next => holds request ∧ ∀ answer, (next answer).Only holds

variable {holds : Request → Prop}

@[simp] theorem only_pure (value : A) :
    (Pure.pure value : Program Request Answer A).Only holds ↔ True := Iff.rfl

theorem only_perform (request : Request) :
    (perform request : Program Request Answer _).Only holds ↔ holds request :=
  and_iff_left fun _ => trivial

theorem only_bind {program : Program Request Answer A} {next : A → Program Request Answer B}
    (first : program.Only holds) (second : ∀ value, (next value).Only holds) :
    (program >>= next).Only holds := by
  change (program.bind next).Only holds
  induction program with
  | pure value => exact second value
  | call request rest ih => exact ⟨first.1, fun answer => ih answer (first.2 answer)⟩

/-- A program whose requests are permitted on every state. -/
theorem wp_true_of_only (permits : ∀ state request, holds request → contract.permits state request)
    {program : Program Request Answer A} (only : program.Only holds) (state : State) :
    wp contract program (fun _ _ => True) state := by
  induction program generalizing state with
  | pure value => trivial
  | call request next ih =>
      exact ⟨permits state request only.1, fun answer state' _ => ih answer (only.2 answer) state'⟩

/-- What a program does under a contract, it does under one with the same answers that permits its
requests. -/
theorem wp_permitted {contract' : Contract Request Answer State}
    (allows : ∀ state request answer state', contract'.allows state request answer state' →
      contract.allows state request answer state')
    {program : Program Request Answer A} {post : A → State → Prop} {state : State}
    (permitted : wp contract' program (fun _ _ => True) state)
    (before : wp contract program post state) : wp contract' program post state := by
  induction program generalizing state with
  | pure value => exact before
  | call request next ih =>
      exact ⟨permitted.1, fun answer state' allowed =>
        ih answer (permitted.2 answer state' allowed) (before.2 answer state' (allows _ _ _ _ allowed))⟩

theorem only_ite {condition : Prop} [Decidable condition] {yes no : Program Request Answer A}
    (first : yes.Only holds) (second : no.Only holds) :
    (if condition then yes else no).Only holds := by
  by_cases chosen : condition
  · rwa [if_pos chosen]
  · rwa [if_neg chosen]

/-- A relation that each of the requests establishes is established by the program. -/
theorem wp_of_only {relates : State → State → Prop} (refl : ∀ state, relates state state)
    (trans : ∀ first second third, relates first second → relates second third → relates first third)
    (each : ∀ state request, holds request → contract.permits state request ∧
      ∀ answer state', contract.allows state request answer state' → relates state state')
    {program : Program Request Answer A} (only : program.Only holds) (state : State) :
    wp contract program (fun _ state' => relates state state') state := by
  induction program generalizing state with
  | pure value => exact refl state
  | call request next ih =>
      obtain ⟨permitted, established⟩ := each state request only.1
      refine ⟨permitted, ?_⟩
      intro answer state' allowed
      apply wp_mono (ih answer (only.2 answer) state')
      intro value state'' later
      exact trans state state' state'' (established answer state' allowed) later

/-- Some behaviour that the contract allows reaches the postcondition. -/
def may (contract : Contract Request Answer State) :
    Program Request Answer A → (A → State → Prop) → State → Prop
  | .pure value, post, state => post value state
  | .call request next, post, state =>
      ∃ answer state', contract.allows state request answer state' ∧
        (next answer).may contract post state'

theorem may_bind (program : Program Request Answer A) (next : A → Program Request Answer B)
    (post : B → State → Prop) (state : State) :
    may contract (program >>= next) post state ↔
      may contract program (fun value state' => may contract (next value) post state') state := by
  change may contract (program.bind next) post state ↔ _
  induction program generalizing state with
  | pure value => rfl
  | call request rest ih =>
      apply exists_congr
      intro answer
      apply exists_congr
      intro state'
      exact and_congr_right fun _ => ih answer state'

theorem may_mono {program : Program Request Answer A} {post post' : A → State → Prop} {state : State}
    (before : may contract program post state)
    (implies : ∀ value state', post value state' → post' value state') :
    may contract program post' state := by
  induction program generalizing state with
  | pure value => exact implies _ _ before
  | call request next ih =>
      obtain ⟨answer, state', allowed, rest⟩ := before
      exact ⟨answer, state', allowed, ih answer rest⟩

/-- What may happen under a contract may happen under one that it refines. -/
theorem may_refines {contract' : Contract Request Answer State} (refines : contract.Refines contract')
    {program : Program Request Answer A} {post : A → State → Prop} {state : State}
    (before : may contract program post state) : may contract' program post state := by
  induction program generalizing state with
  | pure value => exact before
  | call request next ih =>
      obtain ⟨answer, state', allowed, rest⟩ := before
      exact ⟨answer, state', refines.allows state request answer state' allowed, ih answer rest⟩

/-- A behaviour that misses the postcondition refutes the precondition. -/
theorem not_wp_of_may {program : Program Request Answer A} {post : A → State → Prop} {state : State}
    (misses : may contract program (fun value state' => ¬post value state') state) :
    ¬wp contract program post state := by
  induction program generalizing state with
  | pure value => exact misses
  | call request next ih =>
      obtain ⟨answer, state', allowed, rest⟩ := misses
      intro before
      exact ih answer rest (before.2 answer state' allowed)

/-- A program whose requests can all be answered may reach what it always reaches. -/
theorem may_of_wp
    (answered : ∀ state request, holds request → ∃ answer state',
      contract.allows state request answer state')
    {program : Program Request Answer A} (only : program.Only holds) {post : A → State → Prop}
    {state : State} (before : wp contract program post state) : may contract program post state := by
  induction program generalizing state with
  | pure value => exact before
  | call request next ih =>
      obtain ⟨answer, state', allowed⟩ := answered state request only.1
      exact ⟨answer, state', allowed, ih answer (only.2 answer) (before.2 answer state' allowed)⟩

end Program

/-- The contract that also counts the requests of a kind. -/
def Contract.counting {Request : Type} {Answer : Request → Type} {State : Type}
    (contract : Contract Request Answer State) (counts : Request → Bool) :
    Contract Request Answer (State × Nat) where
  permits state request := contract.permits state.1 request
  allows state request answer state' := contract.allows state.1 request answer state'.1 ∧
    state'.2 = state.2 + (counts request).toNat

namespace Program

variable {Request : Type} {Answer : Request → Type} {A B State Hidden : Type}
  {contract : Contract Request Answer State} {counts : Request → Bool}

/-- What does not mention the counter holds with it as without it. -/
theorem wp_counting {program : Program Request Answer A} {post : A → State → Prop} {state : State}
    {count : Nat} :
    wp (contract.counting counts) program (fun value state' => post value state'.1) (state, count) ↔
      wp contract program post state := by
  induction program generalizing state count with
  | pure value => rfl
  | call request next ih =>
      apply and_congr_right
      intro _
      constructor
      · intro before answer state' allowed
        exact (ih answer).mp (before answer (state', count + (counts request).toNat) ⟨allowed, rfl⟩)
      · intro before answer state' allowed
        exact (ih answer).mpr (before answer state'.1 allowed.1)

/-- A program without requests of the kind leaves the counter. -/
theorem wp_counting_none {program : Program Request Answer A} {post : A → State → Prop}
    {state : State} {count : Nat} (none : program.Only fun request => counts request = false)
    (before : wp contract program post state) :
    wp (contract.counting counts) program
      (fun value state' => post value state'.1 ∧ state'.2 = count) (state, count) := by
  induction program generalizing state with
  | pure value => exact ⟨before, rfl⟩
  | call request next ih =>
      refine ⟨before.1, ?_⟩
      intro answer state' allowed
      obtain ⟨moved, counted⟩ := allowed
      rw [none.1, Bool.toNat_false, Nat.add_zero] at counted
      have same : state' = (state'.1, count) := Prod.ext rfl counted
      rw [same]
      exact ih answer (none.2 answer) (before.2 answer state'.1 moved)

/-- The counter of a run has the number of the events of the kind. -/
theorem run_of_wp_counting {handler : Handler Request Answer Hidden} {view : Hidden → State}
    (honoured : contract.Honoured handler view) {program : Program Request Answer A}
    {post : A → State × Nat → Prop} {hidden : Hidden} {count : Nat}
    (before : wp (contract.counting counts) program post (view hidden, count)) :
    post (program.run handler hidden).1 (view (program.run handler hidden).2,
      count + (program.events handler hidden).countP fun event => counts event.1) := by
  induction program generalizing hidden count with
  | pure value => exact before
  | call request next ih =>
      have later := ih _ (before.2 (handler request hidden).1
        (view (handler request hidden).2, count + (counts request).toNat)
        ⟨honoured request hidden, rfl⟩)
      have all : count + ((call request next).events handler hidden).countP
            (fun event => counts event.1) =
          count + (counts request).toNat + ((next (handler request hidden).1).events handler
            (handler request hidden).2).countP fun event => counts event.1 := by
        rw [events, List.countP_cons, Nat.add_assoc, Nat.add_comm ((counts request).toNat)]
        cases counts request <;> rfl
      rw [all]
      exact later

end Program

/-- The contract that also keeps whether all events so far are good. -/
def Contract.tracking {Request : Type} {Answer : Request → Type} {State : Type}
    (contract : Contract Request Answer State) (good : Event Request Answer → Prop) :
    Contract Request Answer (State × Prop) where
  permits state request := contract.permits state.1 request
  allows state request answer state' := contract.allows state.1 request answer state'.1 ∧
    state'.2 = (state.2 ∧ good ⟨request, answer⟩)

namespace Program

variable {Request : Type} {Answer : Request → Type} {A B State Hidden : Type}

/-- The events of a sequence are those of its parts. -/
theorem events_bind (handler : Handler Request Answer State) (program : Program Request Answer A)
    (next : A → Program Request Answer B) (state : State) :
    (program >>= next).events handler state = program.events handler state ++
      (next (program.run handler state).1).events handler (program.run handler state).2 := by
  change (program.bind next).events handler state = _
  induction program generalizing state with
  | pure value => rfl
  | call request rest ih => exact congrArg (List.cons _) (ih _ _)

/-- A tracked precondition speaks about all events of a run. -/
theorem run_of_wp_tracking {contract : Contract Request Answer State}
    {handler : Handler Request Answer Hidden} {view : Hidden → State}
    (honoured : contract.Honoured handler view) {good : Event Request Answer → Prop}
    {program : Program Request Answer A} {post : A → State × Prop → Prop} {hidden : Hidden}
    {before : Prop} (holds : wp (contract.tracking good) program post (view hidden, before)) :
    post (program.run handler hidden).1 (view (program.run handler hidden).2,
      before ∧ ∀ event ∈ program.events handler hidden, good event) := by
  induction program generalizing hidden before with
  | pure value =>
      have none : (before ∧ ∀ event ∈ ([] : List (Event Request Answer)), good event) = before :=
        propext (and_iff_left fun _ absent => absurd absent List.not_mem_nil)
      change post value (view hidden, before ∧ ∀ event ∈ [], good event)
      rw [none]
      exact holds
  | call request next ih =>
      have later := ih _ (holds.2 (handler request hidden).1
        (view (handler request hidden).2, before ∧ good ⟨request, (handler request hidden).1⟩)
        ⟨honoured request hidden, rfl⟩)
      have all : (before ∧ ∀ event ∈ (call request next).events handler hidden, good event) =
          ((before ∧ good ⟨request, (handler request hidden).1⟩) ∧ ∀ event ∈
            (next (handler request hidden).1).events handler (handler request hidden).2,
            good event) := by
        rw [events, List.forall_mem_cons, and_assoc]
      rw [all]
      exact later

end Program

/-- A monitor follows the events of a program in a state of its own. -/
def Contract.monitor {Request : Type} {Answer : Request → Type} {State : Type}
    (permits : State → Request → Prop) (step : State → Event Request Answer → State) :
    Contract Request Answer State where
  permits := permits
  allows state request answer state' := state' = step state ⟨request, answer⟩

namespace Program

variable {Request : Type} {Answer : Request → Type} {A State : Type}
  {permits : State → Request → Prop} {step : State → Event Request Answer → State}

/-- A monitored precondition speaks about every outcome. -/
theorem outcome_of_wp_monitor {program : Program Request Answer A} {post : A → State → Prop}
    {state : State} (before : wp (.monitor permits step) program post state)
    {history : List (Event Request Answer)} {value : A} (outcome : Outcome program history value) :
    post value (history.foldl step state) := by
  induction outcome generalizing state with
  | pure value => exact before
  | call answer _ ih => exact ih (before.2 answer _ rfl)

end Program

/-- A monitor that relies on every event being good. -/
def Contract.watching {Request : Type} {Answer : Request → Type} {State : Type}
    (good : Event Request Answer → Prop) (step : State → Event Request Answer → State) :
    Contract Request Answer State where
  permits _ _ := True
  allows state request answer state' := good ⟨request, answer⟩ ∧ state' = step state ⟨request, answer⟩

namespace Program

variable {Request : Type} {Answer : Request → Type} {A State : Type}
  {good : Event Request Answer → Prop} {step : State → Event Request Answer → State}

/-- A watched precondition speaks about every outcome of which all events are good. -/
theorem outcome_of_wp_watching {program : Program Request Answer A} {post : A → State → Prop}
    {state : State} (before : wp (.watching good step) program post state)
    {history : List (Event Request Answer)} {value : A} (outcome : Outcome program history value)
    (all : ∀ event ∈ history, good event) : post value (history.foldl step state) := by
  induction outcome generalizing state with
  | pure value => exact before
  | call answer _ ih =>
      have first := List.forall_mem_cons.mp all
      exact ih (before.2 answer _ ⟨first.1, rfl⟩) first.2

end Program

end NodeExt2fs.Programs
