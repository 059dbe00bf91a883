import NodeExt2fs.Programs.Program

/-!
Programs that may reject and that keep variables of their own, with rules of pre- and postconditions.
-/

namespace NodeExt2fs.Programs

variable {Request : Type} {Answer : Request → Type} {Locals Failure A B State : Type}

/-- A rejection keeps what the program has done to its variables. -/
abbrev Async (Request : Type) (Answer : Request → Type) (Locals Failure A : Type) :=
  ExceptT Failure (StateT Locals (Program Request Answer)) A

namespace Async

variable {contract : Contract Request Answer State}

/-- The program that is left when the variables are given. -/
def start (program : Async Request Answer Locals Failure A) (locals : Locals) :
    Program Request Answer (Except Failure A × Locals) :=
  (program.run).run locals

/-- The weakest precondition of a program with its variables. -/
def wp (contract : Contract Request Answer State) (program : Async Request Answer Locals Failure A)
    (post : Except Failure A → Locals → State → Prop) (locals : Locals) (state : State) :
    Prop :=
  Program.wp contract (program.start locals) (fun result => post result.1 result.2) state

variable {post : Except Failure A → Locals → State → Prop} {locals : Locals} {state : State}

theorem wp_pure (value : A) :
    wp contract (pure value : Async Request Answer Locals Failure A) post locals state ↔
      post (.ok value) locals state := Iff.rfl

/-- The postcondition of a first part: what follows runs only after a value. -/
def andThen (contract : Contract Request Answer State)
    (next : A → Async Request Answer Locals Failure B)
    (post : Except Failure B → Locals → State → Prop) :
    Except Failure A → Locals → State → Prop
  | .ok value, locals, state => wp contract (next value) post locals state
  | .error failure, locals, state => post (.error failure) locals state

@[simp] theorem andThen_ok {post : Except Failure B → Locals → State → Prop}
    (next : A → Async Request Answer Locals Failure B) (value : A) :
    andThen contract next post (.ok value) locals state ↔
      wp contract (next value) post locals state := Iff.rfl

/-- What follows a first part, by its result and the variables. -/
def afterwards (next : A → Async Request Answer Locals Failure B)
    (result : Except Failure A × Locals) : Program Request Answer (Except Failure B × Locals) :=
  match result.1 with
  | .ok value => (next value).start result.2
  | .error failure => pure (.error failure, result.2)

theorem start_bind (first : Async Request Answer Locals Failure A)
    (next : A → Async Request Answer Locals Failure B) (locals : Locals) :
    (first >>= next).start locals = first.start locals >>= afterwards next := by
  change (first.start locals >>= fun result => ExceptT.bindCont next result.1 result.2) = _
  apply congrArg (first.start locals >>= ·)
  funext result
  rw [afterwards]
  cases result.1 <;> rfl

theorem wp_bind {post : Except Failure B → Locals → State → Prop}
    (first : Async Request Answer Locals Failure A)
    (next : A → Async Request Answer Locals Failure B) :
    wp contract (first >>= next) post locals state ↔
      wp contract first (andThen contract next post) locals state := by
  rw [wp, start_bind, Program.wp_bind]
  apply iff_of_eq
  apply congrArg (fun after => Program.wp contract (first.start locals) after state)
  funext result state'
  rw [afterwards]
  cases result.1 <;> rfl

theorem wp_ite {condition : Prop} [Decidable condition]
    {yes no : Async Request Answer Locals Failure A} :
    wp contract (if condition then yes else no) post locals state ↔
      (condition → wp contract yes post locals state) ∧
        (¬condition → wp contract no post locals state) := by
  by_cases chosen : condition <;> simp [chosen]

theorem wp_mono {post' : Except Failure A → Locals → State → Prop}
    {program : Async Request Answer Locals Failure A}
    (before : wp contract program post locals state)
    (implies : ∀ result locals state, post result locals state → post' result locals state) :
    wp contract program post' locals state :=
  Program.wp_mono before fun result state' holds => implies result.1 result.2 state' holds

theorem wp_get {post : Except Failure Locals → Locals → State → Prop} :
    wp contract (get : Async Request Answer Locals Failure Locals) post locals state ↔
      post (.ok locals) locals state := Iff.rfl

theorem wp_modify {post : Except Failure PUnit → Locals → State → Prop}
    (change : Locals → Locals) :
    wp contract (modify change : Async Request Answer Locals Failure PUnit) post locals state ↔
      post (.ok ⟨⟩) (change locals) state := Iff.rfl

/-- A program without variables whose result decides about rejection. -/
def lift (program : Program Request Answer (Except Failure A)) :
    Async Request Answer Locals Failure A :=
  ExceptT.mk (StateT.lift program)

theorem wp_lift (program : Program Request Answer (Except Failure A)) :
    wp contract (lift program : Async Request Answer Locals Failure A) post locals state ↔
      Program.wp contract program (fun result state' => post result locals state') state := by
  have unfolded : (lift program : Async Request Answer Locals Failure A).start locals =
      (program >>= fun result => pure (result, locals)) := rfl
  rw [wp, unfolded, Program.wp_bind]
  rfl

/-- The result of a program as a value. -/
def attempt (program : Async Request Answer Locals Failure A) :
    Async Request Answer Locals Failure (Except Failure A) :=
  ExceptT.mk (Except.ok <$> program.run)

theorem wp_attempt {post : Except Failure (Except Failure A) → Locals → State → Prop}
    (program : Async Request Answer Locals Failure A) :
    wp contract program.attempt post locals state ↔
      wp contract program (fun result => post (.ok result)) locals state := by
  have unfolded : program.attempt.start locals =
      (program.start locals >>= fun result => pure (.ok result.1, result.2)) := rfl
  rw [wp, unfolded, Program.wp_bind]
  rfl

/-- The end of a run of an honoured contract meets the postcondition. -/
theorem run_of_wp {Hidden : Type} {handler : Handler Request Answer Hidden} {view : Hidden → State}
    (honoured : contract.Honoured handler view) {program : Async Request Answer Locals Failure A}
    {hidden : Hidden} (before : wp contract program post locals (view hidden)) :
    post ((program.start locals).run handler hidden).1.1
      ((program.start locals).run handler hidden).1.2
      (view ((program.start locals).run handler hidden).2) :=
  Program.run_of_wp honoured before

end Async

end NodeExt2fs.Programs
