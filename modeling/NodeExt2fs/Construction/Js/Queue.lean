import NodeExt2fs.Programs.Transition

/-!
The queue that keeps calls into the module apart.
-/

namespace NodeExt2fs.Js

/-- An element of `queue`. The number of the promise stands for its `resolve` and `reject`. -/
structure QueuedOperation (Fn Arguments : Type) where
  fn : Fn
  args : Arguments
  promise : Nat
  deriving DecidableEq

/-- An activation of `run` that has called the fn of its operation. -/
structure Activation where
  call : Nat
  promise : Nat
  deriving DecidableEq

/-- The state of `queue.js`. A call of a fn runs on the stack, innermost first, until it returns, and
its activation then waits for the result. The last four fields record what has happened: the
arguments of `addOperation`, the calls of the fns, how each call ended and how each promise was
settled. -/
structure OperationQueue (Fn Arguments Value Error : Type) where
  running : Bool
  queue : List (QueuedOperation Fn Arguments)
  calling : List Activation
  awaiting : List Activation
  added : List (Fn × Arguments)
  calls : List (Fn × Arguments)
  ended : List (Nat × Except Error Value)
  settled : List (Nat × Except Error Value)

/-- What happens to the queue: a call of `addOperation`, the end of the innermost call of a fn, or the
result that an activation waits for. -/
inductive QueueEvent (Fn Arguments Value Error : Type) where
  | addOperation (fn : Fn) (args : Arguments)
  | throws (error : Error)
  | returns
  | resumes (index : Nat) (result : Except Error Value)

variable {Fn Arguments Value Error : Type}

namespace OperationQueue

def initial : OperationQueue Fn Arguments Value Error where
  running := false
  queue := []
  calling := []
  awaiting := []
  added := []
  calls := []
  ended := []
  settled := []

/-- The operations whose fn has been called and has not ended. -/
def inFlight (state : OperationQueue Fn Arguments Value Error) : List Activation :=
  state.calling ++ state.awaiting

/-- `run` up to its call of the next fn. -/
def run (state : OperationQueue Fn Arguments Value Error) :
    OperationQueue Fn Arguments Value Error :=
  let state := { state with running := true }
  match state.queue with
  | [] => { state with running := false }
  | operation :: rest =>
      { state with
        queue := rest
        calling := ⟨state.calls.length, operation.promise⟩ :: state.calling
        calls := state.calls ++ [(operation.fn, operation.args)] }

def addOperation (state : OperationQueue Fn Arguments Value Error) (fn : Fn) (args : Arguments) :
    OperationQueue Fn Arguments Value Error :=
  let state := { state with
    queue := state.queue ++ [⟨fn, args, state.added.length⟩]
    added := state.added ++ [(fn, args)] }
  if state.running then state else state.run

/-- The end of a call: `resolve` or `reject` of its promise, and the `await run()` of `finally`. -/
def settle (state : OperationQueue Fn Arguments Value Error) (activation : Activation)
    (result : Except Error Value) : OperationQueue Fn Arguments Value Error :=
  run { state with
    ended := state.ended ++ [(activation.call, result)]
    settled := state.settled ++ [(activation.promise, result)] }

def step (state : OperationQueue Fn Arguments Value Error) :
    QueueEvent Fn Arguments Value Error → Option (OperationQueue Fn Arguments Value Error)
  | .addOperation fn args => some (state.addOperation fn args)
  | .throws error =>
      match state.calling with
      | [] => none
      | activation :: rest =>
          some ({ state with calling := rest }.settle activation (.error error))
  | .returns =>
      match state.calling with
      | [] => none
      | activation :: rest =>
          some { state with calling := rest, awaiting := state.awaiting ++ [activation] }
  | .resumes index result =>
      match state.awaiting[index]? with
      | none => none
      | some activation =>
          some ({ state with awaiting := state.awaiting.eraseIdx index }.settle activation result)

/-- The fns are called in the order of `addOperation` and one at a time. A promise has the number of
its `addOperation`, and a call the number of its start, so the settled promises are those of the
ended calls, with their results. A promise is settled at most once, every promise is settled when
no operation is in flight, and an idle queue is empty. -/
structure Serialized (state : OperationQueue Fn Arguments Value Error) : Prop where
  inOrder : state.calls ++ state.queue.map (fun operation => (operation.fn, operation.args)) =
    state.added
  single : state.inFlight.length ≤ 1
  own : state.settled = state.ended
  once : (state.settled.map Prod.fst).Nodup
  complete : state.inFlight = [] →
    state.settled.map Prod.fst = List.range state.added.length
  active : state.running = true ↔ state.inFlight ≠ []
  unstranded : state.running = false → state.queue = []

end OperationQueue

end NodeExt2fs.Js
