import NodeExt2fs.Construction.Js.Promises
import NodeExt2fs.Construction.Js.Queue

/-!
This file interleaves one call of `fstat` with the operations that any other calls put into the queue.
-/

namespace NodeExt2fs.Js
open Programs Glue

/-- A C function in the queue: an accessor of the call of `fstat`, or one that another call added. -/
inductive ModuleCall where
  | stat (field : InodeStat)
  | other (name : String) (args : List Int) (routine : Routine Int)

def ModuleCall.routine (fd : Ptr) : ModuleCall → Routine Int
  | .stat field => field.routine fd
  | .other _ _ routine => routine

/-- What the promise of the operation is settled with. -/
def ModuleCall.result (fd : Ptr) (value : Int) : ModuleCall → Except Failure Int
  | .stat field => (ccallThrowAsync field.name [fd] value).mapError .errno
  | .other name args _ => (ccallThrowAsync name args value).mapError .errno

abbrev ModuleQueue := OperationQueue ModuleCall Unit Int Failure

/-- Where the call of `fstat` stands. Promises have their numbers in the queue, and `awaitsAll` has that
of the first accessor in `Promise.all`. -/
inductive StatFrame where
  | uncalled
  | awaitsCtime (promise : Nat)
  | awaitsAll (ctime : Int) (first : Nat)
  | settled (result : Except Failure Stats)

/-- The queue with the rest of the C function that it has called, what the module holds, the call of
`fstat`, and all that the module has held since that call began and until it was settled. -/
structure Interleaving (Hidden : Type) where
  queue : ModuleQueue
  code : Option (Routine Int)
  hidden : Hidden
  frame : StatFrame
  seen : List Hidden

inductive InterleavingLabel where
  | call
  | others (name : String) (args : List Int) (routine : Routine Int)
  | returns
  | advance
  | settle
  | resume

variable {Hidden : Type}

namespace Interleaving

def initial (hidden : Hidden) : Interleaving Hidden where
  queue := .initial
  code := none
  hidden := hidden
  frame := .uncalled
  seen := []

/-- The next state of the queue, which may have called another function. -/
def withQueue (state : Interleaving Hidden) (fd : Ptr) (queue : ModuleQueue) : Interleaving Hidden :=
  { state with
    queue := queue
    code := if queue.calls.length = state.queue.calls.length then state.code
      else queue.calls.getLast?.map fun call => call.1.routine fd }

def enqueue (state : Interleaving Hidden) (fd : Ptr) (call : ModuleCall) : Interleaving Hidden :=
  state.withQueue fd (state.queue.addOperation call ())

def enqueueAll (state : Interleaving Hidden) (fd : Ptr) (calls : List ModuleCall) :
    Interleaving Hidden :=
  calls.foldl (fun state call => state.enqueue fd call) state

/-- The call of `fstat` has begun and is not settled. -/
def pending (state : Interleaving Hidden) : Bool :=
  match state.frame with
  | .uncalled | .settled _ => false
  | _ => true

/-- One request of the C function in flight. -/
def advance (state : Interleaving Hidden) (library : Handler Call Answer Hidden) :
    Option (Interleaving Hidden) :=
  match state.code with
  | some (.call request next) =>
      let (answer, hidden) := library request state.hidden
      some { state with
        code := some (next answer)
        hidden := hidden
        seen := if state.pending then hidden :: state.seen else state.seen }
  | _ => none

/-- The end of the C function in flight. -/
def settle (state : Interleaving Hidden) (fd : Ptr) : Option (Interleaving Hidden) :=
  match state.code, state.queue.calls.getLast? with
  | some (.pure value), some (call, _) =>
      (state.queue.step (.resumes 0 (call.result fd value))).map
        ({ state with code := none }.withQueue fd)
  | _, _ => none

/-- `Promise.all` of the accessors, and the constructor of `Stats`. -/
def gather (queue : ModuleQueue) (ctime : Int) (first : Nat) : Option (Except Failure Stats) :=
  let result (field : InodeStat) := queue.settled.lookup (first + allFields.idxOf field)
  let rejection (field : InodeStat) : Option Failure :=
    match result field with
    | some (.error failure) => some failure
    | _ => none
  match allFields.findSome? rejection with
  | some failure => some (.error failure)
  | none =>
      if allFields.all fun field => (result field).isSome then
        some (Stats.ofResults (ctime * 1000) fun field => (result field).getD (.ok 0))
      else none

/-- The call of `fstat` after one of its awaits. -/
def resume (state : Interleaving Hidden) (fd : Ptr) : Option (Interleaving Hidden) :=
  match state.frame with
  | .awaitsCtime promise =>
      match state.queue.settled.lookup promise with
      | none => none
      | some (.error failure) => some { state with frame := .settled (.error failure) }
      | some (.ok ctime) =>
          some { state.enqueueAll fd (allFields.map .stat) with
            frame := .awaitsAll ctime state.queue.added.length }
  | .awaitsAll ctime first =>
      (gather state.queue ctime first).map fun result => { state with frame := .settled result }
  | _ => none

/-- The descriptor is open when `fstat` is called. -/
def step (fd : Ptr) (library : Handler Call Answer Hidden) (state : Interleaving Hidden) :
    InterleavingLabel → Option (Interleaving Hidden)
  | .call =>
      match state.frame with
      | .uncalled =>
          some ({ state with
            frame := .awaitsCtime state.queue.added.length
            seen := [state.hidden] }.enqueue fd (.stat .iCtime))
      | _ => none
  | .others name args routine => some (state.enqueue fd (.other name args routine))
  | .returns => (state.queue.step .returns).map (state.withQueue fd)
  | .advance => state.advance library
  | .settle => state.settle fd
  | .resume => state.resume fd

end Interleaving

end NodeExt2fs.Js
