import NodeExt2fs.Programs.Transition

/-!
This file follows a stream from the opening of its file to the end of its `close`.
-/

namespace NodeExt2fs.Js

/-- The fields of a stream that its `open`, `close` and `destroy` use. `openListeners` counts the
`_close` that wait for 'open', and `closeListeners` has the callbacks that wait for 'close'. `closing`
counts the calls of `fs.close` in flight, `clearing` those that have ended and have yet to drop the
descriptor, and `ticks` the 'close' events of the next tick. The last two fields record what has
happened: the arguments of `fs.close`, and the callbacks that were called. -/
structure StreamClosing where
  autoClose : Bool
  opening : Bool
  fd : Option Nat
  isClosed : Bool
  destroyed : Bool
  openListeners : Nat
  closeListeners : List Nat
  closing : Nat
  clearing : Nat
  ticks : Nat
  requested : List Nat
  called : List Nat

/-- What happens to a stream: a call of one of its methods (also by a listener, by the stream itself at
its end or by the stream that it is piped to), the end of its `open`, the end of an `fs.close` with the
event that it emits, the assignment after it, or a tick. -/
inductive ClosingEvent where
  | close (cb : Option Nat)
  | destroy
  | opened (fd : Nat)
  | openFailed
  | ended (ok : Bool)
  | cleared
  | tick
  deriving DecidableEq

namespace StreamClosing

/-- A stream without a descriptor opens its file. -/
def create (fd : Option Nat) (autoClose : Bool) : StreamClosing where
  autoClose := autoClose
  opening := fd.isNone
  fd := fd
  isClosed := false
  destroyed := false
  openListeners := 0
  closeListeners := []
  closing := 0
  clearing := 0
  ticks := 0
  requested := []
  called := []

/-- `_close` up to its await, with each of the descriptors. -/
def request (state : StreamClosing) (fds : List Nat) : StreamClosing :=
  { state with
    closing := state.closing + fds.length
    requested := state.requested ++ fds }

def close (state : StreamClosing) (cb : Option Nat) : StreamClosing :=
  let state := { state with closeListeners := state.closeListeners ++ cb.toList }
  match state.fd with
  | none => { state with openListeners := state.openListeners + 1 }
  | some fd =>
      if state.isClosed then { state with ticks := state.ticks + 1 }
      else { state with isClosed := true }.request [fd]

def destroy (state : StreamClosing) : StreamClosing :=
  if state.destroyed then state else { state with destroyed := true }.close none

/-- The event 'open' calls every `_close` that waits for it. -/
def opened (state : StreamClosing) (fd : Nat) : StreamClosing :=
  { state with
    opening := false
    fd := some fd
    openListeners := 0 }.request (List.replicate state.openListeners fd)

def openFailed (state : StreamClosing) : StreamClosing :=
  let state := { state with opening := false }
  if state.autoClose then state.destroy else state

/-- The event 'close' calls the callbacks that wait for it. -/
def emitClose (state : StreamClosing) : StreamClosing :=
  { state with
    closeListeners := []
    called := state.called ++ state.closeListeners }

/-- `_close` after its await, up to the assignment. The 'error' event of a failed one has a listener. -/
def ended (state : StreamClosing) (ok : Bool) : StreamClosing :=
  let state := { state with closing := state.closing - 1, clearing := state.clearing + 1 }
  if ok then state.emitClose else state

def step (state : StreamClosing) : ClosingEvent → Option StreamClosing
  | .close cb => some (state.close cb)
  | .destroy => some state.destroy
  | .opened fd => if state.opening then some (state.opened fd) else none
  | .openFailed => if state.opening then some state.openFailed else none
  | .ended ok => if state.closing = 0 then none else some (state.ended ok)
  | .cleared =>
      if state.clearing = 0 then none
      else some { state with clearing := state.clearing - 1, fd := none }
  | .tick =>
      if state.ticks = 0 then none else some { state with ticks := state.ticks - 1 }.emitClose

end StreamClosing

end NodeExt2fs.Js
