import NodeExt2fs.Structures.IdPool
import NodeExt2fs.Programs.Transition
import Mathlib.Logic.Function.Basic

/-!
This file interleaves the calls that `withHooks` wraps.

A call runs in one step up to its next await.
-/

namespace NodeExt2fs.Js
open Structures

/-- What the body of a hooked function does between its awaits: it awaits `usePath` or `usePaths`,
`useBuffer`, `useObject` or an operation of the binding, or it copies out what was read. The paths
are given by whether they have a null byte. -/
inductive Stage where
  | paths (nuls : List Bool)
  | buffer
  | object
  | operate
  | copyOut
  deriving DecidableEq

inductive HookedFunction where
  | open (nul : Bool)
  | mkdir (nul : Bool)
  | unlink (nul : Bool)
  | rmdir (nul : Bool)
  | readdir (nul : Bool)
  | readlink (nul : Bool)
  | rename (existingNul newNul : Bool)
  | link (existingNul newNul : Bool)
  | symlink (targetNul pathNul : Bool)
  | read
  | write

def HookedFunction.body : HookedFunction → List Stage
  | .open nul => [.paths [nul], .operate]
  | .mkdir nul => [.paths [nul], .operate]
  | .unlink nul => [.paths [nul], .operate]
  | .rmdir nul => [.paths [nul], .operate]
  | .readdir nul => [.paths [nul], .object, .operate]
  | .readlink nul => [.paths [nul], .object, .operate]
  | .rename existingNul newNul => [.paths [existingNul], .paths [newNul], .operate]
  | .link existingNul newNul => [.paths [existingNul, newNul], .operate]
  | .symlink targetNul pathNul => [.paths [targetNul, pathNul], .operate]
  | .read => [.buffer, .operate, .copyOut]
  | .write => [.buffer, .operate]

/-- A call of a hook. `malloc` waits in `useBuffer`, where `hook` is its `_hookId`, and `filling` in
`usePath` before the path is copied. -/
inductive Slot where
  | rejected
  | malloc (hook : Nat) (path : Bool)
  | filling (pointer : Nat)
  | ready (pointer : Nat)
  deriving DecidableEq

/-- `freeing` awaits the frees of the `finally` block, of which the given ones are left. -/
inductive Phase where
  | running
  | freeing (addrs : List Nat)
  | settled
  deriving DecidableEq

/-- A hooked call with its `_hookId`, its `oldHookId`, the rest of its body, and what its hooks have
returned to it. -/
structure HookedCall where
  hook : Nat
  oldHook : Option Nat
  body : List Stage
  slots : List Slot
  objects : List Nat
  operating : Bool
  phase : Phase

/-- What may go wrong: a `HookError`, an access to a deleted list, the release of something that the
call does not own, or the use of something that was released. -/
inductive HookFault where
  | hookError
  | deletedList
  | foreignRelease
  | lateUse
  deriving DecidableEq

/-- The variables of `lib/util.js` and the calls. `pointerOwner` and `objectOwner` record which call
has requested the memory and the objects that are not released. -/
structure Hooks where
  hookId : Option Nat
  hookIds : IdPool
  objIds : Nat → Option (List Nat)
  memAddrs : Nat → Option (List Nat)
  objectIds : IdPool
  call : Nat → Option HookedCall
  pointerOwner : Nat → Option Nat
  objectOwner : Nat → Option Nat
  faults : List HookFault

/-- No call has begun. The wrapper of the mounted disk has taken the first object id. -/
def Hooks.empty : Hooks where
  hookId := none
  hookIds := { next := 0, released := [] }
  objIds := fun _ => none
  memAddrs := fun _ => none
  objectIds := { next := 2, released := [] }
  call := fun _ => none
  pointerOwner := fun _ => none
  objectOwner := fun _ => none
  faults := []

def Hooks.setCall (state : Hooks) (id : Nat) (call : HookedCall) : Hooks :=
  { state with call := Function.update state.call id (some call) }

def Hooks.fault (state : Hooks) (fault : HookFault) : Hooks :=
  { state with faults := state.faults ++ [fault] }

/-- The fault is recorded unless the test holds. -/
def Hooks.expect (state : Hooks) (test : Bool) (fault : HookFault) : Hooks :=
  if test then state else state.fault fault

/-- `useBuffer` up to its await. -/
def Hooks.useBuffer (state : Hooks) (path : Bool) : Slot :=
  match state.hookId with
  | some hook => .malloc hook path
  | none => .rejected

/-- `usePath` up to its await. -/
def Hooks.usePath (state : Hooks) (nul : Bool) : Slot :=
  if nul then .rejected else state.useBuffer true

/-- `useObject`, which has no await. -/
def Hooks.useObject (state : Hooks) (id : Nat) (call : HookedCall) : Hooks :=
  let objId := state.objectIds.getId.1
  let state' := { state with
    objectIds := state.objectIds.getId.2
    objectOwner := Function.update state.objectOwner objId (some id) }
  match state.hookId with
  | none => (state'.fault .hookError).setCall id { call with slots := call.slots ++ [.rejected] }
  | some hook =>
      match state.objIds hook with
      | none => (state'.fault .deletedList).setCall id { call with slots := call.slots ++ [.rejected] }
      | some objs =>
          { state' with objIds := Function.update state.objIds hook (some (objs ++ [objId])) }.setCall
            id { call with objects := call.objects ++ [objId] }

def Slot.pointer? : Slot → Option Nat
  | .rejected => none
  | .malloc _ _ => none
  | .filling pointer => some pointer
  | .ready pointer => some pointer

/-- The call still owns what its hooks have returned. -/
def Hooks.owns (state : Hooks) (id : Nat) (call : HookedCall) : Bool :=
  (call.slots.filterMap Slot.pointer?).all (fun pointer => state.pointerOwner pointer = some id) &&
    call.objects.all fun objId => state.objectOwner objId = some id

/-- The body up to its next await. -/
def Hooks.advance (state : Hooks) (id : Nat) (call : HookedCall) : Hooks :=
  match call.body with
  | [] => state.setCall id call
  | .paths nuls :: rest =>
      (state.expect (state.hookId.isSome || nuls.all fun nul => nul) .hookError).setCall id
        { call with body := rest, slots := call.slots ++ nuls.map state.usePath }
  | .buffer :: rest =>
      (state.expect state.hookId.isSome .hookError).setCall id
        { call with body := rest, slots := call.slots ++ [state.useBuffer false] }
  | .object :: rest => state.useObject id { call with body := rest }
  | .operate :: rest => state.setCall id { call with body := rest, operating := true }
  | .copyOut :: rest =>
      (state.expect (state.owns id call) .lateUse).setCall id { call with body := rest }

/-- `withHooks` up to the first await of the body. An early end is a return or an exception before
the first hook. -/
def Hooks.start (state : Hooks) (id : Nat) (function : HookedFunction) (early : Bool) : Hooks :=
  let hook := state.hookIds.getId.1
  { state with
    hookId := some hook
    hookIds := state.hookIds.getId.2
    objIds := Function.update state.objIds hook (some [])
    memAddrs := Function.update state.memAddrs hook (some []) }.advance id
      { hook := hook
        oldHook := state.hookId
        body := if early then [] else function.body
        slots := []
        objects := []
        operating := false
        phase := .running }

/-- `useBuffer` after its await. A rejected `malloc` rejects it. -/
def Hooks.answer (state : Hooks) (id index : Nat) (pointer? : Option Nat) : Option Hooks :=
  match state.call id with
  | none => none
  | some call =>
      match call.slots[index]?, pointer? with
      | some (.malloc _ _), none =>
          some (state.setCall id { call with slots := call.slots.set index .rejected })
      | some (.malloc hook path), some pointer =>
          -- `malloc` returns memory that is not in use.
          if state.pointerOwner pointer ≠ none then none
          else
            let state' := { state with
              pointerOwner := Function.update state.pointerOwner pointer (some id) }
            match state.memAddrs hook with
            | none =>
                some ((state'.fault .deletedList).setCall id
                  { call with slots := call.slots.set index .rejected })
            | some addrs =>
                some ({ state' with
                  memAddrs := Function.update state.memAddrs hook (some (addrs ++ [pointer]))
                  hookId := some hook }.setCall id
                    { call with
                      slots := call.slots.set index
                        (if path then .filling pointer else .ready pointer) })
      | _, _ => none

/-- `usePath` after its await. -/
def Hooks.fill (state : Hooks) (id index : Nat) : Option Hooks :=
  match state.call id with
  | none => none
  | some call =>
      match call.slots[index]? with
      | some (.filling pointer) =>
          some ((state.expect (state.pointerOwner pointer = some id) .lateUse).setCall id
            { call with slots := call.slots.set index (.ready pointer) })
      | _ => none

/-- `Module.deleteObject` in the `finally` block. -/
def Hooks.deleteObject (id : Nat) (state : Hooks) (objId : Nat) : Hooks :=
  { state.expect (state.objectOwner objId = some id) .foreignRelease with
    objectIds := state.objectIds.releaseId objId
    objectOwner := Function.update state.objectOwner objId none }

/-- The `finally` block up to its await. -/
def Hooks.cleanUp (state : Hooks) (id : Nat) (call : HookedCall) : Hooks :=
  match state.objIds call.hook, state.memAddrs call.hook with
  | some objs, some addrs =>
      (objs.foldl (Hooks.deleteObject id) state).setCall id { call with phase := .freeing addrs }
  | some objs, none =>
      ((objs.foldl (Hooks.deleteObject id) state).fault .deletedList).setCall id
        { call with phase := .settled }
  | none, _ => (state.fault .deletedList).setCall id { call with phase := .settled }

def Slot.isPending : Slot → Bool
  | .malloc _ _ => true
  | .filling _ => true
  | _ => false

def HookedCall.failed (call : HookedCall) : Bool := .rejected ∈ call.slots

/-- Some hook of the call has not returned. -/
def HookedCall.pending (call : HookedCall) : Bool := call.slots.any Slot.isPending

/-- The body after an await. `Promise.all` does not wait for the other hooks when one rejects. -/
def Hooks.resume (state : Hooks) (id : Nat) : Option Hooks :=
  match state.call id with
  | none => none
  | some call =>
      if call.phase ≠ .running ∨ call.operating = true then none
      else if call.failed then some (state.cleanUp id call)
      else if call.pending then none
      else if call.body = [] then some (state.cleanUp id call)
      else some (state.advance id call)

/-- The operation of the binding is executed, with the pointers and the object of the call. -/
def Hooks.operated (state : Hooks) (id : Nat) (ok : Bool) : Option Hooks :=
  match state.call id with
  | none => none
  | some call =>
      if call.operating then
        some ((state.expect (state.owns id call) .lateUse).setCall id
          { call with
            operating := false
            slots := if ok then call.slots else call.slots ++ [.rejected] })
      else none

/-- The next free of the `finally` block is executed. -/
def Hooks.freed (state : Hooks) (id : Nat) : Option Hooks :=
  match state.call id with
  | none => none
  | some call =>
      match call.phase with
      | .freeing (pointer :: rest) =>
          some ({ state.expect (state.pointerOwner pointer = some id) .foreignRelease with
            pointerOwner := Function.update state.pointerOwner pointer none }.setCall id
              { call with phase := .freeing rest })
      | _ => none

/-- The `finally` block after its await. -/
def Hooks.finish (state : Hooks) (id : Nat) : Option Hooks :=
  match state.call id with
  | none => none
  | some call =>
      match call.phase with
      | .freeing [] =>
          some ({ state with
            objIds := Function.update state.objIds call.hook none
            memAddrs := Function.update state.memAddrs call.hook none
            hookId := call.oldHook
            hookIds := state.hookIds.releaseId call.hook }.setCall id { call with phase := .settled })
      | _ => none

inductive HookLabel where
  | start (id : Nat) (function : HookedFunction) (early : Bool)
  | answer (id index : Nat) (pointer? : Option Nat)
  | fill (id index : Nat)
  | resume (id : Nat)
  | operated (id : Nat) (ok : Bool)
  | freed (id : Nat)
  | finish (id : Nat)

def Hooks.step (state : Hooks) : HookLabel → Option Hooks
  | .start id function early =>
      if (state.call id).isNone then some (state.start id function early) else none
  | .answer id index pointer? => state.answer id index pointer?
  | .fill id index => state.fill id index
  | .resume id => state.resume id
  | .operated id ok => state.operated id ok
  | .freed id => state.freed id
  | .finish id => state.finish id

end NodeExt2fs.Js
