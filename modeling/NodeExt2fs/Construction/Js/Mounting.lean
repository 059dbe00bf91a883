import NodeExt2fs.Construction.Glue.Mounting
import NodeExt2fs.Construction.Js.Objects

/-!
This file mounts and unmounts filesystems and lends arrays to the C code, as far as the numbers of the
shared objects go.
-/

namespace NodeExt2fs.Js
open Structures Glue

/-- A user of a number: an array that `useObject` lends to a call, or a filesystem. The channel of a
filesystem has its `private_data`. It is `opening` while `node_ext2fs_mount` runs, `mounted` until
`node_ext2fs_umount` has returned zero, and `leaving` from then on, or after a mount that failed, until
the object is deleted. A channel that a failed mount leaves open is not used again, as its filesystem
is not returned.

A user ends when its number is released. For an array this is any `deleteObject` of its number, also one
in the `finally` of another call whose hooks were mixed up with it, even if the C function that was given
the number still runs: what such a function finds is not stated here. -/
inductive ObjectUser (Object : Type) where
  | lent (id : Nat) (array : Object)
  | opening (id : Nat) (wrapper : Object) (channel : Option (BitVec 32))
  | mounted (id : Nat) (wrapper : Object) (channel : BitVec 32)
  | leaving (id : Nat) (wrapper : Object)

namespace ObjectUser

variable {Object : Type}

def id : ObjectUser Object → Nat
  | lent id _ | opening id _ _ | mounted id _ _ | leaving id _ => id

def object : ObjectUser Object → Object
  | lent _ obj | opening _ obj _ | mounted _ obj _ | leaving _ obj => obj

/-- The number that the C code asks for objects with, if it may ask. An array's number is an argument
of the call. -/
def asks : ObjectUser Object → Option Int
  | lent id _ => some (BitVec.ofNat 32 id).toInt
  | opening _ _ channel => channel.map getDiskId
  | mounted _ _ channel => some (getDiskId channel)
  | leaving _ _ => none

end ObjectUser

/-- The shared objects, and their users under names of their own. -/
structure ObjectUsers (Object : Type) where
  shared : SharedObjects Object
  users : Nat → Option (ObjectUser Object)

/-- What happens between two awaits. -/
inductive UserEvent (Object : Type) where
  | useObject (user : Nat) (array : Object)
  | deleteLent (user : Nat)
  | mount (user : Nat) (wrapper : Object)
  | openChannel (user : Nat)
  | closeChannel (user : Nat)
  | mountReturns (user : Nat) (fine : Bool)
  | umountReturns (user : Nat) (fine : Bool)
  | deleteDisk (user : Nat)

namespace ObjectUsers

variable {Object : Type}

def start : ObjectUsers Object where
  shared := .empty
  users _ := none

/-- `Module.setObject` for a new user. -/
def enter (state : ObjectUsers Object) (user : Nat) (obj : Object) (holding : Nat → ObjectUser Object) :
    Option (ObjectUsers Object) :=
  match state.users user with
  | some _ => none
  | none =>
      let (id, shared) := state.shared.setObject obj
      some { shared := shared, users := Function.update state.users user (some (holding id)) }

/-- `Module.deleteObject` for a user that is done. -/
def dismiss (state : ObjectUsers Object) (user id : Nat) : ObjectUsers Object where
  shared := state.shared.deleteObject id
  users := Function.update state.users user none

def become (state : ObjectUsers Object) (user : Nat) (next : ObjectUser Object) : ObjectUsers Object :=
  { state with users := Function.update state.users user (some next) }

/-- An event that does not fit the stage of its user does not happen: a filesystem is unmounted by one
call at a time, and not used after it. -/
def step (state : ObjectUsers Object) : UserEvent Object → Option (ObjectUsers Object)
  | .useObject user array => state.enter user array fun id => .lent id array
  | .deleteLent user =>
      match state.users user with
      | some (.lent id _) => some (state.dismiss user id)
      | _ => none
  | .mount user wrapper => state.enter user wrapper fun id => .opening id wrapper none
  | .openChannel user =>
      match state.users user with
      | some (.opening id wrapper none) =>
          (diskName (BitVec.ofNat 32 id)).map fun name =>
            state.become user (.opening id wrapper (some (jsOpenEntry name)))
      | _ => none
  | .closeChannel user =>
      match state.users user with
      | some (.opening id wrapper (some _)) => some (state.become user (.opening id wrapper none))
      | _ => none
  | .mountReturns user fine =>
      match state.users user, fine with
      | some (.opening id wrapper (some channel)), true =>
          some (state.become user (.mounted id wrapper channel))
      | some (.opening id wrapper _), false => some (state.become user (.leaving id wrapper))
      | _, _ => none
  | .umountReturns user fine =>
      match state.users user, fine with
      | some (.mounted id wrapper _), true => some (state.become user (.leaving id wrapper))
      -- The promise rejects, and the filesystem stays mounted.
      | some (.mounted _ _ _), false => some state
      | _, _ => none
  | .deleteDisk user =>
      match state.users user with
      | some (.leaving id _) => some (state.dismiss user id)
      | _ => none

/-- The object that the C code finds under a number. -/
def find (state : ObjectUsers Object) (number : Int) : Option Object :=
  if number < 0 then none else state.shared.getObject number.toNat

end ObjectUsers

end NodeExt2fs.Js
