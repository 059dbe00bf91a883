import NodeExt2fs.Construction.Js.Descriptors

/-!
This file follows the open files of libext2fs beside the calls on their descriptors.
-/

namespace NodeExt2fs.Js
open Structures

/-- What an operation does to the open files. -/
inductive HandleChange where
  | opens
  | closes (fd : Nat)
  deriving DecidableEq

def BindingOp.change? : BindingOp → Option HandleChange
  | .open => some .opens
  | .close fd => some (.closes fd)
  | .malloc | .read _ _ | .write _ _ | .stat _ _ | .chmod _ | .chown _ | .umount => none

/-- The change that a call awaits. -/
def Frame.change? : Frame → Option HandleChange
  | .openFile _ => some .opens
  | .closeFile fd => some (.closes fd)
  | .closeAllFile fd _ => some (.closes fd)
  | .openPath _ | .readBuffer _ | .writeBuffer _ | .statCtime _ | .closeAllNext _ | .closedAll
  | .last | .done _ => none

/-- The calls, and the files that `binding.open` has returned and no `binding.close` has freed. -/
structure LiveHandles where
  calls : Descriptors
  live : List Nat

def LiveHandles.empty : LiveHandles := ⟨.empty, []⟩

/-- The open files after an operation. A file is freed even when its close fails. -/
def BindingOp.liveAfter (op : BindingOp) (ok : Bool) (value : Nat) (live : List Nat) : List Nat :=
  match op.change? with
  | some .opens => if ok then value :: live else live
  | some (.closes fd) => live.filter fun fd' => fd' ≠ fd
  | none => live

def LiveHandles.step (state : LiveHandles) (label : DescriptorLabel) : Option LiveHandles :=
  (state.calls.step label).map fun calls =>
    { calls := calls
      live :=
        match label, state.calls.queue with
        | .execute ok value, entry :: _ => entry.op.liveAfter ok value state.live
        | _, _ => state.live }

end NodeExt2fs.Js
