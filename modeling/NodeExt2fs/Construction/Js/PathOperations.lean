import NodeExt2fs.Construction.Js.Promises
import Mathlib.Data.Finset.Insert

/-!
This file lists the calls that open a file for themselves, and follows the handles that are live.
-/

namespace NodeExt2fs.Js
open Programs Structures Glue

/-- The open handles, and what their `struct ext2_file` holds. A block size is positive. -/
structure Handles where
  live : Finset Ptr
  record : Ptr → Ext2File
  blocksize : BitVec 32
  sized : 0 ≤ blocksize.toInt

/-- A handle is live from `ext2fs_file_open` to `ext2fs_file_close`, which frees it whatever it
returns. The other calls may change what a handle holds. -/
def handling : Contract Call Answer Handles where
  permits _ _ := True
  allows state call answer state' :=
    match call, answer with
    | .fileOpen _ _, answer =>
        if answer.1 = 0 then answer.2 ∉ state.live ∧ state'.live = insert answer.2 state.live
        else state'.live = state.live
    | .fileClose file, _ => state'.live = state.live.erase file
    | .loadFile file, answer => state' = state ∧ answer = state.record file
    | .loadBlocksize, answer => state' = state ∧ answer = state.blocksize
    | _, _ => state'.live = state.live

/-- The calls on paths, and `readFile` and `writeFile` on descriptors. -/
inductive PathOperation where
  | open (path : List UInt8) (flag : Flag) (mode : Option (BitVec 32))
  | stat (path : List UInt8)
  | lstat (path : List UInt8)
  | access (path : List UInt8) (mode : BitVec 32)
  | chmod (path : List UInt8) (mode : BitVec 32)
  | lchmod (path : List UInt8) (mode : BitVec 32)
  | chown (path : List UInt8) (uid gid : BitVec 32)
  | lchown (path : List UInt8) (uid gid : BitVec 32)
  | readdir (path : List UInt8) (options : OptionsArgument)
  | readFile (path : PathArgument) (options : OptionsArgument)
  | writeFile (path : PathArgument) (data : List UInt8) (options : OptionsArgument)

/-- What the calls get from their surroundings, and how many rounds a loop may take. -/
structure Surroundings where
  kMaxLength : Int
  buffer : Ptr
  allocation : Allocation
  arrayId : Nat
  rounds : Nat

def PathOperation.promise (around : Surroundings) : PathOperation → Promise Unit
  | .open path flag mode => do let _ ← openPath path flag mode
  | .stat path => do let _ ← Js.stat path
  | .lstat path => do let _ ← Js.lstat path
  | .access path mode => Js.access path mode
  | .chmod path mode => Js.chmod path mode
  | .lchmod path mode => Js.lchmod path mode
  | .chown path uid gid => Js.chown path uid gid
  | .lchown path uid gid => Js.lchown path uid gid
  | .readdir path options => Js.readdir path options around.arrayId
  | .readFile path options =>
      Js.readFile around.kMaxLength around.buffer around.rounds path options
  | .writeFile path data options =>
      Js.writeFile (promiseCalls around.allocation) around.rounds path data options

/-- The `open` at the beginning of a call that then runs `fstat`, and closes the file unless
`fstat` rejects. -/
def PathOperation.inspects : PathOperation → Option (Promise Ptr)
  | .stat path | .access path _ => some (openPath path (.text "r") (some 0))
  | .lstat path => some (openPath path (.number O_NOFOLLOW) none)
  | _ => none

/-- `readdir` uses no handle. -/
def PathOperation.lists : PathOperation → Bool
  | .readdir _ _ => true
  | _ => false

/-- The live handles afterwards are those from before. An `open` that resolves adds one, and a call
on a descriptor also leaves it open in `openFiles`. -/
def PathOperation.Keeps (operation : PathOperation) (before after : Handles)
    (locals locals' : OpenFiles) (result : Except Failure Unit) : Prop :=
  match operation with
  | .open _ _ _ => result ≠ .ok () → after.live = before.live
  | .readFile (.fd _) _ | .writeFile (.fd _) _ _ => after.live = before.live ∧ locals' = locals
  | _ => after.live = before.live

end NodeExt2fs.Js
