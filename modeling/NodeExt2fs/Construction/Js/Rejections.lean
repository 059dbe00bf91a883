import NodeExt2fs.Construction.Glue.Inspection
import NodeExt2fs.Construction.Js.Binding

/-!
This file lists the operations whose rejections callers tell apart by their codes.
-/

namespace NodeExt2fs.Js
open Glue

/-- The functions of `lib/binding.js` that look up, create, remove and transfer. -/
inductive BindingCall where
  | change (operation : Operation)
  | open (path : Path) (flags mode : BitVec 32)
  | mkdir (path : Path) (mode : BitVec 32)
  | readdir (path : Path) (arrayId : Nat)
  | readlink (path : Path) (arrayId : Nat) (behind : List UInt8)
  | read (file : Ptr) (flags : BitVec 32) (buffer : Ptr) (length position : BitVec 32)

def BindingCall.name : BindingCall → String
  | .change operation => operation.name
  | .open _ _ _ => "node_ext2fs_open"
  | .mkdir _ _ => "node_ext2fs_mkdir"
  | .readdir _ _ => "node_ext2fs_readdir"
  | .readlink _ _ _ => "node_ext2fs_readlink"
  | .read _ _ _ _ _ => "node_ext2fs_read"

def BindingCall.routine : BindingCall → Routine Int
  | .change operation => operation.routine
  | .open path flags mode => nodeExt2fsOpen path flags mode
  | .mkdir path mode => nodeExt2fsMkdir path mode
  | .readdir path arrayId => nodeExt2fsReaddir path arrayId
  | .readlink path arrayId behind => nodeExt2fsReadlink path arrayId behind
  | .read file flags buffer length position => nodeExt2fsRead file flags buffer length position

/-- The buffer of a transfer lies in the memory of the module. -/
def BindingCall.Sized : BindingCall → Prop
  | .change (.write _ _ _ length _) | .read _ _ _ length _ => length.toNat < 2 ^ 31
  | _ => True

/-- The C function translates the codes of libext2fs. The others return them negated as they are. -/
def BindingCall.translates : BindingCall → Bool
  | .change (.write _ _ _ _ _) => false
  | .change _ => true
  | _ => false

end NodeExt2fs.Js
