import NodeExt2fs.Construction.Js.Names
import NodeExt2fs.Construction.Js.Transfers
import NodeExt2fs.Construction.Js.WholeFiles

/-!
This file follows the content of the file at one path through the functions on whole files.
-/

namespace NodeExt2fs.Js
open Glue

/-- The content of the file, if it exists, with the place of its handle and the flags that `openFiles`
has while it is open. -/
structure Store where
  file : Option (List UInt8)
  position : Nat
  openFlags : Option (BitVec 32)
  deriving DecidableEq

def Store.closed (file : Option (List UInt8)) : Store := ⟨file, 0, none⟩

/-- The part of `binding.open` that finds the file, or creates it for `O_CREAT`. -/
def bindingFind (store : Store) (flags : BitVec 32) : Int × Store :=
  match store.file with
  | none =>
      if hasFlag flags O_CREAT then (0, { store with file := some [] }) else (-ENOENT, store)
  | some _ => if hasFlag flags O_EXCL then (-EEXIST, store) else (0, store)

/-- The part of `binding.open` that opens the regular file, which `O_TRUNC` empties. -/
def Store.opened (store : Store) (flags : BitVec 32) (handle : Ptr) : Int × Store :=
  if hasFlag flags O_DIRECTORY then (-ENOTDIR, store)
  else
    (handle, { store with
      file := if hasFlag flags O_TRUNC then some [] else store.file
      position := 0 })

def bindingOpen (store : Store) (flags : BitVec 32) (handle : Ptr) : Int × Store :=
  let found := bindingFind store flags
  if found.1 ≠ 0 then found else found.2.opened flags handle

abbrev nullByteMessage : String := "Path must be a string without null bytes"

/-- `open` of the path. -/
def Store.openPath (handle : Ptr) (raw : List UInt8) (flag : Flag) (mode : Option (BitVec 32))
    (store : Store) : Except Failure Ptr × Store :=
  match stringToFlags flag with
  | .error failure => (.error failure, store)
  | .ok flags =>
      match usePath raw with
      | none => (.error (.error nullByteMessage), store)
      | some _ =>
          let answer := bindingOpen store flags handle
          match ccallThrowAsync "node_ext2fs_open" [flags.toNat, (mode.getD 0o666).toNat] answer.1 with
          | .error exception => (.error (.errno exception), answer.2)
          | .ok _ => (.ok handle, { answer.2 with openFlags := some flags })

/-- `write` through the handle. -/
def Store.write (allocation : Allocation) (fd : Ptr) (buffer : List UInt8) (offset length : Int)
    (position : Option Int) (store : Store) : Except Failure Int × Store :=
  match store.openFlags with
  | none => (.error (.errno (errnoException EBADF "node_ext2fs_write" [fd, offset, length])), store)
  | some flags =>
      let answer := Fs.write ⟨store.file.getD [], store.position, []⟩ ⟨fd, flags⟩ allocation
        (.buffer buffer) (.number (some offset)) (.number (some length))
        (position.elim .null fun position => .number (some position))
      (answer.1.mapError .errno,
        { store with file := some answer.2.content, position := answer.2.position })

def Store.close (fd : Ptr) (store : Store) : Except Failure Unit × Store :=
  match store.openFlags with
  | none => (.error (.errno (errnoException EBADF "close" [fd])), store)
  | some _ => (.ok (), { store with openFlags := none })

/-- The calls on the handle of the file. -/
def storeCalls (handle : Ptr) (allocation : Allocation) : FileCalls (StateM Store) where
  openPath raw flag mode := ExceptT.mk (Store.openPath handle raw flag mode)
  write fd buffer offset length position :=
    ExceptT.mk (Store.write allocation fd buffer offset length position)
  close fd := ExceptT.mk (Store.close fd)

/-- Calls of `appendFile` one after the other. -/
def appendFiles {M : Type → Type} [Monad M] (calls : FileCalls M) (rounds : Nat)
    (path : PathArgument) : List (List UInt8) → ExceptT Failure M Unit
  | [] => pure ()
  | data :: rest => do
      appendFile calls rounds path data .missing
      appendFiles calls rounds path rest

end NodeExt2fs.Js
