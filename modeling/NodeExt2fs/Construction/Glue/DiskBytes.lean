import NodeExt2fs.Construction.Glue.Disk
import NodeExt2fs.Structures.Storage

/-!
This file carries the bytes of block requests between the memory of the module and the JavaScript disk.
-/

namespace NodeExt2fs.Glue
open Programs Structures

/-- The methods of the wrapped disk, with the bytes that it is given. -/
inductive DiskCall where
  | read (length fileOffset : Int)
  | write (buffer : List UInt8) (fileOffset : Int)
  | discard (offset length : Int)
  | flush
  deriving DecidableEq

/-- A disk promise resolves or rejects. A read leaves bytes in its buffer in any case. -/
abbrev DiskReply : DiskCall → Type
  | .read _ _ => Bool × List UInt8
  | .write _ _ | .discard _ _ | .flush => Bool

abbrev DiskTask (A : Type) := Program DiskCall DiskReply A

/-- The memory of the module. -/
structure Heap where
  size : Nat
  byte : Storage UInt8

def Heap.bytes (heap : Heap) (pointer length : Int) : List UInt8 :=
  heap.byte.range pointer.toNat length.toNat

def Heap.store (heap : Heap) (pointer : Int) (bytes : List UInt8) : Heap :=
  { heap with byte := heap.byte.put pointer.toNat bytes }

/-- `memset` with zeros, which traps outside the memory. -/
def Heap.clear (heap : Heap) (pointer size : BitVec 32) : Option Heap :=
  if pointer.toNat + size.toNat ≤ heap.size then
    some (heap.store pointer.toNat (List.replicate size.toNat 0))
  else none

namespace DiskBytes

/-- The bytes that a disk reads stay inside the view. -/
def blkRead (heap : Heap) (disk : DiskWrapper) (blockSize : BitVec 16) (block count data : BitVec 32) :
    DiskTask (Option (Errcode × Heap)) := do
  let offset := jsNumber block * jsShort blockSize
  let size := transferSize (jsNumber count) (jsShort blockSize)
  match getBuffer heap.size (jsNumber data) size with
  | none => return none
  | some length =>
      let reply ← Program.perform (DiskCall.read length (offset + disk.offset))
      return some (diskStatus reply.1, heap.store (jsNumber data) (reply.2.take length.toNat))

def blkWrite (heap : Heap) (disk : DiskWrapper) (blockSize : BitVec 16) (block count data : BitVec 32) :
    DiskTask (Option Errcode) := do
  let offset := jsNumber block * jsShort blockSize
  let size := transferSize (jsNumber count) (jsShort blockSize)
  match getBuffer heap.size (jsNumber data) size with
  | none => return none
  | some length =>
      let resolved ← Program.perform (.write (heap.bytes (jsNumber data) length) (offset + disk.offset))
      return some (diskStatus resolved)

def discard (disk : DiskWrapper) (blockSize : BitVec 16) (block count : BitVec 32) :
    DiskTask (Option Errcode) := do
  let offset := jsNumber block * jsShort blockSize
  let size := transferSize (jsNumber count) (jsShort blockSize)
  let resolved ← Program.perform (.discard (offset + disk.offset) size)
  return some (diskStatus resolved)

def flush : DiskTask (Option Errcode) := do
  let resolved ← Program.perform .flush
  return some (diskStatus resolved)

def jsReadBlk64Entry (heap : Heap) (disk : DiskWrapper) (channel : IoChannel) (block : BitVec 64)
    (count data : BitVec 32) : DiskTask (Option (Errcode × Heap)) :=
  blkRead heap disk (channel.blockSize.setWidth 16) (block.setWidth 32) count data

def jsWriteBlk64Entry (heap : Heap) (disk : DiskWrapper) (channel : IoChannel) (block : BitVec 64)
    (count data : BitVec 32) : DiskTask (Option Errcode) :=
  blkWrite heap disk (channel.blockSize.setWidth 16) (block.setWidth 32) count data

def jsDiscardEntry (disk : DiskWrapper) (channel : IoChannel) (block count : BitVec 64) :
    DiskTask (Option Errcode) :=
  discard disk (channel.blockSize.setWidth 16) (block.setWidth 32) (count.setWidth 32)

def jsFlushEntry : DiskTask (Option Errcode) := flush

/-- The result of `malloc` is given with the memory as it is then. The count has no sign, so that the
size is always a number of blocks, and `malloc` and `memset` get its low 32 bits. -/
def jsZerooutEntry (heap : Heap) (allocated : BitVec 32) (disk : DiskWrapper) (channel : IoChannel)
    (block count : BitVec 64) : DiskTask (Option (Errcode × Heap)) := do
  let size := count * channel.blockSize.signExtend 64
  match heap.clear allocated (size.setWidth 32) with
  | none => return none
  | some heap =>
      match ← blkWrite heap disk (channel.blockSize.setWidth 16) (block.setWidth 32)
          (count.setWidth 32) allocated with
      | none => return none
      | some ret =>
          if ret ≠ 0 then
            return some (ret, heap)
          let status ← discard disk (channel.blockSize.setWidth 16) (block.setWidth 32)
            (count.setWidth 32)
          return status.map fun ret => (ret, heap)

/-- A method without the bytes that it is given. -/
def forget : DiskCall → Option DiskRequest
  | .read length fileOffset => some (.read length fileOffset)
  | .write buffer fileOffset => some (.write buffer.length fileOffset)
  | .discard offset length => some (.discard offset length)
  | .flush => none

/-- The call that resolved or rejected, without its bytes. -/
def forgetEvent : Event DiskCall DiskReply → Option (Event DiskRequest DiskAnswer)
  | ⟨.read length fileOffset, answer⟩ => some ⟨.read length fileOffset, answer.1⟩
  | ⟨.write buffer fileOffset, resolved⟩ => some ⟨.write buffer.length fileOffset, resolved⟩
  | ⟨.discard offset length, resolved⟩ => some ⟨.discard offset length, resolved⟩
  | ⟨.flush, _⟩ => none

end DiskBytes

/-- What is relied on of a disk object. A write that fails may have changed its range, and nothing is
said about the bytes of a discarded one. -/
def diskObject : Contract DiskCall DiskReply (Storage UInt8) where
  permits _ _ := True
  allows storage call reply storage' :=
    match call, reply with
    | .read length fileOffset, reply => storage' = storage ∧ reply.2.length = length.toNat ∧
        (reply.1 = true → reply.2 = storage.range fileOffset.toNat length.toNat)
    | .write buffer fileOffset, resolved =>
        storage.SameOutside fileOffset.toNat buffer.length storage' ∧
          (resolved = true → storage' = storage.put fileOffset.toNat buffer)
    | .discard offset length, _ => storage.SameOutside offset.toNat length.toNat storage'
    | .flush, _ => storage' = storage

/-- A disk in memory. It clears what is discarded. -/
def memoryDisk : Handler DiskCall DiskReply (Storage UInt8)
  | .read length fileOffset, storage => ((true, storage.range fileOffset.toNat length.toNat), storage)
  | .write buffer fileOffset, storage => (true, storage.put fileOffset.toNat buffer)
  | .discard offset length, storage =>
      (true, storage.put offset.toNat (List.replicate length.toNat 0))
  | .flush, storage => (true, storage)

end NodeExt2fs.Glue
