import NodeExt2fs.Construction.Js.Options
import NodeExt2fs.Construction.Js.Transfers

/-!
This file transfers lists of buffers through one descriptor.
-/

namespace NodeExt2fs.Js
open Glue Structures

/-- `value > bound`, which is false for what is no number. -/
def JsValue.isAbove (value : JsValue) (bound : Int) : Bool :=
  match value.toNumber with
  | some amount => decide (bound < amount)
  | none => false

/-- The memory that `malloc` finds for each call, and how much of it there is up to its end. -/
structure Heap where
  allocation : Nat → Allocation
  rest : Nat → Nat

namespace Fs

/-- The loop of `writev`. The position moves by the running total. -/
def writevLoop (file : OpenFile) (descriptor : Descriptor) (heap : Heap) (bytesWritten : Int)
    (position : JsValue) : List (List UInt8) → Except ErrnoException Int × OpenFile
  | [] => (.ok bytesWritten, file)
  | buffer :: rest =>
      let answer := writeBuffer file descriptor (heap.allocation rest.length) buffer (.ofNat 0)
        (.ofNat buffer.length) position
      match answer.1 with
      | .error exception => (.error exception, answer.2)
      | .ok written =>
          let bytesWritten := bytesWritten + written
          let position :=
            if position.isAbove (-1) then position.add (.number (some bytesWritten)) else position
          writevLoop answer.2 descriptor heap bytesWritten position rest

def writev (file : OpenFile) (descriptor : Descriptor) (heap : Heap) (buffers : List (List UInt8))
    (position : JsValue) : Except ErrnoException Int × OpenFile :=
  writevLoop file descriptor heap 0 (positionOr position) buffers

/-- The buffer of `useBuffer`, which goes on to the end of the memory without a length. -/
def readBufferOf (heap : Heap) (call : Nat) : JsValue → List UInt8
  | .undefined => (heap.allocation call).buffer (heap.rest call)
  | length => (heap.allocation call).buffer length.toIndex

/-- `_readBuffer.copy(buffer, offset)`, which refuses a negative offset. -/
def copyInto (source buffer : List UInt8) (offset : JsValue) : Except Failure (List UInt8) :=
  if (offset.toNumber.getD 0) < 0 then
    .error (.error "The value of \"targetStart\" is out of range. It must be >= 0.")
  else .ok (copy source buffer offset.toIndex 0 source.length)

/-- `read` with any offset and length. -/
def readAny (file : OpenFile) (descriptor : Descriptor) (heap : Heap) (call : Nat)
    (buffer : List UInt8) (offset length position : JsValue) :
    Except Failure (Int × List UInt8) × OpenFile :=
  let position := positionOr position
  if length = .ofNat 0 then (.ok (0, buffer), file)
  else
    let answer := bindingRead file descriptor (readBufferOf heap call length) length.toWord
      position.toWord
    let bytesRead := ccallThrowAsync "node_ext2fs_read"
      [descriptor.fd, descriptor.flags.toNat, (heap.allocation call).pointer,
        length.toNumber.getD 0, position.toNumber.getD 0] answer.1
    match bytesRead with
    | .error exception => (.error (.errno exception), answer.2.2)
    | .ok count =>
        ((copyInto answer.2.1 buffer offset).map fun buffer => (count, buffer), answer.2.2)

/-- The loop of `readv`. The position is passed on for the offset. -/
def readvLoop (file : OpenFile) (descriptor : Descriptor) (heap : Heap) (bytesRead : Int)
    (position : JsValue) :
    List (List UInt8) → Except Failure (Int × List (List UInt8)) × OpenFile
  | [] => (.ok (bytesRead, []), file)
  | buffer :: rest =>
      let answer := readAny file descriptor heap rest.length buffer position .undefined .undefined
      match answer.1 with
      | .error failure => (.error failure, answer.2)
      | .ok (numRead, buffer) =>
          let later := readvLoop answer.2 descriptor heap (bytesRead + numRead) position rest
          (later.1.map fun result => (result.1, buffer :: result.2), later.2)

/-- The number of bytes, and what the buffers hold afterwards. -/
def readv (file : OpenFile) (descriptor : Descriptor) (heap : Heap) (buffers : List (List UInt8))
    (position : JsValue) : Except Failure (Int × List (List UInt8)) × OpenFile :=
  readvLoop file descriptor heap 0 (positionOr position) buffers

end Fs

end NodeExt2fs.Js
