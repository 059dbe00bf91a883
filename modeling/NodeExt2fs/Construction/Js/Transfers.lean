import NodeExt2fs.Construction.Js.Binding
import NodeExt2fs.Construction.Js.WriteStream
import NodeExt2fs.Structures.Slices

/-!
This file reads and writes through one descriptor, from the arguments in JavaScript to the handle.
-/

namespace NodeExt2fs.Js
open Glue Structures

/-- The JavaScript values that these functions tell apart. A number without a value is `NaN`, and an
object has the properties that `write` looks for. -/
inductive JsValue where
  | undefined
  | null
  | number (value : Option Int)
  | object (offset length position : JsValue)
  deriving DecidableEq

namespace JsValue

def ofNat (value : Nat) : JsValue := .number (some value)

/-- `typeof value === 'number'`, which `NaN` passes. -/
def isNumber : JsValue → Bool
  | .number _ => true
  | _ => false

/-- `typeof value === 'object'`, which `null` passes. -/
def isObject : JsValue → Bool
  | .null | .object _ _ _ => true
  | _ => false

/-- The number that arithmetic makes of a value, unless it is `NaN`. -/
def toNumber : JsValue → Option Int
  | .null => some 0
  | .number value => value
  | .undefined | .object _ _ _ => none

def add (first second : JsValue) : JsValue :=
  .number do return (← first.toNumber) + (← second.toNumber)

def sub (first second : JsValue) : JsValue :=
  .number do return (← first.toNumber) - (← second.toNumber)

/-- The default of a destructured property. -/
def orElse (value default : JsValue) : JsValue := if value = .undefined then default else value

/-- A 32-bit parameter of a C function. -/
def toWord (value : JsValue) : BitVec 32 := BitVec.ofInt 32 (value.toNumber.getD 0)

/-- A length or an index of a `Buffer`. -/
def toIndex (value : JsValue) : Nat := (value.toNumber.getD 0).toNat

end JsValue

/-- `source.copy(target, targetStart, sourceStart, sourceEnd)`. -/
def copy (source target : List UInt8) (targetStart sourceStart sourceEnd : Nat) : List UInt8 :=
  overwrite target targetStart
    ((slice source sourceStart (sourceEnd - sourceStart)).take (target.length - targetStart))

/-- What `malloc` returns: a pointer, and the bytes that are behind it by chance. -/
structure Allocation where
  pointer : Int
  byte : Nat → UInt8

/-- The buffer of `useBuffer`. -/
def Allocation.buffer (allocation : Allocation) (length : Nat) : List UInt8 :=
  (List.range length).map allocation.byte

/-- A descriptor with the flags that `openFiles` has for it. -/
structure Descriptor where
  fd : Int
  flags : BitVec 32
  deriving DecidableEq

def Descriptor.readable (descriptor : Descriptor) : Bool := !hasFlag descriptor.flags O_WRONLY

def Descriptor.writable (descriptor : Descriptor) : Bool :=
  hasFlag descriptor.flags (O_WRONLY ||| O_RDWR)

def Descriptor.appends (descriptor : Descriptor) : Bool := hasFlag descriptor.flags O_APPEND

/-- `ext2fs_file_read` at the place of the descriptor. -/
def OpenFile.get (file : OpenFile) (wanted : Nat) : List UInt8 × OpenFile :=
  let bytes := slice file.content file.position wanted
  (bytes, { file with position := file.position + bytes.length })

/-- `ext2fs_file_llseek` with `EXT2_SEEK_END` and no offset. -/
def OpenFile.seekEnd (file : OpenFile) : OpenFile := file.seek file.content.length

/-- `binding.read`, with the bytes behind the pointer before and after. -/
def bindingRead (file : OpenFile) (descriptor : Descriptor) (memory : List UInt8)
    (length position : BitVec 32) : Int × List UInt8 × OpenFile :=
  if descriptor.readable then
    let file := if position ≠ noPosition then file.seek position.toNat else file
    let got := file.get length.toNat
    ((BitVec.ofNat 32 got.1.length).toInt, overwrite memory 0 got.1, got.2)
  else
    (-EBADF, memory, file)

/-- `binding.write` in any mode, with the bytes behind the pointer. -/
def bindingWriteAs (file : OpenFile) (descriptor : Descriptor) (memory : List UInt8)
    (length position : BitVec 32) : Int × OpenFile :=
  if descriptor.writable then
    if descriptor.appends then (length.toInt, file.seekEnd.put (memory.take length.toNat))
    else bindingWrite file memory length position
  else
    (-EBADF, file)

namespace Fs

/-- A position that is no number means the current position. -/
def positionOr (position : JsValue) : JsValue :=
  if position.isNumber then position else .number (some (-1))

/-- `read` of an open descriptor resolves with the number of bytes and the buffer. -/
def read (file : OpenFile) (descriptor : Descriptor) (allocation : Allocation)
    (buffer : List UInt8) (offset length : Nat) (position : JsValue) :
    Except ErrnoException (Int × List UInt8) × OpenFile :=
  let position := positionOr position
  if length = 0 then (.ok (0, buffer), file)
  else
    let length' := (JsValue.ofNat length).toWord
    let answer := bindingRead file descriptor (allocation.buffer length) length' position.toWord
    let bytesRead := ccallThrowAsync "node_ext2fs_read"
      [descriptor.fd, descriptor.flags.toNat, allocation.pointer, length, position.toNumber.getD 0]
      answer.1
    -- The whole read buffer is copied, also what the read left as it was.
    (bytesRead.map fun count => (count, copy answer.2.1 buffer offset 0 length), answer.2.2)

/-- The arguments that `binding.write` gets, with the bytes behind the pointer. -/
structure WriteCall where
  memory : List UInt8
  length : JsValue
  position : JsValue

/-- The bytes that `ext2fs_file_write` is asked to write. -/
def WriteCall.bytes (call : WriteCall) : List UInt8 := call.memory.take call.length.toWord.toNat

/-- `writeBuffer` up to its call of the binding. -/
def writeBufferCall (allocation : Allocation) (buffer : List UInt8)
    (offset length position : JsValue) : WriteCall :=
  let position := positionOr position
  let memory := allocation.buffer length.toIndex
  let offset := if offset.isNumber then offset else .ofNat 0
  let length := if length.isNumber then length else (JsValue.ofNat buffer.length).sub offset
  { memory := copy buffer memory 0 offset.toIndex (offset.add length).toIndex
    length := length
    position := position }

/-- The call of the binding resolves with the number of bytes. -/
def WriteCall.perform (call : WriteCall) (file : OpenFile) (descriptor : Descriptor)
    (allocation : Allocation) : Except ErrnoException Int × OpenFile :=
  let answer := bindingWriteAs file descriptor call.memory call.length.toWord call.position.toWord
  (ccallThrowAsync "node_ext2fs_write"
    [descriptor.fd, descriptor.flags.toNat, allocation.pointer, call.length.toNumber.getD 0,
      call.position.toNumber.getD 0] answer.1, answer.2)

def writeBuffer (file : OpenFile) (descriptor : Descriptor) (allocation : Allocation)
    (buffer : List UInt8) (offset length position : JsValue) :
    Except ErrnoException Int × OpenFile :=
  (writeBufferCall allocation buffer offset length position).perform file descriptor allocation

/-- The first argument of `write` after the descriptor: a `Buffer`, or a string by its UTF-8 bytes. -/
inductive StringOrBuffer where
  | buffer (bytes : List UInt8)
  | string (bytes : List UInt8)

/-- `write` up to its call of the binding. The variable `offset` of the source is never assigned
before it is tested, so the branch for an object is not taken. -/
def writeCall (allocation : Allocation) (stringOrBuffer : StringOrBuffer)
    (offsetOrOptions length position : JsValue) : WriteCall :=
  match stringOrBuffer with
  | .string bytes => writeBufferCall allocation bytes (.ofNat 0) (.ofNat bytes.length) offsetOrOptions
  | .buffer buffer =>
      let byteLength := JsValue.ofNat buffer.length
      let offset := JsValue.undefined
      let chosen : JsValue × JsValue × JsValue :=
        if offset.isObject then
          match offsetOrOptions with
          | .object offset' length' position' =>
              let offset := offset'.orElse (.ofNat 0)
              (offset, length'.orElse (byteLength.sub offset), position'.orElse .null)
          | _ => (.ofNat 0, byteLength, .null)
        else (offset, length, position)
      let offset := if offsetOrOptions.isNumber then chosen.1 else .ofNat 0
      let length := if chosen.2.1.isNumber then chosen.2.1 else byteLength.sub offset
      writeBufferCall allocation buffer offset length chosen.2.2

def write (file : OpenFile) (descriptor : Descriptor) (allocation : Allocation)
    (stringOrBuffer : StringOrBuffer) (offsetOrOptions length position : JsValue) :
    Except ErrnoException Int × OpenFile :=
  (writeCall allocation stringOrBuffer offsetOrOptions length position).perform file descriptor
    allocation

end Fs

end NodeExt2fs.Js
