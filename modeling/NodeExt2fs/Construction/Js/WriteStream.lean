import NodeExt2fs.Construction.Glue.Files
import NodeExt2fs.Programs.Transition

/-!
This file writes the chunks of a stream through one descriptor.
-/

namespace NodeExt2fs.Js
open Glue

/-- A file that one descriptor writes to: its bytes, the place of the descriptor, and the ranges
written so far. -/
structure OpenFile where
  content : List UInt8
  position : Nat
  writes : List (Nat × List UInt8)
  deriving DecidableEq

/-- The file after `open(path, 'w')`. -/
def OpenFile.empty : OpenFile where
  content := []
  position := 0
  writes := []

/-- Bytes placed over a content. A gap before them reads as zero, and no bytes change nothing. -/
def splice (content : List UInt8) (offset : Nat) (bytes : List UInt8) : List UInt8 :=
  if bytes = [] then content
  else content.take offset ++ List.replicate (offset - content.length) 0 ++ bytes ++
    content.drop (offset + bytes.length)

/-- `ext2fs_file_llseek` with `EXT2_SEEK_SET`. -/
def OpenFile.seek (file : OpenFile) (position : Nat) : OpenFile := { file with position := position }

/-- `ext2fs_file_write` of bytes at the place of the descriptor. -/
def OpenFile.put (file : OpenFile) (bytes : List UInt8) : OpenFile where
  content := splice file.content file.position bytes
  position := file.position + bytes.length
  writes := if bytes = [] then file.writes else file.writes ++ [(file.position, bytes)]

/-- `binding.write` on a file that is not in append mode, with the bytes behind the pointer. -/
def bindingWrite (file : OpenFile) (memory : List UInt8) (length position : BitVec 32) :
    Int × OpenFile :=
  let file := if position ≠ noPosition then file.seek position.toNat else file
  (length.toInt, file.put (memory.take length.toNat))

/-- `writeBuffer` with the whole buffer, which rejects on a negative result. A number reaches the C
code modulo 2^32. -/
def writeBuffer (file : OpenFile) (buffer : List UInt8) (position : Int) :
    Option (Int × OpenFile) :=
  let (bytesWritten, file) :=
    bindingWrite file buffer (BitVec.ofNat 32 buffer.length) (BitVec.ofInt 32 position)
  if bytesWritten < 0 then none else some (bytesWritten, file)

/-- The loop of `writev`. The position moves by the running total. -/
def writevLoop (file : OpenFile) (bytesWritten position : Int) :
    List (List UInt8) → Option OpenFile
  | [] => some file
  | buffer :: rest => do
      let (written, file) ← writeBuffer file buffer position
      let bytesWritten := bytesWritten + written
      writevLoop file bytesWritten (if position > -1 then position + bytesWritten else position) rest

/-- A position that is no number counts as -1, the current position. -/
def numberOr (position : Option Int) : Int := position.getD (-1)

def writev (file : OpenFile) (buffers : List (List UInt8)) (position : Option Int) :
    Option OpenFile :=
  writevLoop file 0 (numberOr position) buffers

/-- The calls by which `stream.Writable` hands over its chunks. -/
inductive Batch where
  | write (data : List UInt8)
  | writev (data : List (List UInt8))
  deriving DecidableEq

def Batch.chunks : Batch → List (List UInt8)
  | .write data => [data]
  | .writev data => data

/-- The number that `_write` or `_writev` adds to `this.pos`. -/
def Batch.size (batch : Batch) : Nat := batch.chunks.flatten.length

def Batch.transfer (batch : Batch) (file : OpenFile) (pos : Option Int) : Option OpenFile :=
  match batch with
  | .write data => (writeBuffer file data (numberOr pos)).map Prod.snd
  | .writev data => Js.writev file data pos

/-- `this.pos` is undefined without a start. The last call has still to add what it owes. -/
structure WriteStream where
  pos : Option Int
  owed : Nat
  file : OpenFile
  deriving DecidableEq

def createWriteStream (start : Option Nat) : WriteStream where
  pos := start.map Int.ofNat
  owed := 0
  file := .empty

/-- `if (this.pos !== undefined) this.pos += data.length`, which follows `cb()`. -/
def WriteStream.settle (stream : WriteStream) : WriteStream :=
  { stream with pos := stream.pos.map (· + stream.owed), owed := 0 }

/-- The next call of the stream. It reads `this.pos` before the previous call adds to it when it is
issued from inside `cb()`. -/
def WriteStream.next (stream : WriteStream) (label : Bool × Batch) : Option WriteStream := do
  let (inside, batch) := label
  let pos := if inside then stream.pos else stream.settle.pos
  let file ← batch.transfer stream.file pos
  return { stream.settle with owed := batch.size, file := file }

end NodeExt2fs.Js
