import NodeExt2fs.Construction.Glue.Branches
import NodeExt2fs.Construction.Glue.Inspection
import NodeExt2fs.Construction.Js.Names
import NodeExt2fs.Structures.Slices
import NodeExt2fs.Structures.Utf16

/-!
This file writes paths as C strings into the memory of the module.
-/

namespace NodeExt2fs.Js
open Structures Glue

/-- A path as a caller may give it. -/
inductive PathValue where
  | string (units : List UInt16)
  | buffer (bytes : List UInt8)
  deriving DecidableEq

namespace PathValue

/-- `checkPath` finds a null character in `'' + path`. -/
def hasNull : PathValue → Bool
  | .string units => 0 ∈ units
  | .buffer bytes => '\x00' ∈ decodeUtf8 bytes

/-- `Buffer.from(path)`. -/
def bytes : PathValue → List UInt8
  | .string units => encodeUtf8 (decodeUtf16 units)
  | .buffer bytes => bytes

end PathValue

/-- The value of `end` after the loop of `rstripSlashesBuffer`, which begins with the given one. -/
def stripEnd (buf : List UInt8) : Nat → Int
  -- `buf[-1]` is undefined.
  | 0 => -1
  | last + 1 => if buf[last]? = some slash then stripEnd buf last else last

def rstripSlashesBuffer (buf : List UInt8) : List UInt8 :=
  buf.take (stripEnd buf buf.length + 1).toNat

/-- `usePath`, up to the bytes of the buffer that `useBuffer` gives it. -/
def PathValue.usePath (useBuffer : (length : Nat) → Vector UInt8 length) (path : PathValue) :
    Option (List UInt8) :=
  if path.hasNull then none
  else
    let path := rstripSlashesBuffer path.bytes
    let buffer := overwrite (useBuffer (path.length + 1)).toList 0 path
    some (buffer.set path.length 0)

end NodeExt2fs.Js
