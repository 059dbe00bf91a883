import NodeExt2fs.Structures.Decimals

/-!
This file passes the number of a disk to its `io_channel`, through the name that libext2fs opens.
-/

namespace NodeExt2fs.Glue
open Structures

/-- The size of `hex_ptr`, with pointers of four bytes. -/
def hexPtrSize : Nat := 4 * 2 + 3

/-- `sprintf(hex_ptr, "%d", disk_id)` with the NUL behind the text. A text that is too long is written
behind the buffer. -/
def diskName (diskId : BitVec 32) : Option (List UInt8) :=
  let text := Decimals.write diskId.toInt
  if text.length + 1 ≤ hexPtrSize then some text else none

/-- The `private_data` that `js_open_entry` leaves in the new channel: `sscanf(disk_id_str, "%d", ..)`
after a `memset` with zeros. -/
def jsOpenEntry (diskIdStr : List UInt8) : BitVec 32 :=
  match Decimals.read diskIdStr with
  | some number => BitVec.ofInt 32 number
  | none => 0

/-- `get_disk_id`. -/
def getDiskId (privateData : BitVec 32) : Int := privateData.toInt

end NodeExt2fs.Glue
