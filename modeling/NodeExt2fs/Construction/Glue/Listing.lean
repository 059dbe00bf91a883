import NodeExt2fs.Construction.Glue.Inspection

/-!
This file lists a directory whose names lie in memory, each before other bytes.
-/

namespace NodeExt2fs.Glue

/-- `strncmp(first, second, count)` on the memory at the two pointers. -/
def strncmp : Nat → List UInt8 → List UInt8 → Int
  | count + 1, first :: rest, second :: rest' =>
      if first ≠ second then first.toNat - second.toNat
      else if first = 0 then 0
      else strncmp count rest rest'
  | _, _, _ => 0

/-- A string literal in memory. -/
def literal (name : Name) : List UInt8 := name ++ [0]

/-- `copy_filename_to_result` on the memory at `dirent->name`, of which the entry has `len` bytes. -/
def copyFilenameFrom (arrayId len : Nat) (memory : List UInt8) : Routine Unit :=
  if strncmp len memory (literal dot) ≠ 0 ∧ strncmp len memory (literal dotdot) ≠ 0 then
    arrayPushBuffer arrayId (memory.take len)
  else return

/-- The callbacks of one iteration. No name has a NUL behind it. -/
def copyFilenamesFrom (arrayId : Nat) (behind : DirEntry → List UInt8) : List DirEntry → Routine Unit
  | [] => return
  | dirent :: rest => do
      copyFilenameFrom arrayId dirent.name.length (dirent.name ++ behind dirent)
      copyFilenamesFrom arrayId behind rest

/-- `node_ext2fs_readdir`, with the memory behind each name. -/
def nodeExt2fsReaddirFrom (path : Path) (arrayId : Nat) (behind : DirEntry → List UInt8) :
    Routine Int := do
  let ino ← stringToInode path true
  if ino = 0 then
    return -ENOENT
  let (ret, _) ← ext2fsFileOpen ino 0
  if ret ≠ 0 then
    return -ret
  let ret ← ext2fsCheckDirectory ino
  if ret ≠ 0 then
    return -ret
  let (ret, dirents) ← ext2fsDirIterate ino .copyFilenameToResult
  copyFilenamesFrom arrayId behind dirents
  return -ret

end NodeExt2fs.Glue
