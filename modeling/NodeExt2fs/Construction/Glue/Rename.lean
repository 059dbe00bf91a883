import NodeExt2fs.Construction.Glue.Files
import NodeExt2fs.Construction.Glue.Removal

/-!
This file moves a name, in the order of `node_ext2fs_rename`.
-/

namespace NodeExt2fs.Glue

/-- "Find parent dir of the source" and "of the destination". An error is the value of `ret`. -/
def renameParent (path : Path) : Routine (Except Int (Ino × Name)) := do
  match strrchr path with
  | none => return .error (-EINVAL)
  | some (before, after) =>
      let (err, dirIno) ← ext2fsNamei (before ++ [slash])
      if err ≠ 0 then
        return .error (← translateError err)
      if dirIno = 0 then
        return .error (-ENOENT)
      return .ok (dirIno, after)

/-- "If the target exists, unlink it first". -/
def renameTarget (toIno : Ino) (toPath : Path) : Routine Int := do
  if toIno ≠ 0 then
    let (err, inode) ← ext2fsReadInode toIno
    if err ≠ 0 then
      return ← translateError err
    if linuxSIsdir inode.iMode then
      nodeExt2fsRmdir toPath
    else
      nodeExt2fsUnlink toPath
  else
    return 0

/-- The link count of a directory changes by one of the two amounts of a move. -/
def renameCount (dirIno : Ino) (change : BitVec 16) : Routine Int := do
  let (err, inode) ← ext2fsReadInode dirIno
  if err ≠ 0 then
    return ← translateError err
  let err ← ext2fsWriteInode dirIno { inode with iLinksCount := inode.iLinksCount + change }
  if err ≠ 0 then
    return ← translateError err
  return 0

/-- "Update '..' pointer if dir". -/
def renameDotdot (fromIno fromDirIno toDirIno : Ino) : Routine Int := do
  let (err, inode) ← ext2fsReadInode fromIno
  if err ≠ 0 then
    return ← translateError err
  if linuxSIsdir inode.iMode then
    let (err, _) ← ext2fsDirIterate fromIno (.updateDotdotHelper toDirIno)
    if err ≠ 0 then
      return ← translateError err
    -- Decrease from_dir_ino's links_count, then increase to_dir_ino's.
    let ret ← renameCount fromDirIno (-1)
    if ret ≠ 0 then
      return ret
    renameCount toDirIno 1
  else
    return 0

/-- "Update timestamps", "Remove the old file" and "Flush the whole mess out". -/
def renameFinish (fromIno toDirIno : Ino) (fromPath : Path) : Routine Int := do
  let (ret, _) ← updateCtime fromIno none
  if ret ≠ 0 then
    return ret
  let (ret, _) ← updateMtime toDirIno none
  if ret ≠ 0 then
    return ret
  let ret ← unlinkFileByName fromPath
  if ret ≠ 0 then
    return ret
  let err ← ext2fsFlush2
  if err ≠ 0 then
    return ← translateError err
  return 0

/-- "Get ready to do the move", "Link in the new file", and the steps after it. -/
def renameMove (fromIno fromDirIno toDirIno : Ino) (toName : Name) (fromPath : Path) :
    Routine Int := do
  let (err, inode) ← ext2fsReadInode fromIno
  if err ≠ 0 then
    return ← translateError err
  let err ← expanding toDirIno (ext2fsLink toDirIno toName fromIno (ext2FileType inode.iMode))
  if err ≠ 0 then
    return ← translateError err
  let ret ← renameDotdot fromIno fromDirIno toDirIno
  if ret ≠ 0 then
    return ret
  renameFinish fromIno toDirIno fromPath

/-- The part of the move that starts from the inodes of both paths. -/
def renameBetween (fromPath toPath : Path) (fromIno toIno : Ino) : Routine Int := do
  match ← renameParent fromPath with
  | .error ret => return ret
  | .ok (fromDirIno, _) =>
      match ← renameParent toPath with
      | .error ret => return ret
      | .ok (toDirIno, toName) =>
          let ret ← renameTarget toIno toPath
          if ret ≠ 0 then
            return ret
          renameMove fromIno fromDirIno toDirIno toName fromPath

def nodeExt2fsRename (fromPath toPath : Path) : Routine Int := do
  let (err, fromIno) ← ext2fsNamei fromPath
  if err ≠ 0 ∨ fromIno = 0 then
    return ← translateError err
  let (err, toIno) ← ext2fsNamei toPath
  if err ≠ 0 ∧ err ≠ EXT2_ET_FILE_NOT_FOUND then
    return ← translateError err
  let toIno := if err = EXT2_ET_FILE_NOT_FOUND then 0 else toIno
  if toIno ≠ 0 ∧ toIno = fromIno then
    return 0
  if !(← strdup) then
    return -ENOMEM
  if !(← strdup) then
    return -ENOMEM
  renameBetween fromPath toPath fromIno toIno

end NodeExt2fs.Glue
