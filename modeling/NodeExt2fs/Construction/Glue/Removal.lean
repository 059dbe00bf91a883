import NodeExt2fs.Construction.Glue.Paths
import NodeExt2fs.Construction.Glue.Times

/-!
This file removes names, and frees the inodes that lose their last link.
-/

namespace NodeExt2fs.Glue

/-- The common exit of `remove_inode`, which writes the inode out. -/
def writeOut (ino : Ino) (inode : InodeLarge) (ret : Int) : Routine Int := do
  let err ← ext2fsWriteInodeFull ino inode
  if err ≠ 0 then
    return ← translateError err
  return ret

/-- `--inode.i_links_count`, with the deletion time of the last link. -/
def takeLink (inode : InodeLarge) : Routine InodeLarge := do
  let links := inode.iLinksCount - 1
  if inode.iLinksCount = 1 then
    return { inode with iLinksCount := links, iDtime := (← time).setWidth 32 }
  return { inode with iLinksCount := links }

def punchBlocks (ino : Ino) (inode : InodeLarge) : Routine (Errcode × InodeLarge) := do
  if ← ext2fsInodeHasValidBlocks inode.toInode then
    let (err, punched) ← ext2fsPunch ino inode.toInode
    return (err, { inode with toInode := punched })
  return (0, inode)

/-- The last part of `remove_inode`: "Nobody holds this file; free its blocks!". -/
def freeInode (ino : Ino) (inode : InodeLarge) : Routine Int := do
  let (err, inode) ← ext2fsFreeExtAttr ino inode
  if err ≠ 0 then
    -- The code jumps to `write_out` with `ret` still zero.
    return ← writeOut ino inode 0
  let (err, inode) ← punchBlocks ino inode
  if err ≠ 0 then
    let ret ← translateError err
    return ← writeOut ino inode ret
  ext2fsInodeAllocStats ino (-1) (linuxSIsdir inode.iMode)
  writeOut ino inode 0

def removeInode (ino : Ino) : Routine Int := do
  let (err, inode) ← ext2fsReadInodeFull ino
  if err ≠ 0 then
    return ← translateError err
  if inode.iLinksCount = 0 then
    return 0
  let inode ← takeLink inode
  let (ret, inode) ← updateCtime ino (some inode)
  if ret ≠ 0 then
    return ret
  if inode.iLinksCount ≠ 0 then
    return ← writeOut ino inode ret
  freeInode ino inode

/-- The two branches of `unlink_file_by_name` end alike. -/
def unlinkName (dir : Ino) (name : Name) : Routine Int := do
  let err ← ext2fsUnlink dir name
  if err ≠ 0 then
    return ← translateError err
  let (ret, _) ← updateMtime dir none
  return ret

def unlinkFileByName (path : Path) : Routine Int := do
  match strrchr path with
  | some (filename, baseName) =>
      let (err, dir) ← ext2fsNamei filename
      if err ≠ 0 then
        return ← translateError err
      unlinkName dir baseName
  | none => unlinkName EXT2_ROOT_INO path

def nodeExt2fsUnlink (path : Path) : Routine Int := do
  let (err, ino) ← ext2fsNamei path
  if err ≠ 0 then
    return ← translateError err
  if (← ext2fsCheckDirectory ino) = 0 then
    return -EISDIR
  let ret ← unlinkFileByName path
  if ret ≠ 0 then
    return ret
  removeInode ino

structure RdStruct where
  parent : Ino
  empty : Bool
  deriving DecidableEq

def rmdirProc (rds : RdStruct) (dirent : DirEntry) : RdStruct :=
  if dirent.inode = 0 then rds
  else if dirent.name = dot then rds
  else if dirent.name = dotdot then { rds with parent := dirent.inode }
  else { rds with empty := false }

/-- The last part of `node_ext2fs_rmdir` takes one link from the parent directory. -/
def dropParentLink (parent : Ino) : Routine Int := do
  let (err, inode) ← ext2fsReadInodeFull parent
  if err ≠ 0 then
    return ← translateError err
  let inode := if inode.iLinksCount > 1 then
      { inode with iLinksCount := inode.iLinksCount - 1 }
    else inode
  let (ret, inode) ← updateMtime parent (some inode)
  if ret ≠ 0 then
    return ret
  let err ← ext2fsWriteInodeFull parent inode
  if err ≠ 0 then
    return ← translateError err
  return 0

def nodeExt2fsRmdir (path : Path) : Routine Int := do
  let (err, child) ← ext2fsNamei path
  if err ≠ 0 then
    return ← translateError err
  let (err, visited) ← ext2fsDirIterate child .rmdirProc
  if err ≠ 0 then
    return ← translateError err
  let rds := visited.foldl rmdirProc { parent := 0, empty := true }
  if !rds.empty then
    return -ENOTEMPTY
  let ret ← unlinkFileByName path
  if ret ≠ 0 then
    return ret
  -- Directories have to be "removed" twice.
  let ret ← removeInode child
  if ret ≠ 0 then
    return ret
  let ret ← removeInode child
  if ret ≠ 0 then
    return ret
  if rds.parent ≠ 0 then
    return ← dropParentLink rds.parent
  return 0

end NodeExt2fs.Glue
