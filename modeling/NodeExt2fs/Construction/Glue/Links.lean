import NodeExt2fs.Construction.Glue.Files

/-!
This file adds names: directories, hard links and symbolic links.
-/

namespace NodeExt2fs.Glue

def nodeExt2fsMkdir (path : Path) (mode : BitVec 32) : Routine Int := do
  let parentIno ← getParentDirIno path
  if parentIno = 0 then
    return -ENOTDIR
  match getFilename path with
  | none => return -EISDIR
  | some filename =>
      let (ret, newdir) ← ext2fsNewInode parentIno (LINUX_S_IFDIR.setWidth 32)
      if ret ≠ 0 then
        return -ret
      let ret ← ext2fsMkdir parentIno newdir filename
      if ret ≠ 0 then
        return -ret
      let (ret, inode) ← ext2fsReadInode newdir
      if ret ≠ 0 then
        return -ret
      let ret ← ext2fsWriteInode newdir { inode with iMode := withFormat mode LINUX_S_IFDIR }
      return -ret

/-- The part of `node_ext2fs_link` after the lookup of the parent directory. -/
def linkInto (src : Path) (parent : Ino) (nodeName : Name) : Routine Int := do
  let (err, ino) ← ext2fsNamei src
  if err ≠ 0 ∨ ino = 0 then
    return ← translateError err
  let (err, inode) ← ext2fsReadInodeFull ino
  if err ≠ 0 then
    return ← translateError err
  let inode := { inode with iLinksCount := inode.iLinksCount + 1 }
  let (ret, inode) ← updateCtime ino (some inode)
  if ret ≠ 0 then
    return ret
  let err ← ext2fsWriteInodeFull ino inode
  if err ≠ 0 then
    return ← translateError err
  let err ← expanding parent (ext2fsLink parent nodeName ino (ext2FileType inode.iMode))
  if err ≠ 0 then
    return ← translateError err
  let (ret, _) ← updateMtime parent none
  return ret

def nodeExt2fsLink (src dest : Path) : Routine Int := do
  if !(← strdup) then
    return -ENOMEM
  match strrchr dest with
  | none => return -ENOMEM
  | some (before, nodeName) =>
      let (err, parent) ← ext2fsNamei (before ++ [slash])
      if err ≠ 0 then
        -- The code sets `err` to `-ENOENT` here, and returns `ret`.
        return 0
      linkInto src parent nodeName

/-- The last part of `node_ext2fs_symlink` reads the new inode and writes it back. -/
def rewriteChild (dest : Path) : Routine Int := do
  let (err, child) ← ext2fsNamei dest
  if err ≠ 0 then
    return ← translateError err
  let (err, inode) ← ext2fsReadInodeFull child
  if err ≠ 0 then
    return ← translateError err
  let err ← ext2fsWriteInodeFull child inode
  if err ≠ 0 then
    return ← translateError err
  return 0

def nodeExt2fsSymlink (src dest : Path) : Routine Int := do
  if !(← strdup) then
    return -ENOMEM
  match strrchr dest with
  | none => return -ENOMEM
  | some (before, nodeName) =>
      let (err, parent) ← ext2fsNamei (before ++ [slash])
      if err ≠ 0 then
        return ← translateError err
      let err ← expanding parent (ext2fsSymlink parent nodeName src)
      if err ≠ 0 then
        return ← translateError err
      let (ret, _) ← updateMtime parent none
      if ret ≠ 0 then
        return ret
      rewriteChild dest

end NodeExt2fs.Glue
