import NodeExt2fs.Construction.Library.Linkless

/-!
This file gives a small library in memory. No disk fails under it.
-/

namespace NodeExt2fs.Library
open Programs Glue

/-- An entry without an inode is corrupt. -/
def lookupAnswer : Except Errcode Ino → Errcode × Ino
  | .ok ino => if ino = 0 then Prod.mk EIO 0 else (0, ino)
  | .error code => (code, 0)

namespace Volume

/-- The first free inode that is not reserved. -/
def freeIno (volume : Volume) : Option Ino :=
  (List.range (volume.inodesCount + 1)).find? fun ino =>
    decide (11 ≤ ino) && !volume.inUse ino

/-- The first free file handle. -/
def freeFile (volume : Volume) : Option Ptr :=
  (List.range 64).find? fun file => decide (0 < file) && (volume.files file).isNone

/-- The record that stands for an inode. -/
def record (mode links : BitVec 16) : Inode :=
  { Inode.zero with iMode := mode, iLinksCount := links }

def inode (volume : Volume) (ino : Ino) : Inode := record (volume.mode ino) (volume.links ino)

def inodeLarge (volume : Volume) (ino : Ino) : InodeLarge :=
  { volume.inode ino with iExtraIsize := 0, iCtimeExtra := 0, iMtimeExtra := 0, iAtimeExtra := 0 }

/-- A directory that can take the name, and does not have it. -/
def admits (volume : Volume) (dir : Ino) (name : Name) : Errcode :=
  if !volume.isDir dir then EXT2_ET_NO_DIRECTORY
  else if (volume.find dir name).isSome then EXT2_ET_DIR_EXISTS
  else if !volume.fits dir name then EXT2_ET_DIR_NO_SPACE
  else 0

def openFile (volume : Volume) (ino : Ino) : (Errcode × Ptr) × Volume :=
  match volume.freeFile with
  | none => ((EXT2_ET_NO_MEMORY, 0), volume)
  | some file =>
      ((0, file), volume.setFile file (some
        { ino := ino
          mode := volume.mode ino
          links := volume.links ino
          wasInUse := volume.inUse ino
          intact := true }))

/-- A directory that is truncated has no entries. -/
def truncateFile (volume : Volume) (file : Ptr) : Volume :=
  match volume.files file with
  | none => volume
  | some handle => if volume.isDir handle.ino then volume.setEntries handle.ino [] else volume

def fileRecord (volume : Volume) (file : Ptr) : Ext2File :=
  match volume.files file with
  | none => { ino := 0, inode := Inode.zero }
  | some handle => { ino := handle.ino, inode := record handle.mode handle.links }

def storeFile (volume : Volume) (file : Ptr) (inode : Inode) : Volume :=
  volume.setFile file ((volume.files file).map fun handle =>
    { handle with mode := inode.iMode, links := inode.iLinksCount })

/-- A filesystem with some regular files in its root. -/
def holding (names : List Name) : Volume where
  inodesCount := 32
  inUse ino := decide (ino = EXT2_ROOT_INO) || decide (11 ≤ ino) && decide (ino < 11 + names.length)
  mode ino := if ino = EXT2_ROOT_INO then LINUX_S_IFDIR ||| 0o755#16 else LINUX_S_IFREG ||| 0o644#16
  links ino :=
    if ino = EXT2_ROOT_INO then 2
    else if 11 ≤ ino ∧ ino < 11 + names.length then 1
    else 0
  target _ := []
  entries ino :=
    if ino = EXT2_ROOT_INO then
      dotEntries EXT2_ROOT_INO EXT2_ROOT_INO ++ names.zipIdx.map fun (name, index) =>
        { inode := 11 + index, name := name, fileType := EXT2_FT_REG_FILE }
    else []
  fits _ _ := true
  grows _ := true
  files _ := none

end Volume

def reference : Handler Call Answer Volume
  | .namei path, volume => (lookupAnswer (linkless.walk volume path), volume)
  | .nameiFollow path, volume => (lookupAnswer (linkless.walkFollow volume path), volume)
  | .newInode _ _, volume =>
      match volume.freeIno with
      | some ino => ((0, ino), volume)
      | none => ((EXT2_ET_INODE_ALLOC_FAIL, 0), volume)
  | .link dir name ino fileType, volume =>
      if !volume.isDir dir then (EXT2_ET_NO_DIRECTORY, volume)
      else if !volume.fits dir name then (EXT2_ET_DIR_NO_SPACE, volume)
      else (0, volume.setEntries dir
        (volume.entries dir ++ [{ inode := ino, name := name, fileType := fileType }]))
  | .unlink dir name, volume =>
      if volume.isDir dir && (volume.find dir name).isSome then
        (0, volume.setEntries dir
          ((volume.entries dir).eraseP fun entry => entry.name = name))
      else (EXT2_ET_DIR_NO_SPACE, volume)
  | .mkdir parent ino name, volume =>
      if volume.admits parent name = 0 then
        (0, volume.makeDir parent ino name (LINUX_S_IFDIR ||| 0o755#16) (volume.entries parent) [])
      else (volume.admits parent name, volume)
  | .symlink parent name target, volume =>
      match volume.freeIno with
      | none => (EXT2_ET_INODE_ALLOC_FAIL, volume)
      | some ino =>
          if volume.admits parent name = 0 then
            (0, volume.makeSymlink parent ino name target (LINUX_S_IFLNK ||| 0o777#16)
              (volume.entries parent) [])
          else (volume.admits parent name, volume)
  | .expandDir dir, volume =>
      if volume.grows dir then
        (0, { volume with fits := Function.update volume.fits dir fun _ => true })
      else (EXT2_ET_BLOCK_ALLOC_FAIL, volume)
  | .checkDirectory ino, volume =>
      (if volume.isDir ino then 0 else EXT2_ET_NO_DIRECTORY, volume)
  | .dirIterate ino proc, volume =>
      if volume.isDir ino then
        ((0, (proc.iterate (volume.entries ino)).1),
          volume.setEntries ino (proc.iterate (volume.entries ino)).2)
      else ((EXT2_ET_NO_DIRECTORY, []), volume)
  | .testInodeBitmap ino, volume => (volume.inUse ino, volume)
  | .inodeAllocStats ino inuse _, volume => ((), volume.allocStats ino inuse)
  | .inodeSizeSet inode size, volume =>
      ((0, { inode with iSize := BitVec.ofNat 32 size }), volume)
  | .hasFeatureInlineData, volume => (false, volume)
  | .hasFeatureExtents, volume => (false, volume)
  | .extentOpen _ inode, volume => ((0, inode), volume)
  | .extentFree, volume => ((), volume)
  | .writeNewInode ino inode, volume => (0, volume.written ino inode.iMode inode.iLinksCount)
  | .inlineDataInit _, volume => (0, volume)
  | .readInode ino, volume => ((0, volume.inode ino), volume)
  | .writeInode ino inode, volume => (0, volume.written ino inode.iMode inode.iLinksCount)
  | .readInodeFull ino, volume => ((0, volume.inodeLarge ino), volume)
  | .writeInodeFull ino inode, volume => (0, volume.written ino inode.iMode inode.iLinksCount)
  | .freeExtAttr _ inode, volume => ((0, inode), volume)
  | .inodeHasValidBlocks _, volume => (true, volume)
  | .punch ino inode, volume => ((0, inode), (volume.breakHandles ino).setEntries ino [])
  | .fileOpen ino _, volume => volume.openFile ino
  | .fileSetSize file _, volume => (0, (volume.breakOthers file).truncateFile file)
  | .fileLlseek _ _ _, volume => (0, volume)
  | .fileRead _ _ _, volume => ((0, 0), volume)
  | .fileWrite _ _ nbytes, volume => ((0, nbytes), volume)
  | .fileFlush _, volume => (0, volume)
  | .fileClose file, volume => (0, volume.setFile file none)
  | .loadFile file, volume => (volume.fileRecord file, volume)
  | .storeFileInode file inode, volume => ((), volume.storeFile file inode)
  | .markSuperDirty, volume => ((), volume)
  | .flush, volume => (0, volume)
  | .flush2, volume => (0, volume)
  | .close, volume => (0, volume)
  | .strdup, volume => (true, volume)
  | .clockGettime, volume => ((0, { tvSec := 0, tvNsec := 0 }), volume)
  | .time, volume => (0, volume)
  | .loadBlockRange, volume =>
      ({ sFirstDataBlock := 1, sBlocksCount := 1, hasBlockMap := true }, volume)
  | .readBlockBitmap, volume => (0, volume)
  | .testBlockBitmap _, volume => (true, volume)
  | .ioChannelDiscard _ _, volume => (0, volume)
  | .isFastSymlink _, volume => (true, volume)
  | .getMem _, volume => (0, volume)
  | .freeMem, volume => ((), volume)
  | .inlineDataGet _ _, volume => ((0, []), volume)
  | .bmap _ _ _, volume => ((0, 0), volume)
  | .loadBlocksize, volume => (1024, volume)
  | .ioChannelReadBlk _, volume => ((0, []), volume)
  | .arrayPushBuffer _ _, volume => ((), volume)

end NodeExt2fs.Library
