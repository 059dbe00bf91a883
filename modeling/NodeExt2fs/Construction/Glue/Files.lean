import NodeExt2fs.Construction.Glue.Paths
import NodeExt2fs.Construction.Glue.Times

/-!
This file creates and opens files, and reads and writes through their handles.
-/

namespace NodeExt2fs.Glue

/-- The fields that `create_file` sets before the inode is written. -/
def newFileInode (mode : BitVec 32) (now : BitVec 64) : Inode :=
  { Inode.zero with
    iMode := withFormat mode LINUX_S_IFREG
    iAtime := now.setWidth 32
    iCtime := now.setWidth 32
    iMtime := now.setWidth 32
    iLinksCount := 1 }

/-- Each creating operation retries once after an expansion when the directory has no space. -/
def expanding (dir : Ino) (attempt : Routine Errcode) : Routine Errcode := do
  let err ← attempt
  if err = EXT2_ET_DIR_NO_SPACE then
    let err ← ext2fsExpandDir dir
    if err ≠ 0 then
      return err
    attempt
  else
    return err

/-- The data of the new file is inline, in extents or in mapped blocks. -/
def chooseLayout (ino : Ino) (inode : Inode) : Routine (Errcode × Inode) := do
  if ← ext2fsHasFeatureInlineData then
    return (0, { inode with iFlags := inode.iFlags ||| EXT4_INLINE_DATA_FL })
  if ← ext2fsHasFeatureExtents then
    let (ret, inode) ←
      ext2fsExtentOpen ino { inode with iFlags := inode.iFlags &&& ~~~EXT4_EXTENTS_FL }
    if ret ≠ 0 then
      return (ret, inode)
    ext2fsExtentFree
    return (0, inode)
  return (0, inode)

/-- The part of `create_file` that marks the linked inode used and writes it. -/
def fillFile (ino : Ino) (mode : BitVec 32) : Routine Errcode := do
  -- A set bit only prints a warning.
  let _ ← ext2fsTestInodeBitmap ino
  ext2fsInodeAllocStats ino 1 false
  let (ret, inode) ← ext2fsInodeSizeSet (newFileInode mode (← time)) 0
  if ret ≠ 0 then
    return ret
  let (ret, inode) ← chooseLayout ino inode
  if ret ≠ 0 then
    return ret
  let ret ← ext2fsWriteNewInode ino inode
  if ret ≠ 0 then
    return ret
  if inode.iFlags &&& EXT4_INLINE_DATA_FL ≠ 0#32 then
    ext2fsInlineDataInit ino
  else
    return 0

/-- The result has a code that is not negative, and the inode number. -/
def createFile (path : Path) (mode : BitVec 32) : Routine (Errcode × Ino) := do
  let parentIno ← getParentDirIno path
  if parentIno = 0 then
    return (ENOTDIR, 0)
  let (ret, ino) ← ext2fsNewInode parentIno mode
  if ret ≠ 0 then
    return (ret, ino)
  match getFilename path with
  | none => return (EISDIR, ino)
  | some filename =>
      let ret ← expanding parentIno (ext2fsLink parentIno filename ino EXT2_FT_REG_FILE)
      if ret ≠ 0 then
        return (ret, ino)
      return (← fillFile ino mode, ino)

/-- The stamps of the selected times in the 128-byte inode. -/
def stampTimes (inode : Inode) (now : BitVec 32) (a c m : Bool) : Inode :=
  { inode with
    iAtime := if a then now else inode.iAtime
    iCtime := if c then now else inode.iCtime
    iMtime := if m then now else inode.iMtime }

def updateXtime (file : Ptr) (a c m : Bool) : Routine Errcode := do
  let handle ← loadFile file
  let (err, inode) ← ext2fsReadInode handle.ino
  if err ≠ 0 then
    return err
  let now ← getNow
  let inode := incrementVersion (stampTimes inode (now.tvSec.setWidth 32) a c m)
  storeFileInode file inode
  ext2fsWriteInode handle.ino inode

def translateOpenFlags (jsFlags : BitVec 32) : BitVec 32 :=
  (if hasFlag jsFlags (O_WRONLY ||| O_RDWR) then EXT2_FILE_WRITE else 0#32) |||
    (if hasFlag jsFlags O_CREAT then EXT2_FILE_CREATE else 0#32)

/-- The part of `node_ext2fs_open` that finds or creates the inode; the code is negative. -/
def findOrCreate (path : Path) (flags mode : BitVec 32) : Routine (Int × Ino) := do
  let ino ← stringToInode path (!hasFlag flags O_NOFOLLOW)
  if ino = 0 then
    if !hasFlag flags O_CREAT then
      return (-ENOENT, 0)
    let (ret, ino) ← createFile path mode
    if ret ≠ 0 then
      return (-ret, 0)
    return (0, ino)
  else if hasFlag flags O_EXCL then
    return (-EEXIST, 0)
  return (0, ino)

def nodeExt2fsOpen (path : Path) (flags mode : BitVec 32) : Routine Int := do
  let (failed, ino) ← findOrCreate path flags mode
  if failed ≠ 0 then
    return failed
  if hasFlag flags O_DIRECTORY then
    if (← ext2fsCheckDirectory ino) ≠ 0 then
      return -ENOTDIR
  let (ret, file) ← ext2fsFileOpen ino (translateOpenFlags flags)
  if ret ≠ 0 then
    return -ret
  if hasFlag flags O_TRUNC then
    let ret ← ext2fsFileSetSize file 0
    if ret ≠ 0 then
      return -ret
  return file

/-- The position argument that means the current position. -/
abbrev noPosition : BitVec 32 := BitVec.allOnes 32

abbrev EXT2_SEEK_SET : Nat := 0
abbrev EXT2_SEEK_END : Nat := 2

def seekForRead (file : Ptr) (position : BitVec 32) : Routine Errcode := do
  if position ≠ noPosition then
    ext2fsFileLlseek file (position.setWidth 64) EXT2_SEEK_SET
  else
    return 0

def stampRead (file : Ptr) (flags : BitVec 32) : Routine Errcode := do
  if !hasFlag flags O_NOATIME then
    updateXtime file true false false
  else
    return 0

def nodeExt2fsRead (file : Ptr) (flags : BitVec 32) (buffer : Ptr) (length position : BitVec 32) :
    Routine Int := do
  if hasFlag flags O_WRONLY then
    return -EBADF
  let ret ← seekForRead file position
  if ret ≠ 0 then
    return -ret
  let (ret, got) ← ext2fsFileRead file buffer length
  if ret ≠ 0 then
    return -ret
  let ret ← stampRead file flags
  if ret ≠ 0 then
    return -ret
  return got.toInt

/-- An appending handle moves to the end, whatever the position. -/
def seekForWrite (file : Ptr) (flags position : BitVec 32) : Routine Errcode := do
  if hasFlag flags O_APPEND then
    ext2fsFileLlseek file 0 EXT2_SEEK_END
  else if position ≠ noPosition then
    ext2fsFileLlseek file (position.setWidth 64) EXT2_SEEK_SET
  else
    return 0

def stampWritten (file : Ptr) (flags : BitVec 32) : Routine Errcode := do
  if hasFlag flags O_CREAT then
    updateXtime file false true true
  else
    return 0

/-- The last part of `node_ext2fs_write` returns the count whatever the flush says. -/
def flushWritten (file : Ptr) (written : BitVec 32) : Routine Int := do
  let ret ← ext2fsFileFlush file
  if ret ≠ 0 then
    -- The translated code is assigned to `ret`, which is not used again.
    let _ ← translateError ret
  return written.toInt

def nodeExt2fsWrite (file : Ptr) (flags : BitVec 32) (buffer : Ptr) (length position : BitVec 32) :
    Routine Int := do
  if !hasFlag flags (O_WRONLY ||| O_RDWR) then
    return -EBADF
  let ret ← seekForWrite file flags position
  if ret ≠ 0 then
    return -ret
  let (ret, written) ← ext2fsFileWrite file buffer length
  if ret ≠ 0 then
    return -ret
  let ret ← stampWritten file flags
  if ret ≠ 0 then
    return -ret
  flushWritten file written

def nodeExt2fsChmod (file : Ptr) (mode : BitVec 32) : Routine Int := do
  let handle ← loadFile file
  let (ret, inode) ← ext2fsReadInode handle.ino
  if ret ≠ 0 then
    return -ret
  let format := inode.iMode &&& LINUX_S_IFMT
  let inode := incrementVersion
    { inode with iMode := format ||| (mode.setWidth 16 &&& ~~~LINUX_S_IFMT) }
  storeFileInode file inode
  let ret ← ext2fsWriteInode handle.ino inode
  return -ret

def nodeExt2fsChown (file : Ptr) (uid gid : BitVec 32) : Routine Int := do
  let handle ← loadFile file
  let (ret, inode) ← ext2fsReadInode handle.ino
  if ret ≠ 0 then
    return -ret
  let inode := incrementVersion { inode with iUid := uid.setWidth 16, iGid := gid.setWidth 16 }
  storeFileInode file inode
  let ret ← ext2fsWriteInode handle.ino inode
  return -ret

def nodeExt2fsClose (file : Ptr) : Routine Int := do
  let ret ← ext2fsFileClose file
  return -ret

end NodeExt2fs.Glue
