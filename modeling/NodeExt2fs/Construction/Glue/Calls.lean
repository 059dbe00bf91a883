import NodeExt2fs.Construction.Glue.Records
import NodeExt2fs.Programs.Program

/-!
This file lists what the C code calls: libext2fs, the C library, and the memory of its file handles.
-/

namespace NodeExt2fs.Glue
open Programs

/-- One call. The filesystem argument is left out: a program runs on one mounted filesystem. -/
inductive Call where
  | namei (path : Path)
  | nameiFollow (path : Path)
  | newInode (dir : Ino) (mode : BitVec 32)
  | link (dir : Ino) (name : Name) (ino : Ino) (fileType : Nat)
  | unlink (dir : Ino) (name : Name)
  | mkdir (parent ino : Ino) (name : Name)
  | symlink (parent : Ino) (name target : Name)
  | expandDir (dir : Ino)
  | checkDirectory (ino : Ino)
  | dirIterate (dir : Ino) (proc : DirProc)
  | testInodeBitmap (ino : Ino)
  | inodeAllocStats (ino : Ino) (inuse : Int) (isdir : Bool)
  | inodeSizeSet (inode : Inode) (size : Nat)
  | hasFeatureInlineData
  | hasFeatureExtents
  | extentOpen (ino : Ino) (inode : Inode)
  | extentFree
  | writeNewInode (ino : Ino) (inode : Inode)
  | inlineDataInit (ino : Ino)
  | readInode (ino : Ino)
  | writeInode (ino : Ino) (inode : Inode)
  | readInodeFull (ino : Ino)
  | writeInodeFull (ino : Ino) (inode : InodeLarge)
  | freeExtAttr (ino : Ino) (inode : InodeLarge)
  | inodeHasValidBlocks (inode : Inode)
  | punch (ino : Ino) (inode : Inode)
  | fileOpen (ino : Ino) (flags : BitVec 32)
  | fileSetSize (file : Ptr) (size : Nat)
  | fileLlseek (file : Ptr) (offset : BitVec 64) (whence : Nat)
  | fileRead (file : Ptr) (buffer : Ptr) (wanted : BitVec 32)
  | fileWrite (file : Ptr) (buffer : Ptr) (nbytes : BitVec 32)
  | fileFlush (file : Ptr)
  | fileClose (file : Ptr)
  | loadFile (file : Ptr)
  | storeFileInode (file : Ptr) (inode : Inode)
  | markSuperDirty
  | flush
  | flush2
  | close
  | strdup
  | clockGettime
  | time
  | loadBlockRange
  | readBlockBitmap
  | testBlockBitmap (blk : BitVec 32)
  | ioChannelDiscard (block count : BitVec 64)
  | isFastSymlink (inode : Inode)
  | getMem (size : BitVec 32)
  | freeMem
  | inlineDataGet (ino : Ino) (inode : Inode)
  | bmap (ino : Ino) (inode : Inode) (block : Nat)
  | loadBlocksize
  | ioChannelReadBlk (block : BitVec 64)
  | arrayPushBuffer (arrayId : Nat) (value : Name)
  deriving DecidableEq

/-- What a call returns, with the values that it stores through its pointer arguments. -/
abbrev Answer : Call → Type
  | .namei _ | .nameiFollow _ | .newInode _ _ => Errcode × Ino
  | .link _ _ _ _ | .unlink _ _ | .mkdir _ _ _ | .symlink _ _ _ | .expandDir _ | .checkDirectory _ =>
      Errcode
  | .dirIterate _ _ => Errcode × List DirEntry
  | .testInodeBitmap _ | .hasFeatureInlineData | .hasFeatureExtents | .inodeHasValidBlocks _ => Bool
  | .inodeAllocStats _ _ _ | .extentFree | .storeFileInode _ _ | .markSuperDirty | .freeMem
  | .arrayPushBuffer _ _ => Unit
  | .inodeSizeSet _ _ | .extentOpen _ _ | .readInode _ | .punch _ _ => Errcode × Inode
  | .readInodeFull _ | .freeExtAttr _ _ => Errcode × InodeLarge
  | .writeNewInode _ _ | .inlineDataInit _ | .writeInode _ _ | .writeInodeFull _ _ => Errcode
  | .fileOpen _ _ => Errcode × Ptr
  | .fileSetSize _ _ | .fileLlseek _ _ _ | .fileFlush _ | .fileClose _ => Errcode
  | .fileRead _ _ _ | .fileWrite _ _ _ => Errcode × BitVec 32
  | .loadFile _ => Ext2File
  | .flush | .flush2 | .close | .readBlockBitmap | .ioChannelDiscard _ _ | .getMem _ => Errcode
  | .strdup | .testBlockBitmap _ | .isFastSymlink _ => Bool
  | .clockGettime => Int × Timespec
  | .time => BitVec 64
  | .loadBlockRange => BlockRange
  | .inlineDataGet _ _ | .ioChannelReadBlk _ => Errcode × List UInt8
  | .bmap _ _ _ => Errcode × BitVec 64
  | .loadBlocksize => BitVec 32

/-- The status that a call returns; the calls that return none count as successful. -/
def Call.code : (call : Call) → Answer call → Errcode
  | .namei _, answer | .nameiFollow _, answer | .newInode _ _, answer => answer.1
  | .link _ _ _ _, code | .unlink _ _, code | .mkdir _ _ _, code | .symlink _ _ _, code
  | .expandDir _, code | .checkDirectory _, code => code
  | .dirIterate _ _, answer => answer.1
  | .inodeSizeSet _ _, answer | .extentOpen _ _, answer | .readInode _, answer
  | .punch _ _, answer => answer.1
  | .readInodeFull _, answer | .freeExtAttr _ _, answer => answer.1
  | .writeNewInode _ _, code | .inlineDataInit _, code | .writeInode _ _, code
  | .writeInodeFull _ _, code => code
  | .fileOpen _ _, answer => answer.1
  | .fileSetSize _ _, code | .fileLlseek _ _ _, code | .fileFlush _, code | .fileClose _, code => code
  | .fileRead _ _ _, answer | .fileWrite _ _ _, answer => answer.1
  | .flush, code | .flush2, code | .close, code | .readBlockBitmap, code
  | .ioChannelDiscard _ _, code | .getMem _, code => code
  | .inlineDataGet _ _, answer | .ioChannelReadBlk _, answer => answer.1
  | .bmap _ _ _, answer => answer.1
  | _, _ => 0

/-- A C function is a program over these calls. -/
abbrev Routine (A : Type) := Program Call Answer A

/-- One call with its answer, as a run records it. -/
abbrev CallEvent := Event Call Answer

def Call.perform (call : Call) : Routine (Answer call) := Program.perform call

def CallEvent.code (event : CallEvent) : Errcode := event.1.code event.2

def ext2fsNamei (path : Path) : Routine (Errcode × Ino) := (Call.namei path).perform
def ext2fsNameiFollow (path : Path) : Routine (Errcode × Ino) := (Call.nameiFollow path).perform
def ext2fsNewInode (dir : Ino) (mode : BitVec 32) : Routine (Errcode × Ino) :=
  (Call.newInode dir mode).perform
def ext2fsLink (dir : Ino) (name : Name) (ino : Ino) (fileType : Nat) : Routine Errcode :=
  (Call.link dir name ino fileType).perform
/-- `ext2fs_unlink(fs, dir, name, 0, 0)`. -/
def ext2fsUnlink (dir : Ino) (name : Name) : Routine Errcode := (Call.unlink dir name).perform
def ext2fsMkdir (parent ino : Ino) (name : Name) : Routine Errcode := (Call.mkdir parent ino name).perform
/-- `ext2fs_symlink(fs, parent, 0, name, target)`. -/
def ext2fsSymlink (parent : Ino) (name target : Name) : Routine Errcode :=
  (Call.symlink parent name target).perform
def ext2fsExpandDir (dir : Ino) : Routine Errcode := (Call.expandDir dir).perform
def ext2fsCheckDirectory (ino : Ino) : Routine Errcode := (Call.checkDirectory ino).perform
/-- `ext2fs_dir_iterate`, with the entries that it hands to the callback. -/
def ext2fsDirIterate (dir : Ino) (proc : DirProc) : Routine (Errcode × List DirEntry) :=
  (Call.dirIterate dir proc).perform
def ext2fsTestInodeBitmap (ino : Ino) : Routine Bool := (Call.testInodeBitmap ino).perform
def ext2fsInodeAllocStats (ino : Ino) (inuse : Int) (isdir : Bool) : Routine Unit :=
  (Call.inodeAllocStats ino inuse isdir).perform
def ext2fsInodeSizeSet (inode : Inode) (size : Nat) : Routine (Errcode × Inode) :=
  (Call.inodeSizeSet inode size).perform
def ext2fsHasFeatureInlineData : Routine Bool := Call.hasFeatureInlineData.perform
def ext2fsHasFeatureExtents : Routine Bool := Call.hasFeatureExtents.perform
def ext2fsExtentOpen (ino : Ino) (inode : Inode) : Routine (Errcode × Inode) :=
  (Call.extentOpen ino inode).perform
def ext2fsExtentFree : Routine Unit := Call.extentFree.perform
def ext2fsWriteNewInode (ino : Ino) (inode : Inode) : Routine Errcode :=
  (Call.writeNewInode ino inode).perform
def ext2fsInlineDataInit (ino : Ino) : Routine Errcode := (Call.inlineDataInit ino).perform
def ext2fsReadInode (ino : Ino) : Routine (Errcode × Inode) := (Call.readInode ino).perform
def ext2fsWriteInode (ino : Ino) (inode : Inode) : Routine Errcode := (Call.writeInode ino inode).perform
/-- The inode is read into a zeroed `struct ext2_inode_large`. -/
def ext2fsReadInodeFull (ino : Ino) : Routine (Errcode × InodeLarge) := (Call.readInodeFull ino).perform
def ext2fsWriteInodeFull (ino : Ino) (inode : InodeLarge) : Routine Errcode :=
  (Call.writeInodeFull ino inode).perform
def ext2fsFreeExtAttr (ino : Ino) (inode : InodeLarge) : Routine (Errcode × InodeLarge) :=
  (Call.freeExtAttr ino inode).perform
def ext2fsInodeHasValidBlocks (inode : Inode) : Routine Bool := (Call.inodeHasValidBlocks inode).perform
/-- `ext2fs_punch(fs, ino, inode, NULL, 0, ~0ULL)`. -/
def ext2fsPunch (ino : Ino) (inode : Inode) : Routine (Errcode × Inode) := (Call.punch ino inode).perform
def ext2fsFileOpen (ino : Ino) (flags : BitVec 32) : Routine (Errcode × Ptr) :=
  (Call.fileOpen ino flags).perform
def ext2fsFileSetSize (file : Ptr) (size : Nat) : Routine Errcode := (Call.fileSetSize file size).perform
def ext2fsFileLlseek (file : Ptr) (offset : BitVec 64) (whence : Nat) : Routine Errcode :=
  (Call.fileLlseek file offset whence).perform
def ext2fsFileRead (file buffer : Ptr) (wanted : BitVec 32) : Routine (Errcode × BitVec 32) :=
  (Call.fileRead file buffer wanted).perform
def ext2fsFileWrite (file buffer : Ptr) (nbytes : BitVec 32) : Routine (Errcode × BitVec 32) :=
  (Call.fileWrite file buffer nbytes).perform
def ext2fsFileFlush (file : Ptr) : Routine Errcode := (Call.fileFlush file).perform
def ext2fsFileClose (file : Ptr) : Routine Errcode := (Call.fileClose file).perform
/-- The fields of the open file that the C code reads from memory. -/
def loadFile (file : Ptr) : Routine Ext2File := (Call.loadFile file).perform
/-- The assignment to the inode copy of the open file. -/
def storeFileInode (file : Ptr) (inode : Inode) : Routine Unit := (Call.storeFileInode file inode).perform
def ext2fsMarkSuperDirty : Routine Unit := Call.markSuperDirty.perform
def ext2fsFlush : Routine Errcode := Call.flush.perform
def ext2fsFlush2 : Routine Errcode := Call.flush2.perform
def ext2fsClose : Routine Errcode := Call.close.perform
/-- Whether `strdup` found memory. -/
def strdup : Routine Bool := Call.strdup.perform
def clockGettime : Routine (Int × Timespec) := Call.clockGettime.perform
def time : Routine (BitVec 64) := Call.time.perform
def loadBlockRange : Routine BlockRange := Call.loadBlockRange.perform
def ext2fsReadBlockBitmap : Routine Errcode := Call.readBlockBitmap.perform
def ext2fsTestBlockBitmap (blk : BitVec 32) : Routine Bool := (Call.testBlockBitmap blk).perform
def ioChannelDiscard (block count : BitVec 64) : Routine Errcode :=
  (Call.ioChannelDiscard block count).perform
def ext2fsIsFastSymlink (inode : Inode) : Routine Bool := (Call.isFastSymlink inode).perform
def ext2fsGetMem (size : BitVec 32) : Routine Errcode := (Call.getMem size).perform
def ext2fsFreeMem : Routine Unit := Call.freeMem.perform
def ext2fsInlineDataGet (ino : Ino) (inode : Inode) : Routine (Errcode × List UInt8) :=
  (Call.inlineDataGet ino inode).perform
def ext2fsBmap (ino : Ino) (inode : Inode) (block : Nat) : Routine (Errcode × BitVec 64) :=
  (Call.bmap ino inode block).perform
def loadBlocksize : Routine (BitVec 32) := Call.loadBlocksize.perform
/-- `io_channel_read_blk64(fs->io, block, 1, buffer)`, with the bytes of the block. -/
def ioChannelReadBlk (block : BitVec 64) : Routine (Errcode × List UInt8) :=
  (Call.ioChannelReadBlk block).perform
def arrayPushBuffer (arrayId : Nat) (value : Name) : Routine Unit :=
  (Call.arrayPushBuffer arrayId value).perform

end NodeExt2fs.Glue
