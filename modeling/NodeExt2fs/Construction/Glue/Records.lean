import NodeExt2fs.Construction.Glue.Codes

/-!
This file defines the records that the C code passes to libext2fs.
-/

namespace NodeExt2fs.Glue

/-- An `ext2_ino_t`; zero is no inode. -/
abbrev Ino := Nat

abbrev EXT2_ROOT_INO : Ino := 2

/-- A pointer into the heap of the module. -/
abbrev Ptr := Nat

/-- The bytes of one path component. -/
abbrev Name := List UInt8

/-- The bytes of a C string, without the terminating NUL. -/
abbrev Path := List UInt8

/-- The fields of `struct ext2_inode` that the operations read or write. -/
structure Inode where
  iMode : BitVec 16
  iUid : BitVec 16
  iSize : BitVec 32
  iAtime : BitVec 32
  iCtime : BitVec 32
  iMtime : BitVec 32
  iDtime : BitVec 32
  iGid : BitVec 16
  iLinksCount : BitVec 16
  iBlocks : BitVec 32
  iFlags : BitVec 32
  lIVersion : BitVec 32
  iBlock : List UInt8
  iSizeHigh : BitVec 32
  lIUidHigh : BitVec 16
  lIGidHigh : BitVec 16
  deriving DecidableEq

/-- `struct ext2_inode_large` continues the inode beyond its first 128 bytes. -/
structure InodeLarge extends Inode where
  iExtraIsize : BitVec 16
  iCtimeExtra : BitVec 32
  iMtimeExtra : BitVec 32
  iAtimeExtra : BitVec 32
  deriving DecidableEq

/-- The inode after `memset(&inode, 0, sizeof(inode))`. -/
def Inode.zero : Inode where
  iMode := 0
  iUid := 0
  iSize := 0
  iAtime := 0
  iCtime := 0
  iMtime := 0
  iDtime := 0
  iGid := 0
  iLinksCount := 0
  iBlocks := 0
  iFlags := 0
  lIVersion := 0
  iBlock := List.replicate 60 0
  iSizeHigh := 0
  lIUidHigh := 0
  lIGidHigh := 0

def incrementVersion (inode : Inode) : Inode := { inode with lIVersion := inode.lIVersion + 1 }

/-- A live directory entry. -/
structure DirEntry where
  inode : Ino
  name : Name
  fileType : Nat
  deriving DecidableEq

/-- The part of an open `struct ext2_file` that the C code touches itself. -/
structure Ext2File where
  ino : Ino
  inode : Inode
  deriving DecidableEq

/-- A `struct timespec` of wasm32: 64-bit seconds and a 32-bit `long`. -/
structure Timespec where
  tvSec : BitVec 64
  tvNsec : BitVec 32
  deriving DecidableEq

/-- The parts of the superblock that the trim loop reads. -/
structure BlockRange where
  sFirstDataBlock : BitVec 32
  sBlocksCount : BitVec 32
  hasBlockMap : Bool

abbrev slash : UInt8 := 0x2f
abbrev period : UInt8 := 0x2e

/-- The names of a directory's entries for itself and for its parent. -/
abbrev dot : Name := [period]
abbrev dotdot : Name := [period, period]

abbrev DIRENT_CHANGED : Nat := 1
abbrev DIRENT_ABORT : Nat := 2

/-- The callbacks that the C code hands to `ext2fs_dir_iterate`. -/
inductive DirProc where
  | copyFilenameToResult
  | updateDotdotHelper (newDotdot : Ino)
  | rmdirProc
  deriving DecidableEq

/-- What `update_dotdot_helper` makes of an entry, and the flags that it returns. -/
def updateDotdotHelper (newDotdot : Ino) (dirent : DirEntry) : DirEntry × Nat :=
  if dirent.name = dotdot then ({ dirent with inode := newDotdot }, DIRENT_CHANGED ||| DIRENT_ABORT)
  else (dirent, 0)

/-- The effect of a callback on the entry that it visits. -/
def DirProc.visit : DirProc → DirEntry → DirEntry × Nat
  | .updateDotdotHelper newDotdot, dirent => Glue.updateDotdotHelper newDotdot dirent
  | _, dirent => (dirent, 0)

/-- An iteration visits the entries in order, stores the changed ones and stops at an abort.
The result has the visited entries and the entries afterwards. -/
def DirProc.iterate (proc : DirProc) : List DirEntry → List DirEntry × List DirEntry
  | [] => ([], [])
  | dirent :: rest =>
      let (changed, flags) := proc.visit dirent
      let stored := if flags &&& DIRENT_CHANGED ≠ 0 then changed else dirent
      if flags &&& DIRENT_ABORT ≠ 0 then ([dirent], stored :: rest)
      else
        let (visited, after) := proc.iterate rest
        (dirent :: visited, stored :: after)

end NodeExt2fs.Glue
