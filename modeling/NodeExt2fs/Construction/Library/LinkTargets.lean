import NodeExt2fs.Construction.Glue.Inspection

/-!
This file states how libext2fs keeps the target of one new symbolic link.
-/

namespace NodeExt2fs.Library
open Programs Glue

/-- The size of `i_block`. -/
abbrev fastLength : Nat := 60

/-- The inode of the new link, once there is one, with its inline data and with its first block. -/
structure LinkDisk where
  child : Option Ino
  inode : InodeLarge
  inlineData : List UInt8
  blk : BitVec 64
  block : List UInt8

/-- `EXT2_I_SIZE`. -/
def ext2ISize (inode : Inode) : Nat := inode.iSizeHigh.toNat * 2 ^ 32 + inode.iSize.toNat

/-- `ext2fs_is_fast_symlink`. -/
def fastSymlink (inode : Inode) : Bool :=
  linuxSIslnk inode.iMode && decide (ext2ISize inode ≠ 0 ∧ ext2ISize inode < fastLength)

/-- `ext2fs_symlink` keeps a short target in the inode, and a long one in the inline data or in a
block that is filled up with zeros. -/
structure LinkDisk.Stores (disk : LinkDisk) (inlineFeature : Bool) (blocksize : BitVec 32)
    (target : Name) : Prop where
  link : linuxSIslnk disk.inode.iMode = true
  size : ext2ISize disk.inode.toInode = target.length
  fast : target.length < fastLength →
    disk.inode.iBlock = target ++ List.replicate (fastLength - target.length) 0
  flagged : disk.inode.iFlags &&& EXT4_INLINE_DATA_FL ≠ 0#32 ↔
    fastLength ≤ target.length ∧ inlineFeature = true
  inlined : fastLength ≤ target.length → inlineFeature = true → disk.inlineData = target
  blocked : fastLength ≤ target.length → inlineFeature = false →
    disk.block = target ++ List.replicate (blocksize.toNat - target.length) 0

/-- What the calls do on the way of one new link at a free path. The calls that are not listed change
nothing here, and nothing is said about their answers. -/
def LinkDisk.effect (dest : Path) (inlineFeature : Bool) (blocksize : BitVec 32) (disk : LinkDisk) :
    (call : Call) → Answer call → LinkDisk → Prop
  | .symlink parent _ target, code, disk' =>
      code = 0 ∧ (∃ ino, ino ≠ 0 ∧ ino ≠ parent ∧ disk'.child = some ino) ∧
        disk'.Stores inlineFeature blocksize target ∨
      code ≠ 0 ∧ disk' = disk
  | .namei path, answer, disk' =>
      disk' = disk ∧ (path = dest → ∀ ino, disk.child = some ino → answer = (0, ino))
  | .readInode ino, answer, disk' =>
      disk' = disk ∧ (disk.child = some ino → answer = (0, disk.inode.toInode))
  | .readInodeFull ino, answer, disk' =>
      disk' = disk ∧ (disk.child = some ino → answer = (0, disk.inode))
  | .writeInodeFull ino inode, _, disk' =>
      disk' = if disk.child = some ino then { disk with inode := inode } else disk
  | .isFastSymlink inode, answer, disk' => disk' = disk ∧ answer = fastSymlink inode
  | .getMem _, code, disk' => disk' = disk ∧ code = 0
  | .inlineDataGet ino _, answer, disk' =>
      disk' = disk ∧ (disk.child = some ino → answer = (0, disk.inlineData))
  | .bmap ino _ _, answer, disk' => disk' = disk ∧ (disk.child = some ino → answer = (0, disk.blk))
  | .loadBlocksize, answer, disk' => disk' = disk ∧ answer = blocksize
  | .ioChannelReadBlk block, answer, disk' =>
      disk' = disk ∧ (block = disk.blk → answer = (0, disk.block))
  | _, _, disk' => disk' = disk

/-- The contract of a library without failures of the disk: a call fails with a code of its own. -/
def linkTargets (dest : Path) (inlineFeature : Bool) (blocksize : BitVec 32) :
    Contract Call Answer LinkDisk where
  permits _ _ := True
  allows disk call answer disk' :=
    (call.code answer = 0 ∨ EXT2_ET_BASE ≤ call.code answer) ∧
      disk.effect dest inlineFeature blocksize call answer disk'

end NodeExt2fs.Library
