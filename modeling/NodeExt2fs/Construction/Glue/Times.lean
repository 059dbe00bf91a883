import NodeExt2fs.Construction.Glue.Errors

/-!
This file stamps inodes with times in the extended encoding.
-/

namespace NodeExt2fs.Glue

abbrev EXT2_GOOD_OLD_INODE_SIZE : Nat := 128
abbrev EXT4_EPOCH_BITS : Nat := 2
abbrev EXT4_EPOCH_MASK : BitVec 32 := 3#32

/-- The time fields that the macros take as an argument. -/
inductive Xtime where
  | iAtime
  | iCtime
  | iMtime
  deriving DecidableEq

def InodeLarge.xtime (inode : InodeLarge) : Xtime → BitVec 32
  | .iAtime => inode.iAtime
  | .iCtime => inode.iCtime
  | .iMtime => inode.iMtime

def InodeLarge.setXtime (inode : InodeLarge) (value : BitVec 32) : Xtime → InodeLarge
  | .iAtime => { inode with iAtime := value }
  | .iCtime => { inode with iCtime := value }
  | .iMtime => { inode with iMtime := value }

def InodeLarge.xtimeExtra (inode : InodeLarge) : Xtime → BitVec 32
  | .iAtime => inode.iAtimeExtra
  | .iCtime => inode.iCtimeExtra
  | .iMtime => inode.iMtimeExtra

def InodeLarge.setXtimeExtra (inode : InodeLarge) (value : BitVec 32) : Xtime → InodeLarge
  | .iAtime => { inode with iAtimeExtra := value }
  | .iCtime => { inode with iCtimeExtra := value }
  | .iMtime => { inode with iMtimeExtra := value }

/-- The offset of the extra field in `struct ext2_inode_large`. -/
def Xtime.extraOffset : Xtime → Nat
  | .iCtime => 132
  | .iMtime => 136
  | .iAtime => 140

/-- `EXT4_FITS_IN_INODE` for the extra field of a time. -/
def ext4FitsInInode (inode : InodeLarge) (xtime : Xtime) : Bool :=
  xtime.extraOffset + 4 ≤ EXT2_GOOD_OLD_INODE_SIZE + inode.iExtraIsize.toNat

def ext4EncodeExtraTime (time : Timespec) : BitVec 32 :=
  let low : BitVec 64 := (time.tvSec.setWidth 32).signExtend 64
  let extra := ((time.tvSec - low).sshiftRight 32).setWidth 32 &&& EXT4_EPOCH_MASK
  extra ||| time.tvNsec <<< EXT4_EPOCH_BITS

def ext4DecodeExtraTime (tvSec : BitVec 64) (extra : BitVec 32) : Timespec where
  tvSec :=
    if extra &&& EXT4_EPOCH_MASK ≠ 0#32 then
      tvSec + (extra &&& EXT4_EPOCH_MASK).setWidth 64 <<< 32
    else tvSec
  tvNsec := (extra &&& (BitVec.allOnes 32 <<< EXT4_EPOCH_BITS)) >>> EXT4_EPOCH_BITS

/-- `EXT4_INODE_SET_XTIME`. -/
def ext4InodeSetXtime (xtime : Xtime) (timespec : Timespec) (rawInode : InodeLarge) : InodeLarge :=
  let rawInode := rawInode.setXtime (timespec.tvSec.setWidth 32) xtime
  if ext4FitsInInode rawInode xtime then
    rawInode.setXtimeExtra (ext4EncodeExtraTime timespec) xtime
  else rawInode

/-- `EXT4_INODE_GET_XTIME`. -/
def ext4InodeGetXtime (xtime : Xtime) (rawInode : InodeLarge) : Timespec :=
  let tvSec := (rawInode.xtime xtime).signExtend 64
  if ext4FitsInInode rawInode xtime then ext4DecodeExtraTime tvSec (rawInode.xtimeExtra xtime)
  else { tvSec := tvSec, tvNsec := 0 }

def getNow : Routine Timespec := do
  let (failed, now) ← clockGettime
  if failed = 0 then
    return now
  return { tvSec := ← time, tvNsec := 0 }

/-- The result has the status and the inode buffer. A null `pinode` is `none`. -/
def updateCtime (ino : Ino) (pinode : Option InodeLarge) : Routine (Int × InodeLarge) := do
  let now ← getNow
  match pinode with
  | some pinode =>
      -- The version is incremented in the unset local inode, not in the buffer.
      return (0, ext4InodeSetXtime .iCtime now pinode)
  | none =>
      let (err, inode) ← ext2fsReadInodeFull ino
      if err ≠ 0 then
        return (← translateError err, inode)
      let inode := { inode with toInode := incrementVersion inode.toInode }
      let inode := ext4InodeSetXtime .iCtime now inode
      let err ← ext2fsWriteInodeFull ino inode
      if err ≠ 0 then
        return (← translateError err, inode)
      return (0, inode)

/-- The result has the status and the inode buffer. A null `pinode` is `none`. -/
def updateMtime (ino : Ino) (pinode : Option InodeLarge) : Routine (Int × InodeLarge) := do
  match pinode with
  | some pinode =>
      let now ← getNow
      let pinode := ext4InodeSetXtime .iMtime now pinode
      let pinode := ext4InodeSetXtime .iCtime now pinode
      return (0, { pinode with toInode := incrementVersion pinode.toInode })
  | none =>
      let (err, inode) ← ext2fsReadInodeFull ino
      if err ≠ 0 then
        return (← translateError err, inode)
      let now ← getNow
      let inode := ext4InodeSetXtime .iMtime now inode
      let inode := ext4InodeSetXtime .iCtime now inode
      let inode := { inode with toInode := incrementVersion inode.toInode }
      let err ← ext2fsWriteInodeFull ino inode
      if err ≠ 0 then
        return (← translateError err, inode)
      return (0, inode)

end NodeExt2fs.Glue
