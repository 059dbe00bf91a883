import NodeExt2fs.Construction.Glue.Times
import NodeExt2fs.Structures.Words

/-!
This file runs the time macros on the bytes of a `struct ext2_inode_large`.
-/

namespace NodeExt2fs.Glue
open Structures

/-- The offset of a time in `struct ext2_inode_large`. -/
def Xtime.offset : Xtime → Nat
  | .iAtime => 8
  | .iCtime => 12
  | .iMtime => 16

abbrev extraIsizeOffset : Nat := 128

/-- The inode ends there, and the rest of its place holds other data. -/
def inodeEnd (rawInode : Memory) : Nat :=
  EXT2_GOOD_OLD_INODE_SIZE + (load16 rawInode extraIsizeOffset).toNat

/-- `EXT4_FITS_IN_INODE` for the extra field of a time. -/
def rawFits (rawInode : Memory) (xtime : Xtime) : Bool := xtime.extraOffset + 4 ≤ inodeEnd rawInode

/-- `EXT4_INODE_SET_XTIME`, with the inode at the address zero. -/
def rawSetXtime (xtime : Xtime) (timespec : Timespec) (rawInode : Memory) : Memory :=
  let rawInode := store32 rawInode xtime.offset (timespec.tvSec.setWidth 32)
  if rawFits rawInode xtime then
    store32 rawInode xtime.extraOffset (ext4EncodeExtraTime timespec)
  else rawInode

/-- `EXT4_INODE_GET_XTIME`. -/
def rawGetXtime (xtime : Xtime) (rawInode : Memory) : Timespec :=
  let tvSec := (load32 rawInode xtime.offset).signExtend 64
  if rawFits rawInode xtime then
    ext4DecodeExtraTime tvSec (load32 rawInode xtime.extraOffset)
  else { tvSec := tvSec, tvNsec := 0 }

/-- The record has the fields that the bytes hold. -/
structure HeldIn (rawInode : Memory) (inode : InodeLarge) : Prop where
  extraIsize : load16 rawInode extraIsizeOffset = inode.iExtraIsize
  times : ∀ xtime : Xtime, load32 rawInode xtime.offset = inode.xtime xtime
  extras : ∀ xtime : Xtime, load32 rawInode xtime.extraOffset = inode.xtimeExtra xtime

/-- The words of the times and of their extra fields lie apart. -/
theorem Xtime.offset_lt_extra (xtime other : Xtime) : xtime.offset + 4 ≤ other.extraOffset := by
  cases xtime <;> cases other <;> decide

theorem Xtime.offset_apart {xtime other : Xtime} (different : other ≠ xtime) :
    other.offset + 4 ≤ xtime.offset ∨ xtime.offset + 4 ≤ other.offset := by
  cases xtime <;> cases other <;> first | exact absurd rfl different | decide

theorem Xtime.extra_apart {xtime other : Xtime} (different : other ≠ xtime) :
    other.extraOffset + 4 ≤ xtime.extraOffset ∨ xtime.extraOffset + 4 ≤ other.extraOffset := by
  cases xtime <;> cases other <;> first | exact absurd rfl different | decide

theorem Xtime.offset_le (xtime : Xtime) : xtime.offset + 4 ≤ extraIsizeOffset := by
  cases xtime <;> decide

theorem Xtime.le_extra (xtime : Xtime) : extraIsizeOffset + 2 ≤ xtime.extraOffset := by
  cases xtime <;> decide

/-- The size of the inode is stored apart from its times. -/
theorem inodeEnd_store_time (rawInode : Memory) (xtime : Xtime) (value : BitVec 32) :
    inodeEnd (store32 rawInode xtime.offset value) = inodeEnd rawInode := by
  have same := @load16_store32_of_apart rawInode _ extraIsizeOffset value (.inr xtime.offset_le)
  rw [inodeEnd, inodeEnd, same]

theorem inodeEnd_store_extra (rawInode : Memory) (xtime : Xtime) (value : BitVec 32) :
    inodeEnd (store32 rawInode xtime.extraOffset value) = inodeEnd rawInode := by
  have same := @load16_store32_of_apart rawInode _ extraIsizeOffset value (.inl xtime.le_extra)
  rw [inodeEnd, inodeEnd, same]

theorem rawFits_store_time (rawInode : Memory) (xtime other : Xtime) (value : BitVec 32) :
    rawFits (store32 rawInode xtime.offset value) other = rawFits rawInode other := by
  rw [rawFits, rawFits, inodeEnd_store_time]

theorem rawFits_store_extra (rawInode : Memory) (xtime other : Xtime) (value : BitVec 32) :
    rawFits (store32 rawInode xtime.extraOffset value) other = rawFits rawInode other := by
  rw [rawFits, rawFits, inodeEnd_store_extra]

theorem HeldIn.fits {rawInode : Memory} {inode : InodeLarge} (held : HeldIn rawInode inode)
    (xtime : Xtime) : rawFits rawInode xtime = ext4FitsInInode inode xtime := by
  rw [rawFits, inodeEnd, held.extraIsize]
  rfl

@[simp] theorem InodeLarge.xtime_setXtime (inode : InodeLarge) (value : BitVec 32) (xtime other : Xtime) :
    (inode.setXtime value xtime).xtime other = if other = xtime then value else inode.xtime other := by
  cases xtime <;> cases other <;> rfl

@[simp] theorem InodeLarge.xtimeExtra_setXtime (inode : InodeLarge) (value : BitVec 32)
    (xtime other : Xtime) : (inode.setXtime value xtime).xtimeExtra other = inode.xtimeExtra other := by
  cases xtime <;> cases other <;> rfl

@[simp] theorem InodeLarge.xtime_setXtimeExtra (inode : InodeLarge) (value : BitVec 32)
    (xtime other : Xtime) : (inode.setXtimeExtra value xtime).xtime other = inode.xtime other := by
  cases xtime <;> cases other <;> rfl

@[simp] theorem InodeLarge.xtimeExtra_setXtimeExtra (inode : InodeLarge) (value : BitVec 32)
    (xtime other : Xtime) : (inode.setXtimeExtra value xtime).xtimeExtra other =
      if other = xtime then value else inode.xtimeExtra other := by
  cases xtime <;> cases other <;> rfl

@[simp] theorem InodeLarge.iExtraIsize_setXtime (inode : InodeLarge) (value : BitVec 32) (xtime : Xtime) :
    (inode.setXtime value xtime).iExtraIsize = inode.iExtraIsize := by
  cases xtime <;> rfl

@[simp] theorem InodeLarge.iExtraIsize_setXtimeExtra (inode : InodeLarge) (value : BitVec 32)
    (xtime : Xtime) : (inode.setXtimeExtra value xtime).iExtraIsize = inode.iExtraIsize := by
  cases xtime <;> rfl

@[simp] theorem ext4FitsInInode_setXtime (inode : InodeLarge) (value : BitVec 32) (xtime other : Xtime) :
    ext4FitsInInode (inode.setXtime value xtime) other = ext4FitsInInode inode other := by
  cases xtime <;> rfl

@[simp] theorem ext4FitsInInode_setXtimeExtra (inode : InodeLarge) (value : BitVec 32)
    (xtime other : Xtime) :
    ext4FitsInInode (inode.setXtimeExtra value xtime) other = ext4FitsInInode inode other := by
  cases xtime <;> rfl

/-- The stored time is the one of the record. -/
theorem HeldIn.store_time {rawInode : Memory} {inode : InodeLarge} (held : HeldIn rawInode inode)
    (xtime : Xtime) (value : BitVec 32) :
    HeldIn (store32 rawInode xtime.offset value) (inode.setXtime value xtime) where
  extraIsize := by
    rw [load16_store32_of_apart value (.inr xtime.offset_le), inode.iExtraIsize_setXtime]
    exact held.extraIsize
  times other := by
    rw [inode.xtime_setXtime]
    by_cases same : other = xtime
    · rw [if_pos same, same]
      exact load32_store32 _ _ _
    · rw [if_neg same, load32_store32_of_apart value (Xtime.offset_apart same)]
      exact held.times other
  extras other := by
    rw [inode.xtimeExtra_setXtime, load32_store32_of_apart value (.inr (xtime.offset_lt_extra other))]
    exact held.extras other

theorem HeldIn.store_extra {rawInode : Memory} {inode : InodeLarge} (held : HeldIn rawInode inode)
    (xtime : Xtime) (value : BitVec 32) :
    HeldIn (store32 rawInode xtime.extraOffset value) (inode.setXtimeExtra value xtime) where
  extraIsize := by
    rw [load16_store32_of_apart value (.inl xtime.le_extra), inode.iExtraIsize_setXtimeExtra]
    exact held.extraIsize
  times other := by
    rw [inode.xtime_setXtimeExtra,
      load32_store32_of_apart value (.inl (other.offset_lt_extra xtime))]
    exact held.times other
  extras other := by
    rw [inode.xtimeExtra_setXtimeExtra]
    by_cases same : other = xtime
    · rw [if_pos same, same]
      exact load32_store32 _ _ _
    · rw [if_neg same, load32_store32_of_apart value (Xtime.extra_apart same)]
      exact held.extras other

/-- The macros on the bytes do what they do on the record. -/
theorem HeldIn.set {rawInode : Memory} {inode : InodeLarge} (held : HeldIn rawInode inode)
    (xtime : Xtime) (timespec : Timespec) :
    HeldIn (rawSetXtime xtime timespec rawInode) (ext4InodeSetXtime xtime timespec inode) := by
  have stored := held.store_time xtime (timespec.tvSec.setWidth 32)
  rw [rawSetXtime, ext4InodeSetXtime, stored.fits]
  by_cases fits : ext4FitsInInode (inode.setXtime (timespec.tvSec.setWidth 32) xtime) xtime = true
  · rw [if_pos fits, if_pos fits]
    exact stored.store_extra xtime _
  · rw [if_neg fits, if_neg fits]
    exact stored

theorem HeldIn.get {rawInode : Memory} {inode : InodeLarge} (held : HeldIn rawInode inode)
    (xtime : Xtime) : rawGetXtime xtime rawInode = ext4InodeGetXtime xtime inode := by
  rw [rawGetXtime, ext4InodeGetXtime, held.fits, held.times, held.extras]

end NodeExt2fs.Glue
