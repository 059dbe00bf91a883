import NodeExt2fs.Proof.Stamps.Encoding

/-!
This file sets and gets times on the bytes of an inode.
-/

namespace NodeExt2fs.Stamps
open Glue Structures

variable {rawInode : Memory} {xtime : Xtime}

theorem rawFits_set (xtime other : Xtime) (time : Timespec) (rawInode : Memory) :
    rawFits (rawSetXtime xtime time rawInode) other = rawFits rawInode other := by
  rw [rawSetXtime]
  split
  · rw [rawFits_store_extra, rawFits_store_time]
  · exact rawFits_store_time ..

theorem set_of_fits (fits : rawFits rawInode xtime = true) (time : Timespec) :
    rawSetXtime xtime time rawInode =
      store32 (store32 rawInode xtime.offset (time.tvSec.setWidth 32)) xtime.extraOffset
        (ext4EncodeExtraTime time) := by
  rw [rawSetXtime, rawFits_store_time, fits, if_pos rfl]

theorem set_of_not_fits (full : rawFits rawInode xtime = false) (time : Timespec) :
    rawSetXtime xtime time rawInode =
      store32 rawInode xtime.offset (time.tvSec.setWidth 32) := by
  rw [rawSetXtime, rawFits_store_time, full]
  rfl

theorem load_time_set (xtime : Xtime) (time : Timespec) (rawInode : Memory) :
    load32 (rawSetXtime xtime time rawInode) xtime.offset = time.tvSec.setWidth 32 := by
  cases fits : rawFits rawInode xtime with
  | false => rw [set_of_not_fits fits, load32_store32]
  | true =>
      rw [set_of_fits fits, load32_store32_of_apart _ (.inl (xtime.offset_lt_extra xtime)),
        load32_store32]

/-- A time that is set is got back where its extra field fits. -/
theorem get_set (fits : rawFits rawInode xtime = true) {time : Timespec}
    (inside : InEpochs time.tvSec.toInt) (short : time.tvNsec.toNat < 2 ^ 30) :
    rawGetXtime xtime (rawSetXtime xtime time rawInode) = time := by
  rw [rawGetXtime, rawFits_set, fits, if_pos rfl, load_time_set, set_of_fits fits, load32_store32]
  exact decode_encode inside short

/-- Setting the time that is stored changes no byte. -/
theorem set_get (fits : rawFits rawInode xtime = true) :
    rawSetXtime xtime (rawGetXtime xtime rawInode) rawInode = rawInode := by
  have same := encode_decode (load32 rawInode xtime.offset) (load32 rawInode xtime.extraOffset)
  rw [set_of_fits fits, rawGetXtime, fits, if_pos rfl, same.1, same.2, store32_load32,
    store32_load32]

/-- The low word is all that is kept where there is no room for the extra field. -/
theorem get_set_of_not_fits (full : rawFits rawInode xtime = false) (time : Timespec) :
    rawGetXtime xtime (rawSetXtime xtime time rawInode) =
      { tvSec := lowWord time.tvSec, tvNsec := 0 } := by
  rw [rawGetXtime, rawFits_set, full, load_time_set]
  rfl

/-- No byte behind the inode is written. -/
theorem set_behind (xtime : Xtime) (time : Timespec) (rawInode : Memory) {place : Nat}
    (behind : inodeEnd rawInode ≤ place) :
    rawSetXtime xtime time rawInode place = rawInode place := by
  have base : xtime.offset + 4 ≤ place := by
    have low := xtime.offset_le
    have least : extraIsizeOffset ≤ inodeEnd rawInode := Nat.le_add_right ..
    omega
  cases fits : rawFits rawInode xtime with
  | false => rw [set_of_not_fits fits, store32_outside _ (.inr base)]
  | true =>
      have extra : xtime.extraOffset + 4 ≤ inodeEnd rawInode := of_decide_eq_true fits
      rw [set_of_fits fits, store32_outside _ (.inr (by omega)), store32_outside _ (.inr base)]

/-- Times make the round trip in both directions where their extra field fits. Where it does not,
they lose their epoch and nanoseconds. No byte behind the inode is written in either case. -/
theorem xtime_round_trips (xtime : Xtime) (rawInode : Memory) :
    (rawFits rawInode xtime = true →
      (∀ time : Timespec, -2 ^ 31 ≤ time.tvSec.toInt → time.tvSec.toInt < 2 ^ 34 - 2 ^ 31 →
        0 ≤ time.tvNsec.toInt → time.tvNsec.toInt < 10 ^ 9 →
          rawGetXtime xtime (rawSetXtime xtime time rawInode) = time) ∧
      rawSetXtime xtime (rawGetXtime xtime rawInode) rawInode = rawInode) ∧
    (rawFits rawInode xtime = false → ∀ time : Timespec,
      rawGetXtime xtime (rawSetXtime xtime time rawInode) =
        { tvSec := (time.tvSec.setWidth 32).signExtend 64, tvNsec := 0 }) ∧
    ∀ (time : Timespec) (place : Nat), inodeEnd rawInode ≤ place →
      rawSetXtime xtime time rawInode place = rawInode place := by
  refine ⟨?_, fun full time => get_set_of_not_fits full time,
    fun time place => set_behind xtime time rawInode⟩
  intro fits
  refine ⟨?_, set_get fits⟩
  intro time least greatest unsigned short
  apply get_set fits ⟨least, greatest⟩
  have value : time.tvNsec.toInt = time.tvNsec.toNat := by
    rw [BitVec.toInt_eq_toNat_cond] at unsigned ⊢
    have range := time.tvNsec.isLt
    split at unsigned <;> split <;> omega
  omega

/-- A nanosecond before the epoch is set in an inode with 32 extra bytes and in one without any. -/
theorem xtime_round_trips_before_epoch :
    rawGetXtime .iCtime (rawSetXtime .iCtime { tvSec := -1#64, tvNsec := 999999999#32 }
        fun place => if place = extraIsizeOffset then 32 else 0) =
      { tvSec := -1#64, tvNsec := 999999999#32 } ∧
    rawGetXtime .iCtime (rawSetXtime .iCtime { tvSec := -1#64, tvNsec := 999999999#32 }
        fun _ => 0) = { tvSec := -1#64, tvNsec := 0 } := by
  have large := xtime_round_trips .iCtime fun place => if place = extraIsizeOffset then 32 else 0
  have small := xtime_round_trips .iCtime fun _ => 0
  exact ⟨(large.1 (by decide)).1 _ (by decide) (by decide) (by decide) (by decide),
    small.2.1 (by decide) _⟩

end NodeExt2fs.Stamps
