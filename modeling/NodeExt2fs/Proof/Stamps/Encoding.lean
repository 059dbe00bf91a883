import NodeExt2fs.Construction.Glue.RawTimes
import NodeExt2fs.Structures.Epochs

/-!
This file reads the extra field of a time as an epoch and nanoseconds.
-/

namespace NodeExt2fs.Stamps
open Glue Structures

/-- The low two bits of an extra field. -/
def storedEpoch (extra : BitVec 32) : Nat := extra.toNat % 4

theorem storedEpoch_lt (extra : BitVec 32) : storedEpoch extra < 4 := Nat.mod_lt _ (by decide)

theorem and_epochMask_toNat (extra : BitVec 32) :
    (extra &&& EXT4_EPOCH_MASK).toNat = storedEpoch extra := by
  rw [BitVec.toNat_and]
  exact Nat.and_two_pow_sub_one_eq_mod extra.toNat 2

/-- What `ext4_encode_extra_time` computes of the seconds. -/
theorem epochBits_toNat {tvSec : BitVec 64} (inside : InEpochs tvSec.toInt) :
    (((tvSec - lowWord tvSec).sshiftRight 32).setWidth 32 &&& EXT4_EPOCH_MASK).toNat =
      (epochOf tvSec.toInt).toNat := by
  have bounds := epochOf_bounds inside
  have shifted : ((tvSec - lowWord tvSec).sshiftRight 32).toNat = (epochOf tvSec.toInt).toNat := by
    apply toNat_of_toInt
    rw [toInt_shifted _ inside, Int.toNat_of_nonneg bounds.1]
  rw [and_epochMask_toNat, storedEpoch, BitVec.toNat_setWidth, shifted]
  omega

/-- The epoch is stored below the nanoseconds, whatever these are. -/
theorem storedEpoch_encode {time : Timespec} (inside : InEpochs time.tvSec.toInt) :
    (storedEpoch (ext4EncodeExtraTime time) : Int) = epochOf time.tvSec.toInt := by
  have bounds := epochOf_bounds inside
  have empty : (time.tvNsec <<< EXT4_EPOCH_BITS).toNat % 2 ^ 2 = 0 := by
    rw [BitVec.toNat_shiftLeft, Nat.mod_mod_of_dvd _ (by decide), Nat.shiftLeft_eq]
    exact Nat.mul_mod_left ..
  have low : storedEpoch (ext4EncodeExtraTime time) = (epochOf time.tvSec.toInt).toNat := by
    change ((((time.tvSec - lowWord time.tvSec).sshiftRight 32).setWidth 32 &&& EXT4_EPOCH_MASK) |||
      time.tvNsec <<< EXT4_EPOCH_BITS).toNat % 2 ^ 2 = _
    rw [BitVec.toNat_or, Nat.or_mod_two_pow, empty, Nat.or_zero, epochBits_toNat inside]
    omega
  rw [low]
  exact Int.toNat_of_nonneg bounds.1

/-- The encoding of a time has its epoch below its nanoseconds. -/
theorem encode_toNat {time : Timespec} (inside : InEpochs time.tvSec.toInt)
    (short : time.tvNsec.toNat < 2 ^ 30) :
    (ext4EncodeExtraTime time).toNat = (epochOf time.tvSec.toInt).toNat + 4 * time.tvNsec.toNat := by
  have bounds := epochOf_bounds inside
  have inRange : time.tvNsec.toNat * 2 ^ 2 < 2 ^ 32 := by omega
  have nanoseconds : (time.tvNsec <<< EXT4_EPOCH_BITS).toNat = time.tvNsec.toNat <<< 2 := by
    rw [BitVec.toNat_shiftLeft, Nat.shiftLeft_eq]
    exact Nat.mod_eq_of_lt inRange
  have packed := @Nat.shiftLeft_add_eq_or_of_lt 2 (epochOf time.tvSec.toInt).toNat (by omega)
    time.tvNsec.toNat
  change ((((time.tvSec - lowWord time.tvSec).sshiftRight 32).setWidth 32 &&& EXT4_EPOCH_MASK) |||
    time.tvNsec <<< EXT4_EPOCH_BITS).toNat = _
  rw [BitVec.toNat_or, epochBits_toNat inside, nanoseconds, Nat.or_comm, ← packed, Nat.shiftLeft_eq]
  omega

theorem decode_nsec (tvSec : BitVec 64) (extra : BitVec 32) :
    (ext4DecodeExtraTime tvSec extra).tvNsec.toNat = extra.toNat / 4 := by
  have kept : (extra &&& (BitVec.allOnes 32 <<< EXT4_EPOCH_BITS)) >>> EXT4_EPOCH_BITS =
      extra >>> EXT4_EPOCH_BITS := by
    apply BitVec.eq_of_getLsbD_eq
    intro index inside
    simp only [BitVec.getLsbD_ushiftRight, BitVec.getLsbD_and, BitVec.getLsbD_shiftLeft,
      BitVec.getLsbD_allOnes]
    by_cases high : 2 + index < 32
    · have mask : (decide (2 + index < 32) && !decide (2 + index < 2) &&
          decide (2 + index - 2 < 32)) = true := by
        rw [decide_eq_true high, decide_eq_false (show ¬2 + index < 2 by omega),
          decide_eq_true (show 2 + index - 2 < 32 by omega)]
        rfl
      exact (congrArg (extra.getLsbD (2 + index) && ·) mask).trans (Bool.and_true _)
    · change (extra.getLsbD (2 + index) && _) = extra.getLsbD (2 + index)
      rw [BitVec.getLsbD_of_ge extra (2 + index) (by omega), Bool.false_and]
  rw [ext4DecodeExtraTime, kept, BitVec.toNat_ushiftRight, Nat.shiftRight_eq_div_pow]
  rfl

/-- A decoded time is the low word with the stored epoch above it. -/
theorem decode_sec (word extra : BitVec 32) :
    (ext4DecodeExtraTime (word.signExtend 64) extra).tvSec.toInt =
      (word.signExtend 64).toInt + 2 ^ 32 * (storedEpoch extra : Int) := by
  have bounds := toInt_signExtend_bounds word
  have small := storedEpoch_lt extra
  have wide : ((extra &&& EXT4_EPOCH_MASK).setWidth 64 <<< 32).toInt =
      2 ^ 32 * (storedEpoch extra : Int) := by
    have value : ((extra &&& EXT4_EPOCH_MASK).setWidth 64 <<< 32).toNat =
        2 ^ 32 * storedEpoch extra := by
      rw [BitVec.toNat_shiftLeft, BitVec.toNat_setWidth, and_epochMask_toNat, Nat.shiftLeft_eq]
      omega
    rw [BitVec.toInt_eq_toNat_of_lt (by omega), value]
    rfl
  rw [ext4DecodeExtraTime]
  dsimp only
  split
  · rw [BitVec.toInt_add, wide]
    apply Int.bmod_eq_of_le <;> omega
  · next unmarked =>
      have none : storedEpoch extra = 0 := by
        rw [← and_epochMask_toNat, not_not.mp unmarked]
        rfl
      rw [none]
      omega

/-- What is encoded is decoded again. -/
theorem decode_encode {time : Timespec} (inside : InEpochs time.tvSec.toInt)
    (short : time.tvNsec.toNat < 2 ^ 30) :
    ext4DecodeExtraTime (lowWord time.tvSec) (ext4EncodeExtraTime time) = time := by
  have seconds : (ext4DecodeExtraTime (lowWord time.tvSec) (ext4EncodeExtraTime time)).tvSec =
      time.tvSec := by
    apply BitVec.toInt_inj.mp
    have decoded := decode_sec (time.tvSec.setWidth 32) (ext4EncodeExtraTime time)
    have split := epochOf_split time.tvSec.toInt
    rw [storedEpoch_encode inside] at decoded
    rw [← toInt_lowWord] at split
    exact decoded.trans split
  have nanoseconds : (ext4DecodeExtraTime (lowWord time.tvSec) (ext4EncodeExtraTime time)).tvNsec =
      time.tvNsec := by
    apply BitVec.eq_of_toNat_eq
    have bounds := epochOf_bounds inside
    rw [decode_nsec, encode_toNat inside short]
    omega
  cases time
  rw [Timespec.mk.injEq]
  exact ⟨seconds, nanoseconds⟩

/-- What is decoded is encoded to the same words again. -/
theorem encode_decode (word extra : BitVec 32) :
    (ext4DecodeExtraTime (word.signExtend 64) extra).tvSec.setWidth 32 = word ∧
      ext4EncodeExtraTime (ext4DecodeExtraTime (word.signExtend 64) extra) = extra := by
  have bounds := toInt_signExtend_bounds word
  have small := storedEpoch_lt extra
  have seconds := decode_sec word extra
  have nanoseconds := decode_nsec (word.signExtend 64) extra
  have inside : InEpochs (ext4DecodeExtraTime (word.signExtend 64) extra).tvSec.toInt := by
    rw [seconds]
    exact inEpochs_of_epoch bounds.1 bounds.2 (by omega) (by omega)
  have epoch : epochOf (ext4DecodeExtraTime (word.signExtend 64) extra).tvSec.toInt =
      storedEpoch extra := by
    rw [seconds]
    exact epochOf_eq bounds.1 bounds.2
  have short : (ext4DecodeExtraTime (word.signExtend 64) extra).tvNsec.toNat < 2 ^ 30 := by
    have range := extra.isLt
    omega
  constructor
  · apply BitVec.toInt_inj.mp
    have split := epochOf_split (ext4DecodeExtraTime (word.signExtend 64) extra).tvSec.toInt
    rw [toInt_setWidth_word, ← BitVec.toInt_signExtend_of_le (show 32 ≤ 64 by decide)]
    omega
  · apply BitVec.eq_of_toNat_eq
    rw [encode_toNat inside short, epoch, nanoseconds, storedEpoch]
    omega

end NodeExt2fs.Stamps
