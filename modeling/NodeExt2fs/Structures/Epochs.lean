import Mathlib.Data.BitVec

/-!
Signed numbers of 64 bits as a signed low word and the epoch that is missing from it.
-/

namespace NodeExt2fs.Structures

/-- The low word of a number, read as a signed one. -/
def lowWord (seconds : BitVec 64) : BitVec 64 := (seconds.setWidth 32).signExtend 64

/-- The number of full words between a number and its low word. -/
def epochOf (seconds : Int) : Int := seconds.bdiv (2 ^ 32)

/-- The numbers whose epoch is one of the first four. -/
def InEpochs (seconds : Int) : Prop := -2 ^ 31 ≤ seconds ∧ seconds < 2 ^ 34 - 2 ^ 31

instance (seconds : Int) : Decidable (InEpochs seconds) := inferInstanceAs (Decidable (_ ∧ _))

variable {seconds low epoch : Int}

/-- A number is its low word and its epoch. -/
theorem epochOf_split (seconds : Int) :
    seconds.bmod (2 ^ 32) + 2 ^ 32 * epochOf seconds = seconds :=
  Int.bmod_add_bdiv seconds (2 ^ 32)

theorem bmod_word_bounds (seconds : Int) :
    -2 ^ 31 ≤ seconds.bmod (2 ^ 32) ∧ seconds.bmod (2 ^ 32) < 2 ^ 31 := by
  constructor
  · have least := @Int.le_bmod seconds (2 ^ 32) (by decide)
    omega
  · have greatest := @Int.bmod_lt seconds (2 ^ 32) (by decide)
    omega

/-- There is one way to split a number. -/
theorem epochOf_eq (least : -2 ^ 31 ≤ low) (greatest : low < 2 ^ 31) :
    epochOf (low + 2 ^ 32 * epoch) = epoch := by
  have split := epochOf_split (low + 2 ^ 32 * epoch)
  have bounds := bmod_word_bounds (low + 2 ^ 32 * epoch)
  omega

theorem epochOf_bounds (inside : InEpochs seconds) :
    0 ≤ epochOf seconds ∧ epochOf seconds < 4 := by
  have split := epochOf_split seconds
  have bounds := bmod_word_bounds seconds
  rw [InEpochs] at inside
  omega

theorem inEpochs_of_epoch (least : -2 ^ 31 ≤ low) (greatest : low < 2 ^ 31)
    (first : 0 ≤ epoch) (last : epoch < 4) : InEpochs (low + 2 ^ 32 * epoch) := by
  constructor <;> omega

theorem toInt_setWidth_word (seconds : BitVec 64) :
    (seconds.setWidth 32).toInt = seconds.toInt.bmod (2 ^ 32) := by
  rw [BitVec.toInt_setWidth, BitVec.toInt_eq_toNat_bmod, Int.bmod_bmod_of_dvd (by decide)]

theorem toInt_lowWord (seconds : BitVec 64) :
    (lowWord seconds).toInt = seconds.toInt.bmod (2 ^ 32) := by
  rw [lowWord, BitVec.toInt_signExtend_of_le (by decide), toInt_setWidth_word]

theorem toInt_signExtend_bounds (word : BitVec 32) :
    -2 ^ 31 ≤ (word.signExtend 64).toInt ∧ (word.signExtend 64).toInt < 2 ^ 31 := by
  rw [BitVec.toInt_signExtend_of_le (by decide)]
  exact ⟨BitVec.le_toInt word, BitVec.toInt_lt⟩

/-- The shifted difference to the low word is the epoch. -/
theorem toInt_shifted (seconds : BitVec 64) (inside : InEpochs seconds.toInt) :
    ((seconds - lowWord seconds).sshiftRight 32).toInt = epochOf seconds.toInt := by
  have split := epochOf_split seconds.toInt
  have bounds := epochOf_bounds inside
  have difference : seconds.toInt - seconds.toInt.bmod (2 ^ 32) = 2 ^ 32 * epochOf seconds.toInt := by
    omega
  have small : (2 ^ 32 * epochOf seconds.toInt).bmod (2 ^ 64) = 2 ^ 32 * epochOf seconds.toInt := by
    apply Int.bmod_eq_of_le <;> omega
  rw [BitVec.toInt_sshiftRight, BitVec.toInt_sub, toInt_lowWord, difference, small,
    Int.shiftRight_eq_div_pow]
  exact Int.mul_ediv_cancel_left _ (by decide)

theorem toNat_of_toInt {width value : Nat} {word : BitVec width} (same : word.toInt = value) :
    word.toNat = value := by
  have bounds := word.isLt
  rw [BitVec.toInt_eq_toNat_cond] at same
  split at same <;> omega

end NodeExt2fs.Structures
