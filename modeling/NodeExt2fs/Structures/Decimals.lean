import Mathlib.Data.Nat.Digits.Lemmas
import Mathlib.Data.List.TakeWhile

/-!
Decimal numbers as `%d` writes and reads them.
-/

namespace NodeExt2fs.Structures.Decimals

/-- The ASCII digits of a number. -/
def digits (number : Nat) : List UInt8 :=
  if number = 0 then [48] else (Nat.digits 10 number).reverse.map fun digit => 48 + UInt8.ofNat digit

def minus : UInt8 := 45

def plus : UInt8 := 43

/-- `printf("%d")`. -/
def write (number : Int) : List UInt8 :=
  if number < 0 then minus :: digits number.natAbs else digits number.natAbs

def isDigit (byte : UInt8) : Bool := 48 ≤ byte ∧ byte ≤ 57

def isSpace (byte : UInt8) : Bool := byte = 32 ∨ 9 ≤ byte ∧ byte ≤ 13

/-- The number that the digits at the beginning of a text stand for. -/
def readDigits (text : List UInt8) : Option Nat :=
  match text.takeWhile isDigit with
  | [] => none
  | first :: rest => some ((first :: rest).foldl (fun value byte => value * 10 + (byte - 48).toNat) 0)

/-- `scanf("%d")`, or nothing when the text has no number. -/
def read (text : List UInt8) : Option Int :=
  match text.dropWhile isSpace with
  | [] => none
  | first :: rest =>
      if first = minus then (readDigits rest).map fun value : Nat => -(value : Int)
      else if first = plus then (readDigits rest).map fun value : Nat => (value : Int)
      else (readDigits (first :: rest)).map fun value : Nat => (value : Int)

theorem digit_toNat {digit : Nat} (small : digit < 10) :
    isDigit (48 + UInt8.ofNat digit) = true ∧ (48 + UInt8.ofNat digit - 48).toNat = digit := by
  interval_cases digit <;> decide

theorem isDigit_of_mem (number : Nat) : ∀ byte ∈ digits number, isDigit byte = true := by
  intro byte member
  rw [digits] at member
  by_cases zero : number = 0
  · rw [if_pos zero] at member
    rw [List.mem_singleton.mp member]
    decide
  · rw [if_neg zero] at member
    obtain ⟨digit, listed, rfl⟩ := List.mem_map.mp member
    exact (digit_toNat (Nat.digits_lt_base (by decide) (List.mem_reverse.mp listed))).1

theorem digits_ne_nil (number : Nat) : digits number ≠ [] := by
  rw [digits]
  by_cases zero : number = 0
  · simp [zero]
  · simpa [zero] using Nat.digits_ne_nil_iff_ne_zero.mpr zero

/-- Digits are read from the front, which is where the highest one is. -/
theorem foldl_digits {listed : List Nat} (small : ∀ digit ∈ listed, digit < 10) :
    (listed.reverse.map fun digit => 48 + UInt8.ofNat digit).foldl
      (fun value byte => value * 10 + (byte - 48).toNat) 0 = Nat.ofDigits 10 listed := by
  induction listed with
  | nil => rfl
  | cons digit rest ih =>
      have here := (digit_toNat (small digit List.mem_cons_self)).2
      rw [List.reverse_cons, List.map_append, List.foldl_append, ih fun other member =>
        small other (List.mem_cons_of_mem digit member), Nat.ofDigits_cons]
      simp only [List.map_cons, List.map_nil, List.foldl_cons, List.foldl_nil, here]
      ring

theorem readDigits_digits (number : Nat) : readDigits (digits number) = some number := by
  have whole : (digits number).takeWhile isDigit = digits number :=
    List.takeWhile_eq_self_iff.mpr (isDigit_of_mem number)
  rw [readDigits, whole]
  cases text : digits number with
  | nil => exact absurd text (digits_ne_nil number)
  | cons first rest =>
      dsimp only
      rw [← text, digits]
      by_cases zero : number = 0
      · rw [if_pos zero, zero]
        decide
      · rw [if_neg zero, foldl_digits fun digit member => Nat.digits_lt_base (by decide) member,
          Nat.ofDigits_digits]

/-- A digit is neither a space nor a sign. -/
theorem read_of_isDigit {first : UInt8} {rest : List UInt8} (digit : isDigit first = true) :
    read (first :: rest) = (readDigits (first :: rest)).map fun value : Nat => (value : Int) := by
  have above : 48 ≤ first.toNat := by
    simp only [isDigit, decide_eq_true_eq] at digit
    exact UInt8.le_iff_toNat_le.mp digit.1
  have other {byte : UInt8} (below : byte.toNat < 48) : first ≠ byte := by
    intro same
    rw [same] at above
    omega
  have spaceless : isSpace first = false := by
    have apart := @other 32 (by decide)
    have high : ¬first ≤ 13 := fun low => by
      have bound := UInt8.le_iff_toNat_le.mp low
      exact absurd (above.trans bound) (by decide)
    simp [isSpace, apart, high]
  rw [read, List.dropWhile_cons_of_neg (by simp [spaceless])]
  dsimp only
  rw [if_neg (other (by decide)), if_neg (other (by decide))]

/-- What is written is read back. -/
theorem read_write (number : Int) : read (write number) = some number := by
  rw [write]
  by_cases negative : number < 0
  · rw [if_pos negative, read, List.dropWhile_cons_of_neg (by decide)]
    dsimp only
    rw [if_pos rfl, readDigits_digits, Option.map_some, Int.ofNat_natAbs_of_nonpos (by omega), neg_neg]
  · rw [if_neg negative]
    cases text : digits number.natAbs with
    | nil => exact absurd text (digits_ne_nil _)
    | cons first rest =>
        have digit := isDigit_of_mem number.natAbs first (text ▸ List.mem_cons_self)
        rw [read_of_isDigit digit, ← text, readDigits_digits, Option.map_some,
          Int.natAbs_of_nonneg (not_lt.mp negative)]

theorem length_digits_le {number width : Nat} (positive : width ≠ 0) :
    (digits number).length ≤ width ↔ number < 10 ^ width := by
  rw [digits]
  by_cases zero : number = 0
  · rw [if_pos zero, zero]
    simp
    omega
  · rw [if_neg zero, List.length_map, List.length_reverse]
    exact Nat.digits_length_le_iff (by decide) number

end NodeExt2fs.Structures.Decimals
