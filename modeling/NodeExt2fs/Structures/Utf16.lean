import NodeExt2fs.Structures.Utf8

/-!
Texts as 16-bit units, of which some may be halves of a character without the other half.
-/

namespace NodeExt2fs.Structures

/-- The first half of a character above 0xFFFF. -/
def isLeading (unit : UInt16) : Bool := 0xD800 ≤ unit ∧ unit ≤ 0xDBFF

/-- The second half of a character above 0xFFFF. -/
def isTrailing (unit : UInt16) : Bool := 0xDC00 ≤ unit ∧ unit ≤ 0xDFFF

/-- The character of a unit that is not in a pair. A lone half is replaced. -/
def unitChar (unit : UInt16) : Char :=
  if isLeading unit || isTrailing unit then '\uFFFD' else Char.ofNat unit.toNat

def pairChar (leading trailing : UInt16) : Char :=
  Char.ofNat (0x10000 + (leading.toNat - 0xD800) * 0x400 + (trailing.toNat - 0xDC00))

/-- The characters that the units stand for. -/
def decodeUtf16 : List UInt16 → List Char
  | [] => []
  | [unit] => [unitChar unit]
  | unit :: next :: rest =>
      if isLeading unit && isTrailing next then pairChar unit next :: decodeUtf16 rest
      else unitChar unit :: decodeUtf16 (next :: rest)

theorem toNat_ofNat_valid {number : Nat} (valid : number.isValidChar) :
    (Char.ofNat number).toNat = number := by
  rw [Char.ofNat, dif_pos valid]
  rfl

theorem isLeading_iff (unit : UInt16) :
    isLeading unit = true ↔ 0xD800 ≤ unit.toNat ∧ unit.toNat ≤ 0xDBFF := by
  rw [isLeading, decide_eq_true_iff]
  exact Iff.rfl

theorem isTrailing_iff (unit : UInt16) :
    isTrailing unit = true ↔ 0xDC00 ≤ unit.toNat ∧ unit.toNat ≤ 0xDFFF := by
  rw [isTrailing, decide_eq_true_iff]
  exact Iff.rfl

/-- Only the null unit is a null character. -/
theorem unitChar_eq_null_iff (unit : UInt16) : unitChar unit = '\x00' ↔ unit = 0 := by
  have bound := unit.toNat_lt
  by_cases half : (isLeading unit || isTrailing unit) = true
  · rw [unitChar, if_pos half]
    apply iff_of_false (by decide)
    intro zero
    rw [zero] at half
    exact absurd half (by decide)
  · rw [unitChar, if_neg half]
    rw [Bool.or_eq_true, not_or, isLeading_iff, isTrailing_iff] at half
    have valid : unit.toNat.isValidChar := by
      rw [Nat.isValidChar]
      omega
    rw [← Char.toNat_inj, toNat_ofNat_valid valid, ← UInt16.toNat_inj]
    exact Iff.rfl

theorem pairChar_ne_null {leading trailing : UInt16} (first : isLeading leading = true)
    (second : isTrailing trailing = true) : pairChar leading trailing ≠ '\x00' := by
  rw [isLeading_iff] at first
  rw [isTrailing_iff] at second
  have valid : (0x10000 + (leading.toNat - 0xD800) * 0x400 +
      (trailing.toNat - 0xDC00)).isValidChar := by
    rw [Nat.isValidChar]
    omega
  rw [pairChar, ne_eq, ← Char.toNat_inj, toNat_ofNat_valid valid]
  change ¬_ = 0
  omega

/-- A text has a null character if and only if it has a null unit. -/
theorem null_mem_decodeUtf16_iff (units : List UInt16) : '\x00' ∈ decodeUtf16 units ↔ 0 ∈ units := by
  fun_induction decodeUtf16 units with
  | case1 => simp
  | case2 unit =>
      rw [List.mem_singleton, List.mem_singleton, eq_comm, unitChar_eq_null_iff, eq_comm]
  | case3 unit next rest pair ih =>
      obtain ⟨first, second⟩ := Bool.and_eq_true_iff.mp pair
      have unitNonzero : (0 : UInt16) ≠ unit := by
        intro zero
        rw [← zero] at first
        exact absurd first (by decide)
      have nextNonzero : (0 : UInt16) ≠ next := by
        intro zero
        rw [← zero] at second
        exact absurd second (by decide)
      rw [List.mem_cons, List.mem_cons, List.mem_cons, ih,
        or_iff_right (Ne.symm (pairChar_ne_null first second)), or_iff_right unitNonzero,
        or_iff_right nextNonzero]
  | case4 unit next rest single ih =>
      rw [List.mem_cons, ih, List.mem_cons (b := unit), eq_comm, unitChar_eq_null_iff, eq_comm]

end NodeExt2fs.Structures
