import Mathlib.Data.BitVec

/-!
Little-endian words in a memory of bytes.
-/

namespace NodeExt2fs.Structures

abbrev Memory := Nat → UInt8

def load16 (memory : Memory) (address : Nat) : BitVec 16 :=
  (memory (address + 1)).toBitVec ++ (memory address).toBitVec

def load32 (memory : Memory) (address : Nat) : BitVec 32 :=
  load16 memory (address + 2) ++ load16 memory address

/-- One of the bytes of a word, from the lowest on. -/
def byteOf (value : BitVec 32) (index : Nat) : UInt8 :=
  UInt8.ofBitVec (value.extractLsb' (8 * index) 8)

def store32 (memory : Memory) (address : Nat) (value : BitVec 32) : Memory :=
  fun place =>
    if address ≤ place ∧ place < address + 4 then byteOf value (place - address) else memory place

variable {memory memory' : Memory} {address address' : Nat}

/-- A store leaves the bytes before and behind the word. -/
theorem store32_outside (value : BitVec 32) {place : Nat}
    (outside : place < address ∨ address + 4 ≤ place) :
    store32 memory address value place = memory place := by
  rw [store32, if_neg (by omega)]

theorem store32_inside (value : BitVec 32) {index : Nat} (inside : index < 4) :
    store32 memory address value (address + index) = byteOf value index := by
  rw [store32, if_pos (by omega), Nat.add_sub_cancel_left]

theorem load16_congr (same : ∀ index < 2, memory' (address + index) = memory (address + index)) :
    load16 memory' address = load16 memory address := by
  have low := same 0 (by decide)
  have high := same 1 (by decide)
  rw [Nat.add_zero] at low
  rw [load16, load16, low, high]

theorem load32_congr (same : ∀ index < 4, memory' (address + index) = memory (address + index)) :
    load32 memory' address = load32 memory address := by
  have low : load16 memory' address = load16 memory address :=
    load16_congr fun index inside => same index (by omega)
  have high : load16 memory' (address + 2) = load16 memory (address + 2) := by
    apply load16_congr
    intro index inside
    rw [Nat.add_assoc]
    exact same (2 + index) (by omega)
  rw [load32, load32, low, high]

/-- A word that was stored is loaded again. -/
theorem load32_store32 (memory : Memory) (address : Nat) (value : BitVec 32) :
    load32 (store32 memory address value) address = value := by
  have first : store32 memory address value address = byteOf value 0 :=
    store32_inside value (show 0 < 4 by decide)
  have second : store32 memory address value (address + 1) = byteOf value 1 :=
    store32_inside value (show 1 < 4 by decide)
  have third : store32 memory address value (address + 2) = byteOf value 2 :=
    store32_inside value (show 2 < 4 by decide)
  have fourth : store32 memory address value (address + 2 + 1) = byteOf value 3 :=
    store32_inside value (show 3 < 4 by decide)
  rw [load32, load16, load16, first, second, third, fourth]
  simp only [byteOf, UInt8.toBitVec_ofBitVec]
  apply BitVec.eq_of_getLsbD_eq
  intro index inside
  simp only [BitVec.getLsbD_append, BitVec.getLsbD_extractLsb']
  grind

theorem load32_store32_of_apart (value : BitVec 32)
    (apart : address' + 4 ≤ address ∨ address + 4 ≤ address') :
    load32 (store32 memory address value) address' = load32 memory address' :=
  load32_congr fun _ _ => store32_outside value (by omega)

theorem load16_store32_of_apart (value : BitVec 32)
    (apart : address' + 2 ≤ address ∨ address + 4 ≤ address') :
    load16 (store32 memory address value) address' = load16 memory address' :=
  load16_congr fun _ _ => store32_outside value (by omega)

theorem byteOf_load32 {index : Nat} (inside : index < 4) :
    byteOf (load32 memory address) index = memory (address + index) := by
  apply UInt8.toBitVec_inj.mp
  apply BitVec.eq_of_getLsbD_eq
  intro bit small
  simp only [byteOf, load32, load16, UInt8.toBitVec_ofBitVec, BitVec.getLsbD_append,
    BitVec.getLsbD_extractLsb']
  grind

/-- Storing what is there changes nothing. -/
theorem store32_load32 (memory : Memory) (address : Nat) :
    store32 memory address (load32 memory address) = memory := by
  funext place
  by_cases inside : address ≤ place ∧ place < address + 4
  · rw [store32, if_pos inside, byteOf_load32 (by omega), Nat.add_sub_cancel' inside.1]
  · rw [store32, if_neg inside]

end NodeExt2fs.Structures
