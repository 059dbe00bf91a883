import NodeExt2fs.Construction.Glue.Disk
import Mathlib.RingTheory.Coprime.Lemmas
import Mathlib.Tactic.IntervalCases
import Mathlib.Tactic.Linarith

/-!
This file compares the byte ranges that the disk gets with the ranges that libext2fs asks for.
-/

namespace NodeExt2fs.Disk
open Programs Glue

/-- The three entries of the I/O manager that transfer or discard blocks. -/
inductive Entry where
  | read (data : BitVec 32)
  | write (data : BitVec 32)
  | discard

/-- The call of an entry with a block number and a signed count. -/
def Entry.call (entry : Entry) (heap : Int) (disk : DiskWrapper) (channel : IoChannel) (block : Nat)
    (count : Int) : DiskProgram (Option Errcode) :=
  match entry with
  | .read data =>
      jsReadBlk64Entry heap disk channel (BitVec.ofNat 64 block) (BitVec.ofInt 32 count) data
  | .write data =>
      jsWriteBlk64Entry heap disk channel (BitVec.ofNat 64 block) (BitVec.ofInt 32 count) data
  | .discard => jsDiscardEntry disk channel (BitVec.ofNat 64 block) (BitVec.ofInt 64 count)

def Entry.request (entry : Entry) (offset length : Int) : DiskRequest :=
  match entry with
  | .read _ => .read length offset
  | .write _ => .write length offset
  | .discard => .discard offset length

/-- The number of bytes that a count asks for. -/
def wanted (count : Int) (blockSize : Nat) : Int := if count < 0 then -count else count * blockSize

/-- The caller's buffer has the wanted bytes, and the count of a transfer is an `int`. -/
def Entry.Promised (entry : Entry) (heap : Int) (count : Int) (blockSize : Nat) : Prop :=
  match entry with
  | .read data => 0 ≤ data.toInt ∧ data.toInt + wanted count blockSize ≤ heap ∧
      -2 ^ 31 ≤ count ∧ count < 2 ^ 31
  | .write data => 0 ≤ data.toInt ∧ data.toInt + wanted count blockSize ≤ heap ∧
      -2 ^ 31 ≤ count ∧ count < 2 ^ 31
  | .discard => True

/-- The block sizes of ext2: the powers of two from 1024 to 65536. -/
def BlockSize (blockSize : Nat) : Prop := ∃ exponent ≤ 6, blockSize = 1024 * 2 ^ exponent

/-- Whatever the disk answers, the entry makes one request, for the range that it was asked for. -/
def Exact (entry : Entry) (heap : Int) (offset : Nat) (channel : IoChannel) (blockSize block : Nat)
    (count : Int) : Prop :=
  ∀ history result,
    Program.Outcome
        (entry.call heap { offset := offset } (setBlksize channel (BitVec.ofNat 32 blockSize)) block count)
        history result →
      history.map Sigma.fst = [entry.request (offset + block * blockSize) (wanted count blockSize)]

/-- The numbers that survive the conversions to `short` and to a signed 32-bit number. -/
def Representable (blockSize block : Nat) (count : Int) : Prop :=
  (block = 0 ∨ blockSize < 2 ^ 15 ∧ block < 2 ^ 31 ∨ blockSize = 2 ^ 15 ∧ block = 2 ^ 31) ∧
    (count ≤ 0 ∨ blockSize < 2 ^ 15) ∧ -2 ^ 31 ≤ count ∧ count < 2 ^ 31

/-- The one request of a settled disk promise. -/
theorem request_iff (request target : DiskRequest) :
    (∀ history result,
      Program.Outcome (do return some (diskStatus (← Program.perform request)) :
        DiskProgram (Option Errcode)) history result → history.map Sigma.fst = [target]) ↔
      request = target := by
  apply Iff.intro
  · intro all
    have run : Program.Outcome (do return some (diskStatus (← Program.perform request)) :
        DiskProgram (Option Errcode)) [⟨request, true⟩] (some (diskStatus true)) :=
      @Program.Outcome.call DiskRequest DiskAnswer (Option Errcode) request _ true _ _ (.pure _)
    have same := all _ _ run
    exact (List.cons.inj same).1
  · intro same history result outcome
    cases outcome with
    | call answer rest =>
        cases rest
        exact congrArg (fun request => [request]) same

/-- How a block size is read as a signed 16-bit number. -/
structure ReadAs (blockSize : Nat) (seen : Int) : Prop where
  positive : 0 < blockSize
  even : Even blockSize
  value : blockSize < 2 ^ 15 ∧ seen = blockSize ∨ blockSize = 2 ^ 15 ∧ seen = -2 ^ 15 ∨
    blockSize = 2 ^ 16 ∧ seen = 0

theorem readAs_blockSize {exponent : Nat} (small : exponent ≤ 6) :
    ReadAs (1024 * 2 ^ exponent) (jsShort ((BitVec.ofNat 32 (1024 * 2 ^ exponent)).setWidth 16)) := by
  interval_cases exponent <;> exact ⟨by decide, by decide, by decide⟩

/-- A block number is read as a signed 32-bit number. -/
theorem jsNumber_block {block : Nat} (small : block < 2 ^ 32) :
    jsNumber ((BitVec.ofNat 64 block).setWidth 32) =
      if block < 2 ^ 31 then (block : Int) else block - 2 ^ 32 := by
  unfold jsNumber
  rw [BitVec.toInt_eq_toNat_cond]
  simp only [BitVec.toNat_setWidth, BitVec.toNat_ofNat]
  have same : block % 2 ^ 64 % 2 ^ 32 = block := by omega
  rw [same]
  by_cases low : block < 2 ^ 31
  · rw [if_pos (by omega), if_pos low]
  · rw [if_neg (by omega), if_neg low]
    norm_num

theorem jsNumber_int {count : Int} (above : -2 ^ 31 ≤ count) (below : count < 2 ^ 31) :
    jsNumber (BitVec.ofInt 32 count) = count := by
  unfold jsNumber
  rw [BitVec.toInt_ofInt]
  apply Int.bmod_eq_of_le <;> omega

/-- A 64-bit count loses a multiple of 2^32. -/
theorem jsNumber_count (count : Int) :
    ∃ turns : Int, jsNumber ((BitVec.ofInt 64 count).setWidth 32) = count - turns * 2 ^ 32 ∧
      -2 ^ 31 ≤ count - turns * 2 ^ 32 ∧ count - turns * 2 ^ 32 < 2 ^ 31 := by
  have word : (BitVec.ofInt 64 count).setWidth 32 = BitVec.ofInt 32 count := by
    apply BitVec.eq_of_toInt_eq
    rw [BitVec.toInt_setWidth, BitVec.toNat_ofInt, BitVec.toInt_ofInt,
      Int.toNat_of_nonneg (Int.emod_nonneg _ (by decide))]
    have wraps : count % (2 ^ 64 : Nat) % (2 ^ 32 : Nat) = count % (2 ^ 32 : Nat) :=
      Int.emod_emod_of_dvd count (by decide)
    rw [← Int.emod_bmod, wraps, Int.emod_bmod]
  have least : -2 ^ 31 ≤ count.bmod (2 ^ 32) := Int.le_bmod (by decide)
  have most : count.bmod (2 ^ 32) < 2 ^ 31 := Int.bmod_lt (by decide)
  obtain ⟨turns, wraps⟩ : ((2 ^ 32 : Nat) : Int) ∣ count - count.bmod (2 ^ 32) :=
    Int.dvd_self_sub_bmod
  refine ⟨turns, ?_⟩
  unfold jsNumber
  rw [word, BitVec.toInt_ofInt]
  omega

section Sizes

variable {blockSize : Nat} {seen : Int} (short : ReadAs blockSize seen)
include short

/-- The offset is right only for representable blocks. -/
theorem offset_iff {block : Nat} (bound : block < 2 ^ 32) :
    jsNumber ((BitVec.ofNat 64 block).setWidth 32) * seen = block * blockSize ↔
      block = 0 ∨ blockSize < 2 ^ 15 ∧ block < 2 ^ 31 ∨ blockSize = 2 ^ 15 ∧ block = 2 ^ 31 := by
  have positive := short.positive
  rw [jsNumber_block bound]
  rcases short.value with ⟨fits, same⟩ | ⟨full, wrapped⟩ | ⟨large, lost⟩
  · have nonzero : (blockSize : Int) ≠ 0 := by omega
    rw [same, mul_left_inj' nonzero]
    omega
  · rw [full, wrapped]
    omega
  · rw [large, lost]
    omega

/-- The view of a transfer is never longer than the caller's buffer. -/
theorem transferSize_le (count : Int) : transferSize count seen ≤ wanted count blockSize := by
  unfold transferSize wanted
  by_cases negative : count < 0
  · rw [if_pos negative, if_pos negative]
  · rw [if_neg negative, if_neg negative]
    have less : seen ≤ blockSize := by
      have value := short.value
      omega
    exact mul_le_mul_of_nonneg_left less (not_lt.mp negative)

/-- The length of a transfer is right only for block sizes that fit a short number. -/
theorem transfer_iff (count : Int) :
    max 0 (transferSize count seen) = wanted count blockSize ↔ count ≤ 0 ∨ blockSize < 2 ^ 15 := by
  unfold transferSize wanted
  by_cases negative : count < 0
  · rw [if_pos negative, if_pos negative]
    omega
  · rw [if_neg negative, if_neg negative]
    rcases short.value with ⟨fits, same⟩ | ⟨full, wrapped⟩ | ⟨large, lost⟩
    · rw [same]
      have nonnegative := mul_nonneg (not_lt.mp negative) (Int.natCast_nonneg blockSize)
      exact iff_of_true (max_eq_right nonnegative) (.inr fits)
    · rw [full, wrapped]
      omega
    · rw [large, lost]
      omega

/-- A block size is even, so its successor has no part in a factor 2^32. -/
theorem turns_divide {count turns : Int} (product : count * (blockSize + 1) = turns * 2 ^ 32) :
    (2 ^ 32 : Int) ∣ count := by
  obtain ⟨half, twice⟩ := short.even
  have odd : IsCoprime (2 : Int) (blockSize + 1) := by
    refine ⟨-half, 1, ?_⟩
    rw [twice]
    push_cast
    ring
  apply odd.pow_left.dvd_of_dvd_mul_right
  exact ⟨turns, product.trans (mul_comm _ _)⟩

/-- The length of a discard also needs a count that fits 32 bits. -/
theorem discard_iff (count : Int) :
    transferSize (jsNumber ((BitVec.ofInt 64 count).setWidth 32)) seen = wanted count blockSize ↔
      (count ≤ 0 ∨ blockSize < 2 ^ 15) ∧ -2 ^ 31 ≤ count ∧ count < 2 ^ 31 := by
  obtain ⟨turns, number, above, below⟩ := jsNumber_count count
  have positive := short.positive
  rw [number]
  generalize read : count - turns * 2 ^ 32 = left at above below
  unfold transferSize wanted
  by_cases negative : count < 0
  · by_cases sees : left < 0
    · rw [if_pos negative, if_pos sees]
      omega
    · -- the count has lost its sign, and what is left of it would have to be a multiple of 2^32
      rw [if_pos negative, if_neg sees]
      apply iff_of_false
      · intro same
        rcases short.value with ⟨-, value⟩ | ⟨-, value⟩ | ⟨-, value⟩
        · have product : left * (blockSize + 1) = -turns * 2 ^ 32 := by
            rw [value] at same
            linarith
          have divides := turns_divide short product
          have none : left = 0 := by omega
          rw [none] at product
          omega
        · rw [value] at same
          omega
        · rw [value] at same
          omega
      · omega
  · by_cases sees : left < 0
    · rw [if_neg negative, if_pos sees]
      apply iff_of_false
      · intro same
        have product : left * (blockSize + 1) = -(turns * blockSize) * 2 ^ 32 := by
          rw [← read] at same ⊢
          linarith
        have divides := turns_divide short product
        omega
      · omega
    · rw [if_neg negative, if_neg sees]
      rcases short.value with ⟨fits, same⟩ | ⟨full, wrapped⟩ | ⟨large, lost⟩
      · have nonzero : (blockSize : Int) ≠ 0 := by omega
        rw [same, mul_left_inj' nonzero]
        omega
      · rw [full, wrapped]
        omega
      · rw [large, lost]
        omega

end Sizes

theorem getBuffer_of_le {heap pointer length room : Int} (inside : 0 ≤ pointer)
    (nonnegative : 0 ≤ room) (fits : pointer + room ≤ heap) (le : length ≤ room) :
    getBuffer heap pointer length = some (max 0 length) := by
  unfold getBuffer
  rw [if_neg (by omega)]
  by_cases positive : length > 0
  · rw [if_pos positive, if_neg (by omega), max_eq_right (by omega)]
  · rw [if_neg positive, max_eq_left (by omega)]

theorem wanted_nonneg (count : Int) (blockSize : Nat) : 0 ≤ wanted count blockSize := by
  unfold wanted
  by_cases negative : count < 0
  · rw [if_pos negative]
    omega
  · rw [if_neg negative]
    have := Int.mul_nonneg (not_lt.mp negative) (Int.natCast_nonneg blockSize)
    exact this

/-- A transfer into a large enough buffer is one request to the disk. -/
theorem transfer_request {blockSize : Nat} {seen : Int} (short : ReadAs blockSize seen) {heap count : Int}
    {data : BitVec 32} (inside : 0 ≤ data.toInt) (fits : data.toInt + wanted count blockSize ≤ heap)
    (above : -2 ^ 31 ≤ count) (below : count < 2 ^ 31) :
    getBuffer heap (jsNumber data) (transferSize (jsNumber (BitVec.ofInt 32 count)) seen) =
      some (max 0 (transferSize count seen)) := by
  rw [jsNumber_int above below]
  exact getBuffer_of_le inside (wanted_nonneg _ _) fits (transferSize_le short count)

/-- Two ranges that start in the same partition are equal when their parts are. -/
theorem range_iff {offset : Nat} {start start' length length' : Int} {first second : Prop}
    (address : start = start' ↔ first) (size : length = length' ↔ second) :
    (length = length' ∧ start + offset = offset + start') ↔ first ∧ second := by
  rw [← address, ← size]
  omega

/-- Each entry asks the disk for exactly the wanted range if and only if the numbers are
representable. -/
theorem exact_iff (entry : Entry) (heap : Int) (offset : Nat) (channel : IoChannel)
    {blockSize block : Nat} {count : Int} (size : BlockSize blockSize) (number : block < 2 ^ 32)
    (promised : entry.Promised heap count blockSize)
    (addressable : offset + block * blockSize + wanted count blockSize < 2 ^ 53) :
    Exact entry heap offset channel blockSize block count ↔ Representable blockSize block count := by
  obtain ⟨exponent, small, rfl⟩ := size
  have short := readAs_blockSize small
  have address := offset_iff short number
  unfold Representable
  cases entry with
  | read data =>
      obtain ⟨inside, fits, above, below⟩ := promised
      have view := transfer_request short inside fits above below
      have length := transfer_iff short count
      unfold Exact Entry.call jsReadBlk64Entry jsReadBlkEntry blkRead setBlksize
      simp only [view]
      rw [DiskWrapper.read, request_iff, Entry.request, DiskRequest.read.injEq,
        range_iff address length]
      exact ⟨fun both => ⟨both.1, both.2, above, below⟩, fun all => ⟨all.1, all.2.1⟩⟩
  | write data =>
      obtain ⟨inside, fits, above, below⟩ := promised
      have view := transfer_request short inside fits above below
      have length := transfer_iff short count
      unfold Exact Entry.call jsWriteBlk64Entry jsWriteBlkEntry blkWrite setBlksize
      simp only [view]
      rw [DiskWrapper.write, request_iff, Entry.request, DiskRequest.write.injEq,
        range_iff address length]
      exact ⟨fun both => ⟨both.1, both.2, above, below⟩, fun all => ⟨all.1, all.2.1⟩⟩
  | discard =>
      have length := discard_iff short count
      unfold Exact Entry.call jsDiscardEntry Glue.discard setBlksize
      simp only [DiskWrapper.discard]
      rw [request_iff, Entry.request, DiskRequest.discard.injEq, and_comm,
        range_iff address length]

/-- The first block of a filesystem with 1024-byte blocks is read where it is. -/
theorem exact_first_block : Exact (.read 4096#32) 16777216 512 ⟨0⟩ 1024 1 1 :=
  (exact_iff (.read 4096#32) 16777216 512 ⟨0⟩ ⟨0, by decide, rfl⟩ (by decide)
    (by unfold Entry.Promised; decide) (by decide)).mpr (by unfold Representable; decide)

/-- A block of 65536 bytes is read from the start of the partition, and as no bytes. -/
theorem large_block_misread :
    ¬∀ (entry : Entry) (heap : Int) (offset : Nat) (channel : IoChannel) (blockSize block : Nat)
        (count : Int),
      BlockSize blockSize → block < 2 ^ 32 → entry.Promised heap count blockSize →
        offset + block * blockSize + wanted count blockSize < 2 ^ 53 →
          Exact entry heap offset channel blockSize block count := by
  intro exact
  have large := exact (.read 4096#32) 16777216 0 ⟨0⟩ 65536 1 1 ⟨6, by decide, rfl⟩ (by decide)
    (by unfold Entry.Promised; decide) (by decide)
  have run : Program.Outcome
      (Entry.call (.read 4096#32) 16777216 { offset := 0 }
        (setBlksize ⟨0⟩ (BitVec.ofNat 32 65536)) 1 1)
      [⟨.read 0 0, true⟩] (some 0) :=
    @Program.Outcome.call DiskRequest DiskAnswer (Option Errcode) (.read 0 0) _ true _ _ (.pure _)
  have same := large _ _ run
  exact absurd same (by decide)

end NodeExt2fs.Disk
