import NodeExt2fs.Proof.Disk.Partitions

/-!
This file proves which blocks the disk gets zeros for when libext2fs zeroes blocks out.
-/

namespace NodeExt2fs.Disk
open Programs Structures Glue

/-- Whatever the disk answers, it is asked to write zeros to the whole range, and to discard the same
range if and only if that succeeds. -/
def ZeroesExactly (heap : Heap) (allocated : BitVec 32) (offset : Nat) (channel : IoChannel)
    (blockSize block count : Nat) : Prop :=
  ∀ history result,
    Program.Outcome (DiskBytes.jsZerooutEntry heap allocated { offset := offset }
        (setBlksize channel (BitVec.ofNat 32 blockSize)) (BitVec.ofNat 64 block) (BitVec.ofNat 64 count))
      history result →
    ∃ resolved : Bool,
      history.head? = some ⟨.write (List.replicate (count * blockSize) 0) (offset + block * blockSize),
        resolved⟩ ∧
      history.tail.map Sigma.fst =
        if resolved then [.discard (offset + block * blockSize) (count * blockSize)] else []

/-- The bytes that were cleared are all zeros. -/
theorem bytes_cleared (heap : Heap) (pointer : Int) {size : Nat} {length : Int} (within : length.toNat ≤ size) :
    (heap.store pointer (List.replicate size 0)).bytes pointer length = List.replicate length.toNat 0 := by
  unfold Heap.bytes Heap.store
  rw [Storage.range_put _ _ (by rw [List.length_replicate]; exact within), List.take_replicate,
    min_eq_left within]

/-- Cleared blocks are written, and discarded after a write that succeeds. Nothing is asked of the disk
when there is no view of them. -/
theorem outcome_jsZerooutEntry {heap heap' : Heap} {disk : DiskWrapper} {channel : IoChannel}
    {block count : BitVec 64} {allocated : BitVec 32} {history : List (Event DiskCall DiskReply)}
    {result : Option (Errcode × Heap)}
    (cleared : heap.clear allocated ((count * channel.blockSize.signExtend 64).setWidth 32) = some heap')
    (outcome : Program.Outcome (DiskBytes.jsZerooutEntry heap allocated disk channel block count)
      history result) :
    match getBuffer heap'.size (jsNumber allocated) (transferSize (jsNumber (count.setWidth 32))
        (jsShort (channel.blockSize.setWidth 16))) with
    | none => history = []
    | some view => ∃ resolved : Bool,
        history.head? = some ⟨.write (heap'.bytes (jsNumber allocated) view)
          (jsNumber (block.setWidth 32) * jsShort (channel.blockSize.setWidth 16) + disk.offset), resolved⟩ ∧
        history.tail.map Sigma.fst = if resolved then
          [.discard (jsNumber (block.setWidth 32) * jsShort (channel.blockSize.setWidth 16) + disk.offset)
            (transferSize (jsNumber (count.setWidth 32)) (jsShort (channel.blockSize.setWidth 16)))] else [] := by
  unfold DiskBytes.jsZerooutEntry DiskBytes.blkWrite at outcome
  simp only [cleared] at outcome
  cases viewed : getBuffer heap'.size (jsNumber allocated) (transferSize (jsNumber (count.setWidth 32))
      (jsShort (channel.blockSize.setWidth 16))) with
  | none =>
      simp only [viewed] at outcome
      cases outcome
      rfl
  | some view =>
      simp only [viewed] at outcome
      cases outcome with
      | call resolved rest =>
          refine ⟨resolved, rfl, ?_⟩
          cases resolved with
          | false =>
              cases rest
              rfl
          | true =>
              cases rest with
              | call _ rest =>
                  cases rest
                  rfl

/-- A view of all the bytes has the right place and length only for representable blocks. -/
theorem representable_of_view {heap pointer : Int} {blockSize block count : Nat} (valid : BlockSize blockSize)
    (number : block < 2 ^ 32) (memory : heap ≤ 2 ^ 32) (given : 0 < pointer)
    (viewed : getBuffer heap pointer (transferSize (jsNumber ((BitVec.ofNat 64 count).setWidth 32))
      (jsShort ((BitVec.ofNat 32 blockSize).setWidth 16))) = some (count * blockSize : Nat))
    (address : jsNumber ((BitVec.ofNat 64 block).setWidth 32) *
      jsShort ((BitVec.ofNat 32 blockSize).setWidth 16) = block * blockSize) :
    Representable blockSize block count ∧ count * blockSize < 2 ^ 32 := by
  obtain ⟨length, inside, -⟩ := getBuffer_eq_some viewed
  obtain ⟨exponent, small, rfl⟩ := valid
  have short := readAs_blockSize small
  have fits : count * (1024 * 2 ^ exponent) < 2 ^ 32 := by omega
  have few : count * 1024 ≤ count * (1024 * 2 ^ exponent) :=
    Nat.mul_le_mul_left count (Nat.le_mul_of_pos_right 1024 (Nat.two_pow_pos exponent))
  have seen : jsNumber ((BitVec.ofNat 64 count).setWidth 32) = count := by
    rw [jsNumber_block (by omega), if_pos (by omega)]
  rw [seen, ← wanted_count] at length
  exact ⟨⟨(offset_iff short number).mp address, (transfer_iff short count).mp length.symm, by omega, by omega⟩,
    fits⟩

/-- Blocks are zeroed out exactly when their numbers and the number of bytes survive the conversions. -/
theorem zeroes_iff {heap : Heap} {allocated : BitVec 32} (offset : Nat) (channel : IoChannel)
    {blockSize block count : Nat} (valid : BlockSize blockSize) (number : block < 2 ^ 32)
    (memory : heap.size ≤ 2 ^ 32) (given : 0 < allocated.toInt)
    (fits : allocated.toInt + (count * blockSize % 2 ^ 32 : Nat) ≤ heap.size) :
    ZeroesExactly heap allocated offset channel blockSize block count ↔
      Representable blockSize block count ∧ count * blockSize < 2 ^ 32 := by
  have size := zeroout_size valid count
  have cleared := clear_allocated heap ((BitVec.ofNat 64 count *
    (BitVec.ofNat 32 blockSize).signExtend 64).setWidth 32) (le_of_lt given) (by rw [size]; exact fits)
  rw [size] at cleared
  constructor
  · intro exactly
    -- one outcome is enough, since the range that is written is the same in all of them
    have outcome := Program.run_outcome memoryDisk (DiskBytes.jsZerooutEntry heap allocated
      { offset := offset } (setBlksize channel (BitVec.ofNat 32 blockSize)) (BitVec.ofNat 64 block)
      (BitVec.ofNat 64 count)) fun _ => 0
    have shown := outcome_jsZerooutEntry cleared outcome
    obtain ⟨resolved, first, -⟩ := exactly _ _ outcome
    split at shown
    · rw [shown] at first
      cases first
    · next view viewed =>
      obtain ⟨resolved', first', -⟩ := shown
      have same := Option.some.inj (first'.symm.trans first)
      injection same with same
      injection same with bytes address
      have length := congrArg List.length bytes
      rw [Heap.bytes, Storage.length_range, List.length_replicate] at length
      have inside := getBuffer_eq_some viewed
      have all : view = (count * blockSize : Nat) := by omega
      rw [all] at viewed
      have place : jsNumber ((BitVec.ofNat 64 block).setWidth 32) *
          jsShort ((BitVec.ofNat 32 blockSize).setWidth 16) + (offset : Int) = offset + block * blockSize :=
        address
      exact representable_of_view valid number (by exact_mod_cast memory) given viewed (by omega)
  · intro both history result outcome
    obtain ⟨represented, small⟩ := both
    have shown := outcome_jsZerooutEntry cleared outcome
    have viewed : getBuffer heap.size (jsNumber allocated) _ = _ :=
      converted_view valid represented (le_of_lt given)
        (by rw [wanted_count, ← Nat.mod_eq_of_lt small]; exact fits)
    rw [← setWidth_count, wanted_count] at viewed
    split at shown
    · next absent => cases absent.symm.trans viewed
    · next view found =>
      cases found.symm.trans viewed
      obtain ⟨resolved, first, rest⟩ := shown
      have place : jsNumber ((BitVec.ofNat 64 block).setWidth 32) *
          jsShort ((BitVec.ofNat 32 blockSize).setWidth 16) + (offset : Int) = offset + block * blockSize := by
        rw [(converted_range valid represented).1, add_comm]
      have length := converted_discard valid represented
      have zeros := @bytes_cleared heap allocated.toInt (count * blockSize % 2 ^ 32)
        (count * blockSize : Nat) (by omega)
      refine ⟨resolved, first.trans ?_, rest.trans ?_⟩
      · exact congrArg₂ (fun bytes address => some (⟨DiskCall.write bytes address, resolved⟩ :
          Event DiskCall DiskReply)) zeros place
      · exact congrArg₂ (fun address bytes => if resolved then [DiskCall.discard address bytes] else [])
          place length

/-- One block of 1024 bytes is zeroed out where it is, and one of 65536 bytes is not. -/
theorem zeroes_small_block :
    ZeroesExactly ⟨131072, fun _ => 7⟩ 4096#32 512 ⟨0⟩ 1024 1 1 ∧
      ¬ZeroesExactly ⟨131072, fun _ => 7⟩ 4096#32 512 ⟨0⟩ 65536 1 1 :=
  ⟨(zeroes_iff 512 ⟨0⟩ ⟨0, by decide, rfl⟩ (by decide) (by decide) (by decide) (by decide)).mpr
      (by unfold Representable; decide),
    mt (zeroes_iff 512 ⟨0⟩ ⟨6, by decide, rfl⟩ (by decide) (by decide) (by decide) (by decide)).mp
      (by unfold Representable; decide)⟩

end NodeExt2fs.Disk
