import NodeExt2fs.Proof.Transfers.Replies

/-!
This file compares the buffer after a read with the bytes that were read.
-/

namespace NodeExt2fs.Transfers
open Glue Js Structures

/-- What the file has for a read, up to its length. A length reaches the C code modulo 2^32. -/
def available (file : OpenFile) (length : Nat) (position : JsValue) : Nat :=
  min (length % 2 ^ 32) (file.content.length - place file position)

/-- When a read resolves, the bytes that it reports are those of the file, every other byte of the
buffer is kept, and nothing depends on what the memory held before. -/
structure TouchesOnlyRead (file : OpenFile) (descriptor : Descriptor) (buffer : List UInt8)
    (offset length : Nat) (position : JsValue) : Prop where
  delivered : ∀ (allocation : Allocation) (count : Int) (buffer' : List UInt8) (file' : OpenFile),
    Fs.read file descriptor allocation buffer offset length position = (.ok (count, buffer'), file') →
      slice buffer' offset count.toNat = slice file.content (place file position) count.toNat
  kept : ∀ (allocation : Allocation) (count : Int) (buffer' : List UInt8) (file' : OpenFile),
    Fs.read file descriptor allocation buffer offset length position = (.ok (count, buffer'), file') →
      ∀ index, index < offset ∨ offset + count.toNat ≤ index → buffer'[index]? = buffer[index]?
  independent : ∀ (first second : Allocation) (result result' : Int × List UInt8),
    (Fs.read file descriptor first buffer offset length position).1 = .ok result →
      (Fs.read file descriptor second buffer offset length position).1 = .ok result' →
        result = result'

/-- The bytes of the file, in front of what the memory held before. -/
def readBuffer (file : OpenFile) (allocation : Allocation) (length : Nat) (position : JsValue) :
    List UInt8 :=
  overwrite (allocation.buffer length) 0
    (slice file.content (place file position) (length % 2 ^ 32))

theorem length_available (file : OpenFile) (length : Nat) (position : JsValue) :
    (slice file.content (place file position) (length % 2 ^ 32)).length =
      available file length position := by
  rw [slice, List.length_take, List.length_drop, available]

theorem available_le (file : OpenFile) (length : Nat) (position : JsValue) :
    available file length position ≤ length :=
  Nat.le_trans (Nat.min_le_left _ _) (Nat.mod_le _ _)

theorem length_readBuffer (file : OpenFile) (allocation : Allocation) (length : Nat)
    (position : JsValue) : (readBuffer file allocation length position).length = length := by
  have fits := available_le file length position
  rw [readBuffer, length_overwrite, length_buffer]
  rw [length_available, length_buffer]
  omega

theorem getElem?_readBuffer (file : OpenFile) (allocation : Allocation) (length : Nat)
    (position : JsValue) (index : Nat) : (readBuffer file allocation length position)[index]? =
      if index < available file length position then file.content[place file position + index]?
      else if index < length then some (allocation.byte index)
      else none := by
  have fits := available_le file length position
  rw [readBuffer, getElem?_overwrite (by rw [length_available, length_buffer]; omega),
    length_available, getElem?_slice, Nat.zero_add, Nat.sub_zero]
  by_cases read : index < available file length position
  · have word : index < length % 2 ^ 32 := Nat.lt_of_lt_of_le read (Nat.min_le_left _ _)
    rw [if_pos ⟨Nat.zero_le index, read⟩, if_pos read, if_pos word]
  · have rest : (allocation.buffer length)[index]? =
        if index < length then some (allocation.byte index) else none := by
      rw [Allocation.buffer, List.getElem?_map]
      by_cases inside : index < length
      · rw [List.getElem?_range inside, if_pos inside, Option.map_some]
      · rw [List.getElem?_eq_none (by rw [List.length_range]; omega), if_neg inside, Option.map_none]
    rw [if_neg (by omega), if_neg read, rest]

/-- A whole copy reaches as far as both buffers do. -/
theorem getElem?_copy (source target : List UInt8) (start index : Nat) :
    (copy source target start 0 source.length)[index]? =
      if start ≤ index ∧ index < start + min source.length (target.length - start) then
        source[index - start]?
      else target[index]? := by
  have all : slice source 0 (source.length - 0) = source := by
    rw [slice, List.drop_zero, Nat.sub_zero, List.take_length]
  rw [copy, all]
  by_cases beyond : target.length ≤ start
  · have none : target.length - start = 0 := by omega
    have same : overwrite target start (source.take 0) = target := by
      rw [List.take_zero, overwrite, List.append_nil, List.length_nil, Nat.add_zero,
        List.take_append_drop]
    rw [none, same, Nat.min_zero, if_neg (by omega)]
  · have length : (source.take (target.length - start)).length =
        min source.length (target.length - start) := by
      rw [List.length_take, Nat.min_comm]
    rw [getElem?_overwrite (by rw [length]; omega), length]
    by_cases inside : start ≤ index ∧ index < start + min source.length (target.length - start)
    · rw [if_pos inside, if_pos inside, List.getElem?_take_of_lt (by omega)]
    · rw [if_neg inside, if_neg inside]

theorem length_copy (source target : List UInt8) (start : Nat) :
    (copy source target start 0 source.length).length = target.length := by
  simp only [copy, overwrite, slice, List.length_append, List.length_take, List.length_drop]
  omega

variable {file : OpenFile} {descriptor : Descriptor} {allocation : Allocation} {buffer : List UInt8}
  {offset length : Nat} {position : JsValue}

theorem bindingRead_readable (readable : descriptor.readable = true) :
    bindingRead file descriptor (allocation.buffer length) (JsValue.ofNat length).toWord
      (Fs.positionOr position).toWord =
      ((BitVec.ofNat 32 (available file length position)).toInt,
        readBuffer file allocation length position,
        file.seek (place file position + available file length position)) := by
  have word : (JsValue.ofNat length).toWord.toNat = length % 2 ^ 32 := by
    rw [toWord_ofNat, BitVec.toNat_ofNat]
  rw [bindingRead, if_pos readable, seek_place, word, ← length_available]
  rfl

/-- A read that the C code counts as positive resolves with the whole read buffer copied. -/
theorem read_copies (readable : descriptor.readable = true) (some : length ≠ 0)
    (short : available file length position < 2 ^ 31) :
    Fs.read file descriptor allocation buffer offset length position =
      (.ok (available file length position,
        copy (readBuffer file allocation length position) buffer offset 0 length),
        file.seek (place file position + available file length position)) := by
  rw [Fs.read, if_neg some]
  simp only [bindingRead_readable readable]
  rw [count_resolved short]
  rfl

theorem available_lt (file : OpenFile) (length : Nat) (position : JsValue) :
    available file length position < 2 ^ 32 :=
  Nat.lt_of_le_of_lt (Nat.min_le_left _ _) (Nat.mod_lt _ (by decide))

/-- Any other read transfers nothing or rejects. -/
theorem read_otherwise
    (other : ¬(descriptor.readable = true ∧ length ≠ 0 ∧ available file length position < 2 ^ 31))
    {result : Int × List UInt8}
    (resolved : (Fs.read file descriptor allocation buffer offset length position).1 = .ok result) :
    result = (0, buffer) := by
  by_cases nothing : length = 0
  · rw [Fs.read, if_pos nothing] at resolved
    exact (Except.ok.inj resolved).symm
  · cases readable : descriptor.readable with
    | false =>
        obtain ⟨exception, _, refused⟩ :=
          @read_refused file descriptor allocation readable buffer offset length nothing position
        rw [refused] at resolved
        cases resolved
    | true =>
        have negative : (BitVec.ofNat 32 (available file length position)).toInt < 0 := by
          have bound := available_lt file length position
          have large : ¬available file length position < 2 ^ 31 :=
            fun short => other ⟨readable, nothing, short⟩
          have signed := BitVec.toInt_eq_toNat_cond (BitVec.ofNat 32 (available file length position))
          rw [BitVec.toNat_ofNat, Nat.mod_eq_of_lt bound] at signed
          omega
        rw [Fs.read, if_neg nothing] at resolved
        simp only [bindingRead_readable readable, ccallThrowAsync, if_pos negative] at resolved
        cases resolved

/-- The read rejects or transfers nothing, or what it finds is exactly what has room. -/
def Filling (file : OpenFile) (descriptor : Descriptor) (buffer : List UInt8) (offset length : Nat)
    (position : JsValue) : Prop :=
  descriptor.readable = true → length ≠ 0 → available file length position < 2 ^ 31 →
    available file length position = min length (buffer.length - offset)

/-- A byte of the result of a read. -/
theorem getElem?_read {count : Int} {buffer' : List UInt8} {file' : OpenFile}
    (filling : Filling file descriptor buffer offset length position)
    (resolved : Fs.read file descriptor allocation buffer offset length position =
      (.ok (count, buffer'), file')) (index : Nat) :
    buffer'[index]? =
      if offset ≤ index ∧ index < offset + count.toNat then
        file.content[place file position + (index - offset)]?
      else buffer[index]? := by
  by_cases transfers : descriptor.readable = true ∧ length ≠ 0 ∧
      available file length position < 2 ^ 31
  · obtain ⟨readable, some, short⟩ := transfers
    have room := filling readable some short
    rw [read_copies readable some short] at resolved
    have result := Except.ok.inj (Prod.mk.inj resolved).1
    rw [← (Prod.mk.inj result).1, ← (Prod.mk.inj result).2]
    have copied := getElem?_copy (readBuffer file allocation length position) buffer offset index
    rw [length_readBuffer] at copied
    rw [copied, Int.toNat_natCast, ← room]
    by_cases inside : offset ≤ index ∧ index < offset + available file length position
    · rw [if_pos inside, if_pos inside, getElem?_readBuffer, if_pos (by omega)]
    · rw [if_neg inside, if_neg inside]
  · have same := read_otherwise transfers (congrArg Prod.fst resolved)
    rw [(Prod.mk.inj same).1, (Prod.mk.inj same).2, if_neg (by omega)]

/-- A read that finds less than has room shows bytes of the memory. -/
theorem filling_of_touches (touches : TouchesOnlyRead file descriptor buffer offset length position) :
    Filling file descriptor buffer offset length position := by
  intro readable some short
  have fits := available_le file length position
  have resolved (allocation : Allocation) :=
    @read_copies file descriptor allocation buffer offset length position readable some short
  have byte (allocation : Allocation) := getElem?_copy (readBuffer file allocation length position)
    buffer offset (offset + available file length position)
  simp only [length_readBuffer, Nat.add_sub_cancel_left, getElem?_readBuffer, lt_irrefl, if_false]
    at byte
  rcases Nat.lt_trichotomy (available file length position) (min length (buffer.length - offset))
    with less | same | more
  · have equal := touches.independent ⟨0, fun _ => 0⟩ ⟨0, fun _ => 1⟩ _ _
      (congrArg Prod.fst (resolved _)) (congrArg Prod.fst (resolved _))
    have first := byte ⟨0, fun _ => 0⟩
    have second := byte ⟨0, fun _ => 1⟩
    rw [if_pos (by omega), if_pos (by omega)] at first second
    rw [(Prod.mk.inj equal).2, second] at first
    have bytes : (1 : UInt8) = 0 := Option.some.inj first
    exact absurd bytes (by decide)
  · exact same
  · have delivered := touches.delivered ⟨0, fun _ => 0⟩ _ _ _ (resolved _)
    have lengths := congrArg List.length delivered
    have left : available file length position ≤ file.content.length - place file position :=
      Nat.min_le_right _ _
    have kept := length_copy (readBuffer file ⟨0, fun _ => 0⟩ length position) buffer offset
    rw [length_readBuffer] at kept
    simp only [slice, List.length_take, List.length_drop, Int.toNat_natCast, kept] at lengths
    omega

/-- A read touches only what it read exactly when that fills the room for it. -/
theorem touchesOnlyRead_iff : TouchesOnlyRead file descriptor buffer offset length position ↔
    Filling file descriptor buffer offset length position := by
  apply Iff.intro filling_of_touches
  intro filling
  constructor
  · intro allocation count buffer' file' resolved
    apply List.ext_getElem?
    intro index
    rw [getElem?_slice, getElem?_slice, getElem?_read filling resolved]
    by_cases inside : index < count.toNat
    · rw [if_pos inside, if_pos inside, if_pos (by omega), Nat.add_sub_cancel_left]
    · rw [if_neg inside, if_neg inside]
  · intro allocation count buffer' file' resolved index outside
    rw [getElem?_read filling resolved, if_neg (by omega)]
  · intro first second result result' resolved resolved'
    have counts : result.1 = result'.1 := by
      by_cases transfers : descriptor.readable = true ∧ length ≠ 0 ∧
          available file length position < 2 ^ 31
      · obtain ⟨readable, some, short⟩ := transfers
        rw [read_copies readable some short] at resolved resolved'
        rw [← Except.ok.inj resolved, ← Except.ok.inj resolved']
      · rw [read_otherwise transfers resolved, read_otherwise transfers resolved']
    apply Prod.ext counts
    apply List.ext_getElem?
    intro index
    rw [getElem?_read filling (Prod.ext resolved rfl), getElem?_read filling (Prod.ext resolved' rfl),
      counts]

/-- A read of two bytes from a file with one byte copies a byte of the memory. -/
theorem read_copies_memory :
    ¬∀ (file : OpenFile) (descriptor : Descriptor) (buffer : List UInt8) (offset length : Nat)
      (position : JsValue), TouchesOnlyRead file descriptor buffer offset length position := by
  intro touches
  have filling := filling_of_touches (touches ⟨[7], 0, []⟩ ⟨5, 0⟩ [1, 1] 0 2 .null) rfl (by decide)
    (by decide)
  exact absurd filling (by decide)

end NodeExt2fs.Transfers
