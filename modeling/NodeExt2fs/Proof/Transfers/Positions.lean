import NodeExt2fs.Proof.Transfers.Replies

/-!
This file says for which positions a read and a write work where they are asked to.
-/

namespace NodeExt2fs.Transfers
open Glue Js Structures

/-- The bytes are stored at their place, no other byte changes, and a gap reads as zeros. -/
structure Stored (content : List UInt8) (start : Nat) (data content' : List UInt8) : Prop where
  inside : ∀ index < data.length, content'[start + index]? = data[index]?
  outside : ∀ index < content.length, index < start ∨ start + data.length ≤ index →
    content'[index]? = content[index]?
  gap : ∀ index, content.length ≤ index → index < start → index < content'.length →
    content'[index]? = some 0
  length : content'.length =
    if data = [] then content.length else max content.length (start + data.length)

/-- The read returns the bytes of the file from the position on, and leaves the file alone. -/
def ReadExact (position : Nat) : Prop :=
  ∀ (file : OpenFile) (descriptor : Descriptor) (allocation : Allocation) (buffer : List UInt8)
    (offset length : Nat), descriptor.readable = true → offset + length ≤ buffer.length →
      length < 2 ^ 31 → ∃ buffer' file',
        Fs.read file descriptor allocation buffer offset length (.ofNat position) =
          (.ok ((slice file.content position length).length, buffer'), file') ∧
        slice buffer' offset (slice file.content position length).length =
          slice file.content position length ∧
        file'.content = file.content

/-- The write stores the range of the buffer at the position. -/
def WriteExact (position : Nat) : Prop :=
  ∀ (file : OpenFile) (descriptor : Descriptor) (allocation : Allocation) (buffer : List UInt8)
    (offset length : Nat), descriptor.writable = true → descriptor.appends = false →
      offset + length ≤ buffer.length → length < 2 ^ 31 → ∃ file',
        Fs.writeBuffer file descriptor allocation buffer (.ofNat offset) (.ofNat length)
          (.ofNat position) = (.ok length, file') ∧
        Stored file.content position (slice buffer offset length) file'.content

theorem length_splice (content data : List UInt8) (start : Nat) :
    (splice content start data).length =
      if data = [] then content.length else max content.length (start + data.length) := by
  rw [splice]
  by_cases empty : data = []
  · rw [if_pos empty, if_pos empty]
  · rw [if_neg empty, if_neg empty]
    simp only [List.length_append, List.length_take, List.length_replicate, List.length_drop]
    omega

theorem getElem?_splice {content data : List UInt8} (some : data ≠ []) (start index : Nat) :
    (splice content start data)[index]? =
      if index < start then (if index < content.length then content[index]? else .some 0)
      else if index < start + data.length then data[index - start]?
      else content[index]? := by
  have front : (content.take start ++ List.replicate (start - content.length) 0).length = start := by
    simp only [List.length_append, List.length_take, List.length_replicate]
    omega
  rw [splice, if_neg some]
  by_cases before : index < start
  · rw [if_pos before, List.append_assoc, List.getElem?_append_left (by omega)]
    by_cases present : index < content.length
    · rw [if_pos present, List.getElem?_append_left (by rw [List.length_take]; omega),
        List.getElem?_take_of_lt before]
    · rw [if_neg present, List.getElem?_append_right (by rw [List.length_take]; omega),
        List.getElem?_replicate, List.length_take, if_pos (by omega)]
  · rw [if_neg before, List.append_assoc, List.getElem?_append_right (by omega), front]
    by_cases within : index < start + data.length
    · rw [if_pos within, List.getElem?_append_left (by omega)]
    · rw [if_neg within, List.getElem?_append_right (by omega), List.getElem?_drop]
      congr 1
      omega

theorem stored_splice (content data : List UInt8) (start : Nat) :
    Stored content start data (splice content start data) := by
  by_cases empty : data = []
  · have same : splice content start data = content := if_pos empty
    rw [same, empty]
    refine ⟨fun index below => absurd below (Nat.not_lt_zero index), fun _ _ _ => rfl, ?_, rfl⟩
    intro index beyond _ below
    omega
  · constructor
    · intro index below
      rw [getElem?_splice empty, if_neg (by omega), if_pos (by omega), Nat.add_sub_cancel_left]
    · intro index present outside
      rw [getElem?_splice empty]
      rcases outside with before | after
      · rw [if_pos before, if_pos present]
      · rw [if_neg (by omega), if_neg (by omega)]
    · intro index beyond before _
      rw [getElem?_splice empty, if_pos before, if_neg (by omega)]
    · exact length_splice content data start

/-- A position below the sentinel is the place of the call. -/
theorem place_of_lt {position : Nat} (below : position < 2 ^ 32 - 1) (file : OpenFile) :
    place file (.ofNat position) = position := by
  have word : (Fs.positionOr (.ofNat position)).toWord = BitVec.ofNat 32 position :=
    toWord_ofNat position
  have value : (BitVec.ofNat 32 position).toNat = position := by
    rw [BitVec.toNat_ofNat]
    omega
  have moved : BitVec.ofNat 32 position ≠ noPosition := by
    intro same
    have all := congrArg BitVec.toNat same
    rw [value, BitVec.toNat_allOnes] at all
    omega
  rw [place, word, if_pos moved, value]

/-- A position from the sentinel on is lost: with the handle at the remainder, the call works there. -/
theorem place_of_ge {position : Nat} {file : OpenFile} (at_ : file.position = position % 2 ^ 32) :
    place file (.ofNat position) = position % 2 ^ 32 := by
  have word : (Fs.positionOr (.ofNat position)).toWord = BitVec.ofNat 32 position :=
    toWord_ofNat position
  rw [place, word, at_, BitVec.toNat_ofNat, ite_self]

/-- The sentinel means the current place. -/
theorem place_sentinel (file : OpenFile) : place file (.ofNat (2 ^ 32 - 1)) = file.position :=
  if_neg (not_not.mpr (by decide))

theorem readExact_of_lt {position : Nat} (below : position < 2 ^ 32 - 1) : ReadExact position := by
  intro file descriptor allocation buffer offset length readable inside short
  by_cases some : length ≠ 0
  · obtain ⟨buffer', done, delivered⟩ :=
      @read_readable file descriptor allocation readable buffer offset length some short
        (.ofNat position)
    rw [place_of_lt below] at done delivered
    refine ⟨buffer', _, done, ?_, rfl⟩
    rw [delivered]
    apply List.take_of_length_le
    have := length_slice_le file.content position length
    omega
  · rw [not_not] at some
    have nothing : slice file.content position 0 = [] := List.take_zero
    rw [some, nothing]
    exact ⟨buffer, file, rfl, List.take_zero, rfl⟩

theorem writeExact_of_lt {position : Nat} (below : position < 2 ^ 32 - 1) : WriteExact position := by
  intro file descriptor allocation buffer offset length writable plain inside short
  refine ⟨_, writeBuffer_writable writable inside short _, ?_⟩
  have here : writePlace file descriptor (.ofNat position) = position := by
    rw [writePlace, plain, if_neg Bool.false_ne_true, place_of_lt below]
  rw [here]
  exact stored_splice file.content (slice buffer offset length) position

/-- A read that works before its position returns a byte of a file that ends there. -/
theorem not_readExact {position start : Nat} {file : OpenFile}
    (works : place file (.ofNat position) = start) (before : start < position)
    (content : file.content = List.replicate (start + 1) 7) : ¬ReadExact position := by
  intro exact
  obtain ⟨buffer', file', done, -, -⟩ := exact file ⟨0, 0⟩ ⟨8, fun _ => 0⟩ [0] 0 1 rfl
    (Nat.le_refl 1) (by decide)
  obtain ⟨buffer'', really, -⟩ := @read_readable file ⟨0, 0⟩ ⟨8, fun _ => 0⟩ rfl [0] 0 1
    one_ne_zero (by decide) (.ofNat position)
  have counts := congrArg Prod.fst (done.symm.trans really)
  have same := congrArg Prod.fst (Except.ok.inj counts)
  simp only [works, content, slice, List.length_take, List.length_drop, List.length_replicate] at same
  omega

/-- Reads and writes are exact at the positions below the sentinel, and at no other. -/
theorem exact_position_iff {position : Nat} (_ : position < 2 ^ 53) :
    ReadExact position ∧ WriteExact position ↔ position < 2 ^ 32 - 1 := by
  apply Iff.intro
  · intro exact
    by_contra large
    by_cases sentinel : position = 2 ^ 32 - 1
    · have works : place ⟨List.replicate 1 7, 0, []⟩ (.ofNat position) = 0 := by
        rw [sentinel, place_sentinel]
      exact not_readExact works (by omega) rfl exact.1
    · have works : place ⟨List.replicate (position % 2 ^ 32 + 1) 7, position % 2 ^ 32, []⟩
          (.ofNat position) = position % 2 ^ 32 := place_of_ge rfl
      exact not_readExact works (by omega) rfl exact.1
  · intro below
    exact ⟨readExact_of_lt below, writeExact_of_lt below⟩

/-- The last position before the sentinel. -/
theorem exact_last_position : ReadExact (2 ^ 32 - 2) ∧ WriteExact (2 ^ 32 - 2) :=
  (exact_position_iff (by decide)).mpr (by decide)

/-- A position of 4 GiB reads the beginning of the file. -/
theorem four_gibibytes_misread :
    ¬∀ position < 2 ^ 53, ReadExact position ∧ WriteExact position := by
  intro all
  have works : place ⟨[7], 0, []⟩ (.ofNat (2 ^ 32)) = 0 := place_of_ge (by decide)
  exact not_readExact works (by decide) rfl (all (2 ^ 32) (by decide)).1

end NodeExt2fs.Transfers
