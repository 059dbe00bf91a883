import NodeExt2fs.Proof.Transfers.Exchange

/-!
This file says what one read and one write do, whatever the position is.
-/

namespace NodeExt2fs.Transfers
open Glue Js Structures

@[simp] theorem toNumber_ofNat (value : Nat) : (JsValue.ofNat value).toNumber = some (value : Int) := rfl

@[simp] theorem isNumber_ofNat (value : Nat) : (JsValue.ofNat value).isNumber = true := rfl

@[simp] theorem toIndex_ofNat (value : Nat) : (JsValue.ofNat value).toIndex = value := rfl

theorem toWord_ofNat (value : Nat) : (JsValue.ofNat value).toWord = BitVec.ofNat 32 value := by
  rw [JsValue.toWord, toNumber_ofNat]
  exact BitVec.ofInt_natCast 32 value

@[simp] theorem toIndex_add (first second : Nat) :
    ((JsValue.ofNat first).add (.ofNat second)).toIndex = first + second := rfl

theorem length_buffer (allocation : Allocation) (length : Nat) :
    (allocation.buffer length).length = length := by
  rw [Allocation.buffer, List.length_map, List.length_range]

theorem length_slice_le (values : List UInt8) (start length : Nat) :
    (slice values start length).length ≤ length := by
  rw [slice, List.length_take]
  exact Nat.min_le_left _ _

theorem length_slice {values : List UInt8} {start length : Nat}
    (inside : start + length ≤ values.length) : (slice values start length).length = length := by
  rw [slice, List.length_take, List.length_drop]
  omega

theorem overwrite_front {values data : List UInt8} :
    overwrite values 0 data = data ++ values.drop data.length := by
  rw [overwrite, List.take_zero, List.nil_append, Nat.zero_add]

/-- What a copy of a buffer leaves at the place where it begins, up to the end of the target. -/
theorem slice_copy {source target : List UInt8} {start length count : Nat} (enough : count ≤ length)
    (whole : length = source.length) :
    slice (copy source target start 0 length) start count =
      (source.take count).take (target.length - start) := by
  have all : slice source 0 (length - 0) = source := by
    rw [slice, List.drop_zero, Nat.sub_zero, whole, List.take_length]
  rw [copy, all]
  apply List.ext_getElem?
  intro index
  rw [getElem?_slice, List.getElem?_take, List.getElem?_take]
  by_cases beyond : target.length ≤ start
  · have none : target.length - start = 0 := by omega
    have same : overwrite target start (source.take 0) = target := by
      rw [List.take_zero, overwrite, List.append_nil, List.length_nil, Nat.add_zero,
        List.take_append_drop]
    rw [none, same, if_neg (Nat.not_lt_zero index), List.getElem?_eq_none (by omega), ite_self]
  · have inside : start + (source.take (target.length - start)).length ≤ target.length := by
      rw [List.length_take]
      omega
    by_cases within : index < count
    · rw [if_pos within, if_pos within, getElem?_overwrite inside, List.length_take,
        Nat.add_sub_cancel_left]
      by_cases room : index < target.length - start
      · rw [if_pos (by omega), if_pos room, List.getElem?_take_of_lt room]
      · rw [if_neg (by omega), if_neg room, List.getElem?_eq_none (by omega)]
    · rw [if_neg within, if_neg within, ite_self]

/-- The place where a call works: its position, unless that is the one that means the current place. -/
def place (file : OpenFile) (position : JsValue) : Nat :=
  if (Fs.positionOr position).toWord ≠ noPosition then (Fs.positionOr position).toWord.toNat
  else file.position

theorem seek_place (file : OpenFile) (position : JsValue) :
    (if (Fs.positionOr position).toWord ≠ noPosition then
      file.seek (Fs.positionOr position).toWord.toNat else file) =
    file.seek (place file position) := by
  rw [place]
  by_cases moved : (Fs.positionOr position).toWord ≠ noPosition
  · rw [if_pos moved, if_pos moved]
  · rw [if_neg moved, if_neg moved]
    rfl

/-- The result of a transfer that cannot be taken for an error code. -/
theorem count_resolved {name : String} {args : List Int} {count : Nat} (short : count < 2 ^ 31) :
    ccallThrowAsync name args (BitVec.ofNat 32 count).toInt = .ok count := by
  have value : (BitVec.ofNat 32 count).toInt = count := by
    rw [BitVec.toInt_eq_toNat_of_lt (by rw [BitVec.toNat_ofNat]; omega), BitVec.toNat_ofNat]
    omega
  rw [value, ccallThrowAsync, if_neg (by omega)]

variable {file : OpenFile} {descriptor : Descriptor} {allocation : Allocation}

/-- A read on a readable descriptor puts the bytes from its place on into the buffer, and leaves the
handle behind them. -/
theorem read_readable (readable : descriptor.readable = true) {buffer : List UInt8}
    {offset length : Nat} (some : length ≠ 0) (short : length < 2 ^ 31) (position : JsValue) :
    ∃ buffer', Fs.read file descriptor allocation buffer offset length position =
      (.ok ((slice file.content (place file position) length).length, buffer'),
        file.seek
          (place file position + (slice file.content (place file position) length).length)) ∧
      slice buffer' offset (slice file.content (place file position) length).length =
        (slice file.content (place file position) length).take (buffer.length - offset) := by
  have word : (JsValue.ofNat length).toWord.toNat = length := by
    rw [toWord_ofNat, BitVec.toNat_ofNat]
    omega
  have bound := length_slice_le file.content (place file position) length
  have done : bindingRead file descriptor (allocation.buffer length) (JsValue.ofNat length).toWord
      (Fs.positionOr position).toWord =
      ((BitVec.ofNat 32 (slice file.content (place file position) length).length).toInt,
        overwrite (allocation.buffer length) 0 (slice file.content (place file position) length),
        file.seek
          (place file position + (slice file.content (place file position) length).length)) := by
    rw [bindingRead, if_pos readable, seek_place, word]
    rfl
  refine ⟨copy (overwrite (allocation.buffer length) 0
    (slice file.content (place file position) length)) buffer offset 0 length, ?_, ?_⟩
  · rw [Fs.read, if_neg some]
    simp only [done]
    rw [count_resolved (by omega)]
    rfl
  · rw [slice_copy bound, overwrite_front, List.take_left]
    rw [length_overwrite (by rw [length_buffer]; omega), length_buffer]

/-- A read refuses a descriptor that is only for writing, unless nothing is asked for. -/
theorem read_refused (refused : descriptor.readable = false) {buffer : List UInt8}
    {offset length : Nat} (some : length ≠ 0) (position : JsValue) :
    ∃ exception : ErrnoException, exception.errno = EBADF ∧
      Fs.read file descriptor allocation buffer offset length position = (.error exception, file) := by
  have done : bindingRead file descriptor (allocation.buffer length) (JsValue.ofNat length).toWord
      (Fs.positionOr position).toWord = (-(EBADF : Int), allocation.buffer length, file) := by
    rw [bindingRead, refused]
    rfl
  refine ⟨errnoException EBADF "node_ext2fs_read" [descriptor.fd, descriptor.flags.toNat,
    allocation.pointer, length, (Fs.positionOr position).toNumber.getD 0], rfl, ?_⟩
  rw [Fs.read, if_neg some]
  simp only [done]
  rfl

/-- The binding gets the range of the buffer, when the offset and the length are numbers. -/
theorem writeBufferCall_range {buffer : List UInt8} {offset length : Nat}
    (inside : offset + length ≤ buffer.length) (position : JsValue) :
    Fs.writeBufferCall allocation buffer (.ofNat offset) (.ofNat length) position =
      { memory := slice buffer offset length
        length := .ofNat length
        position := Fs.positionOr position } := by
  have whole : copy buffer (allocation.buffer length) 0 offset (offset + length) =
      slice buffer offset length := by
    have all : (slice buffer offset length).take ((allocation.buffer length).length - 0) =
        slice buffer offset length := by
      rw [length_buffer, Nat.sub_zero]
      exact List.take_of_length_le (length_slice_le buffer offset length)
    rw [copy, Nat.add_sub_cancel_left, all, overwrite_front, length_slice inside,
      List.drop_eq_nil_of_le (Nat.le_of_eq (length_buffer allocation length)), List.append_nil]
  simp only [Fs.writeBufferCall, isNumber_ofNat, if_true, toIndex_ofNat, toIndex_add, whole]

/-- Where a write puts its bytes: an appending descriptor always writes at the end. -/
def writePlace (file : OpenFile) (descriptor : Descriptor) (position : JsValue) : Nat :=
  if descriptor.appends then file.content.length else place file position

/-- A write on a writable descriptor stores the range of the buffer. -/
theorem writeBuffer_writable (writable : descriptor.writable = true) {buffer : List UInt8}
    {offset length : Nat} (inside : offset + length ≤ buffer.length) (short : length < 2 ^ 31)
    (position : JsValue) :
    Fs.writeBuffer file descriptor allocation buffer (.ofNat offset) (.ofNat length) position =
      (.ok length,
        (file.seek (writePlace file descriptor position)).put (slice buffer offset length)) := by
  have bytes : (slice buffer offset length).take (BitVec.ofNat 32 length).toNat =
      slice buffer offset length := by
    apply List.take_of_length_le
    rw [BitVec.toNat_ofNat]
    have := length_slice_le buffer offset length
    omega
  rw [Fs.writeBuffer, writeBufferCall_range inside, Fs.WriteCall.perform]
  simp only [bindingWriteAs, if_pos writable, toWord_ofNat, writePlace]
  by_cases appends : descriptor.appends
  · simp only [if_pos appends, bytes, count_resolved short]
    rfl
  · simp only [if_neg appends, bindingWrite, seek_place, bytes, count_resolved short]

/-- A write refuses a descriptor that is only for reading. -/
theorem writeBuffer_refused (refused : descriptor.writable = false) {buffer : List UInt8}
    (offset length position : JsValue) :
    ∃ exception : ErrnoException, exception.errno = EBADF ∧
      Fs.writeBuffer file descriptor allocation buffer offset length position =
        (.error exception, file) := by
  have done (call : Fs.WriteCall) : ∃ exception : ErrnoException, exception.errno = EBADF ∧
      call.perform file descriptor allocation = (.error exception, file) := by
    refine ⟨errnoException EBADF "node_ext2fs_write" [descriptor.fd, descriptor.flags.toNat,
      allocation.pointer, call.length.toNumber.getD 0, call.position.toNumber.getD 0], rfl, ?_⟩
    rw [Fs.WriteCall.perform, bindingWriteAs, refused]
    rfl
  exact done _

end NodeExt2fs.Transfers
