import NodeExt2fs.Proof.Transfers.Replies

/-!
This file compares the range that `write` is asked for with the bytes that it hands over.
-/

namespace NodeExt2fs.Transfers
open Glue Js Structures

/-- The argument for a length, which may be omitted. -/
def lengthArgument : Option Nat → JsValue
  | none => .undefined
  | some length => .ofNat length

/-- The filesystem is asked to write the range of the buffer, up to its end without a length. -/
def HonoursRange (allocation : Allocation) (buffer : List UInt8) (offset : Nat)
    (length : Option Nat) (position : JsValue) : Prop :=
  (Fs.writeCall allocation (.buffer buffer) (.ofNat offset) (lengthArgument length) position).bytes =
    slice buffer offset (length.getD (buffer.length - offset))

/-- The front of the buffer has the bytes of the range, or nothing is left without a length. -/
def FrontHas (buffer : List UInt8) (offset : Nat) : Option Nat → Prop
  | none => offset = buffer.length
  | some length => slice buffer 0 length = slice buffer offset length

/-- With a length, the numeric offset is lost and the front of the buffer is written. -/
theorem bytes_given {allocation : Allocation} {buffer : List UInt8} {length : Nat}
    (inside : length ≤ buffer.length) (short : length < 2 ^ 32) (offset : Nat) (position : JsValue) :
    (Fs.writeCall allocation (.buffer buffer) (.ofNat offset) (.ofNat length) position).bytes =
      slice buffer 0 length := by
  have same : Fs.writeCall allocation (.buffer buffer) (.ofNat offset) (.ofNat length) position =
      Fs.writeBufferCall allocation buffer (.ofNat 0) (.ofNat length) position := rfl
  have word : (BitVec.ofNat 32 length).toNat = length := by
    rw [BitVec.toNat_ofNat]
    omega
  rw [same, writeBufferCall_range (by omega), Fs.WriteCall.bytes, toWord_ofNat, word]
  exact List.take_of_length_le (length_slice_le buffer 0 length)

/-- Without a length, the length is not a number and nothing is written. -/
theorem bytes_omitted (allocation : Allocation) (buffer : List UInt8) (offset : Nat)
    (position : JsValue) :
    (Fs.writeCall allocation (.buffer buffer) (.ofNat offset) .undefined position).bytes = [] := by
  have none : (Fs.writeCall allocation (.buffer buffer) (.ofNat offset) .undefined position).length =
      .number none := rfl
  rw [Fs.WriteCall.bytes, none]
  rfl

/-- A write with a numeric offset hands over the right bytes just when the front of the buffer has
them. -/
theorem honoursRange_iff {allocation : Allocation} {buffer : List UInt8} {offset : Nat}
    {length : Option Nat} {position : JsValue} (within : offset ≤ buffer.length)
    (inside : ∀ count ∈ length, count ≤ buffer.length - offset ∧ count < 2 ^ 32) :
    HonoursRange allocation buffer offset length position ↔ FrontHas buffer offset length := by
  cases length with
  | none =>
      rw [HonoursRange, lengthArgument, bytes_omitted, Option.getD_none, FrontHas]
      have whole : (slice buffer offset (buffer.length - offset)).length = buffer.length - offset :=
        length_slice (by omega)
      apply Iff.intro
      · intro empty
        rw [← empty, List.length_nil] at whole
        omega
      · intro last
        rw [last, Nat.sub_self] at whole ⊢
        exact (List.eq_nil_of_length_eq_zero whole).symm
  | some count =>
      obtain ⟨fits, short⟩ := inside count rfl
      rw [HonoursRange, lengthArgument, bytes_given (by omega) short, Option.getD_some, FrontHas]

/-- A whole buffer is written. -/
theorem honoursRange_whole :
    HonoursRange ⟨8, fun _ => 0⟩ [1, 2, 3] 0 (some 3) .null :=
  (honoursRange_iff (by decide) (by intro count given; cases given; decide)).mpr rfl

/-- The second byte of a buffer is asked for, and the first one is written. -/
theorem second_byte_not_written :
    ¬∀ (allocation : Allocation) (buffer : List UInt8) (offset : Nat) (length : Option Nat)
      (position : JsValue), offset ≤ buffer.length →
        (∀ count ∈ length, count ≤ buffer.length - offset ∧ count < 2 ^ 32) →
          HonoursRange allocation buffer offset length position := by
  intro honours
  have second := honours ⟨8, fun _ => 0⟩ [1, 2] 1 (some 1) .null (by decide)
    (by intro count given; cases given; decide)
  exact absurd second (by unfold HonoursRange; decide)

end NodeExt2fs.Transfers
