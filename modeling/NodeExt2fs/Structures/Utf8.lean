import Mathlib.Data.List.DropRight
import Mathlib.Data.Char

/-!
Texts as bytes: the encoding, and the decoding that replaces what is not an encoding.
-/

namespace NodeExt2fs.Structures

/-- The bytes of a text. -/
def encodeUtf8 (text : List Char) : List UInt8 := text.flatMap String.utf8EncodeChar

/-- The character that the bytes begin with. -/
def firstChar? (bytes : List UInt8) : Option Char := bytes.toByteArray.utf8DecodeChar? 0

/-- How many bytes may follow a first byte, and the range of the next one. -/
def continuation (lead : UInt8) : Nat × UInt8 × UInt8 :=
  if 0xC2 ≤ lead ∧ lead ≤ 0xDF then (1, 0x80, 0xBF)
  else if lead = 0xE0 then (2, 0xA0, 0xBF)
  else if lead = 0xED then (2, 0x80, 0x9F)
  else if 0xE1 ≤ lead ∧ lead ≤ 0xEF then (2, 0x80, 0xBF)
  else if lead = 0xF0 then (3, 0x90, 0xBF)
  else if lead = 0xF4 then (3, 0x80, 0x8F)
  else if 0xF1 ≤ lead ∧ lead ≤ 0xF3 then (3, 0x80, 0xBF)
  else (0, 0x80, 0xBF)

/-- How many of the bytes continue a character. -/
def continued : Nat → UInt8 → UInt8 → List UInt8 → Nat
  | wanted + 1, low, high, byte :: rest =>
      if low ≤ byte ∧ byte ≤ high then continued wanted 0x80 0xBF rest + 1 else 0
  | _, _, _, _ => 0

/-- The length of what one replacement character stands for: a longest beginning of a character. -/
def replaced : List UInt8 → Nat
  | [] => 0
  | lead :: rest =>
      let (wanted, low, high) := continuation lead
      continued wanted low high rest + 1

/-- The decoder, for at most the given number of characters. -/
def decodeChars : Nat → List UInt8 → List Char
  | 0, _ | _, [] => []
  | count + 1, bytes =>
      match firstChar? bytes with
      | some char => char :: decodeChars count (bytes.drop char.utf8Size)
      | none => '\uFFFD' :: decodeChars count (bytes.drop (replaced bytes))

def decodeUtf8 (bytes : List UInt8) : List Char := decodeChars bytes.length bytes

@[simp] theorem encodeUtf8_nil : encodeUtf8 [] = [] := rfl

@[simp] theorem encodeUtf8_cons (char : Char) (text : List Char) :
    encodeUtf8 (char :: text) = String.utf8EncodeChar char ++ encodeUtf8 text := List.flatMap_cons

@[simp] theorem encodeUtf8_append (first second : List Char) :
    encodeUtf8 (first ++ second) = encodeUtf8 first ++ encodeUtf8 second := List.flatMap_append

theorem firstChar_encode (char : Char) (bytes : List UInt8) :
    firstChar? (String.utf8EncodeChar char ++ bytes) = some char := by
  rw [firstChar?, List.toByteArray_append]
  exact ByteArray.utf8DecodeChar?_utf8EncodeChar_append

/-- A text has at most as many characters as bytes. -/
theorem length_le_encodeUtf8 (text : List Char) : text.length ≤ (encodeUtf8 text).length := by
  induction text with
  | nil => simp
  | cons char text ih =>
      have positive := char.utf8Size_pos
      simp
      omega

theorem decodeChars_encodeUtf8 (text : List Char) {count : Nat} (enough : text.length ≤ count) :
    decodeChars count (encodeUtf8 text) = text := by
  induction text generalizing count with
  | nil => cases count <;> rfl
  | cons char text ih =>
      cases count with
      | zero => simp at enough
      | succ count =>
          have nonempty : ∃ byte rest, encodeUtf8 (char :: text) = byte :: rest := by
            cases bytes : encodeUtf8 (char :: text) with
            | nil => simp at bytes
            | cons byte rest => exact ⟨byte, rest, rfl⟩
          obtain ⟨byte, rest, bytes⟩ := nonempty
          have first : firstChar? (byte :: rest) = some char := by
            rw [← bytes, encodeUtf8_cons]
            exact firstChar_encode char _
          have tail : (byte :: rest).drop char.utf8Size = encodeUtf8 text := by
            rw [← bytes, encodeUtf8_cons]
            exact List.drop_left' (String.length_utf8EncodeChar char)
          have step : decodeChars (count + 1) (byte :: rest) =
              char :: decodeChars count ((byte :: rest).drop char.utf8Size) := by
            simp only [decodeChars, first]
          rw [bytes, step, tail, ih (by simpa using enough)]

/-- The decoder inverts the encoding. -/
@[simp] theorem decodeUtf8_encodeUtf8 (text : List Char) : decodeUtf8 (encodeUtf8 text) = text :=
  decodeChars_encodeUtf8 text (length_le_encodeUtf8 text)

/-- A character of one byte. -/
theorem encode_ascii {mark : Char} (ascii : mark.toNat < 0x80) :
    String.utf8EncodeChar mark = [UInt8.ofNat mark.toNat] := by
  have small : mark.val.toNat ≤ 0x7f := Nat.le_of_lt_succ ascii
  rw [String.utf8EncodeChar]
  exact if_pos small

/-- A character of several bytes has only bytes of the second half. -/
theorem bytes_of_wide {char : Char} (wide : ¬ char.val.toNat ≤ 0x7f) :
    ∀ byte ∈ String.utf8EncodeChar char, 0x80 ≤ byte.toNat := by
  have high (value size base : Nat) (some : 0 < size) (above : 0x80 ≤ base)
      (fits : size + base ≤ 0x100) : 0x80 ≤ (UInt8.ofNat (value % size + base)).toNat := by
    have rest := Nat.mod_lt value some
    rw [UInt8.toNat_ofNat', Nat.mod_eq_of_lt (by omega)]
    omega
  intro byte
  simp only [String.utf8EncodeChar, if_neg wide]
  split
  · simp only [List.mem_cons, List.not_mem_nil, or_false]
    rintro (rfl | rfl) <;> exact high _ _ _ (by decide) (by decide) (by decide)
  · split
    · simp only [List.mem_cons, List.not_mem_nil, or_false]
      rintro (rfl | rfl | rfl) <;> exact high _ _ _ (by decide) (by decide) (by decide)
    · simp only [List.mem_cons, List.not_mem_nil, or_false]
      rintro (rfl | rfl | rfl | rfl) <;> exact high _ _ _ (by decide) (by decide) (by decide)

/-- A character of several bytes ends with a byte of the second half. -/
theorem last_of_wide {char : Char} (wide : ¬ char.val.toNat ≤ 0x7f) :
    0x80 ≤ ((String.utf8EncodeChar char).getLast String.utf8EncodeChar_ne_nil).toNat :=
  bytes_of_wide wide _ (List.getLast_mem _)

/-- A byte of the first half that ends a character is all of it. -/
theorem char_of_last {char mark : Char} (ascii : mark.toNat < 0x80)
    (last : (String.utf8EncodeChar char).getLast String.utf8EncodeChar_ne_nil =
      UInt8.ofNat mark.toNat) : char = mark := by
  have number : (UInt8.ofNat mark.toNat).toNat = mark.toNat := by
    rw [UInt8.toNat_ofNat']
    omega
  by_cases small : char.val.toNat ≤ 0x7f
  · have single : String.utf8EncodeChar char = [UInt8.ofNat char.toNat] :=
      encode_ascii (Nat.lt_succ_of_le small)
    simp only [single, List.getLast_singleton] at last
    have bits := congrArg UInt8.toNat last
    rw [UInt8.toNat_ofNat', number] at bits
    have bound : char.toNat ≤ 0x7f := small
    apply Char.toNat_inj.mp
    omega
  · have wide := last_of_wide small
    rw [last, number] at wide
    omega

/-- Characters at the end that one byte encodes are dropped as bytes. -/
theorem rdropWhile_encodeUtf8 {mark : Char} (ascii : mark.toNat < 0x80) (text : List Char) :
    (encodeUtf8 text).rdropWhile (fun byte => byte = UInt8.ofNat mark.toNat) =
      encodeUtf8 (text.rdropWhile fun char => char = mark) := by
  induction text using List.reverseRecOn with
  | nil => simp
  | append_singleton text char ih =>
      rw [encodeUtf8_append]
      by_cases same : char = mark
      · have byte : encodeUtf8 [char] = [UInt8.ofNat mark.toNat] := by
          rw [same]
          simp [encode_ascii ascii]
        rw [byte, List.rdropWhile_concat_pos _ _ _ (by simp),
          List.rdropWhile_concat_pos _ _ _ (by simp [same]), ih]
      · rw [List.rdropWhile_concat_neg _ _ _ (by simp [same])]
        have whole : encodeUtf8 text ++ encodeUtf8 [char] = encodeUtf8 (text ++ [char]) := by simp
        rw [whole, List.rdropWhile_eq_self_iff]
        intro nonempty
        rw [decide_eq_true_eq]
        intro last
        apply same
        apply char_of_last ascii
        rw [← last]
        simp

/-- Only the null character is encoded with a null byte. -/
theorem zero_mem_encode_iff (char : Char) : 0 ∈ String.utf8EncodeChar char ↔ char = '\x00' := by
  by_cases small : char.val.toNat ≤ 0x7f
  · have single : String.utf8EncodeChar char = [UInt8.ofNat char.toNat] :=
      encode_ascii (Nat.lt_succ_of_le small)
    have bound : char.toNat ≤ 0x7f := small
    rw [single, List.mem_singleton, ← Char.toNat_inj]
    apply Iff.intro
    · intro zero
      have bits := congrArg UInt8.toNat zero
      rw [UInt8.toNat_ofNat'] at bits
      change 0 = _ at bits
      change char.toNat = 0
      omega
    · intro zero
      rw [zero]
      rfl
  · apply iff_of_false
    · intro member
      exact absurd (bytes_of_wide small 0 member) (by decide)
    · intro null
      rw [null] at small
      exact small (Nat.zero_le _)

theorem zero_mem_encodeUtf8_iff (text : List Char) : 0 ∈ encodeUtf8 text ↔ '\x00' ∈ text := by
  rw [encodeUtf8, List.mem_flatMap]
  apply Iff.intro
  · rintro ⟨char, member, zero⟩
    exact (zero_mem_encode_iff char).mp zero ▸ member
  · intro member
    exact ⟨'\x00', member, (zero_mem_encode_iff _).mpr rfl⟩

/-- What the decoder reads first is at the beginning of the bytes. -/
theorem firstChar_eq_some {bytes : List UInt8} {char : Char} (first : firstChar? bytes = some char) :
    bytes = String.utf8EncodeChar char ++ bytes.drop char.utf8Size := by
  obtain ⟨rest, split⟩ := ByteArray.exists_of_utf8DecodeChar?_eq_some first
  have whole : bytes = String.utf8EncodeChar char ++ rest.data.toList := by
    have data := congrArg (fun array : ByteArray => array.data.toList) split
    simpa using data
  have front : (String.utf8EncodeChar char).length = char.utf8Size := String.length_utf8EncodeChar char
  have tail : bytes.drop char.utf8Size = rest.data.toList := by
    rw [whole]
    exact List.drop_left' front
  rw [tail]
  exact whole

/-- No null byte continues a character. -/
theorem zero_not_mem_continued {wanted : Nat} {low high : UInt8} (second : 0x80 ≤ low)
    (bytes : List UInt8) : 0 ∉ bytes.take (continued wanted low high bytes) := by
  induction bytes generalizing wanted low high with
  | nil => simp
  | cons byte rest ih =>
      cases wanted with
      | zero => simp [continued]
      | succ wanted =>
          rw [continued]
          by_cases inside : low ≤ byte ∧ byte ≤ high
          · rw [if_pos inside, List.take_succ_cons, List.mem_cons, not_or]
            refine ⟨?_, ih (le_refl 0x80)⟩
            intro zero
            have bound := UInt8.le_trans second inside.1
            rw [← zero] at bound
            exact absurd bound (by decide)
          · rw [if_neg inside]
            simp

theorem continuation_low (lead : UInt8) : 0x80 ≤ (continuation lead).2.1 := by
  unfold continuation
  repeat' split
  all_goals decide

/-- The bytes that one replacement character stands for have no null byte. -/
theorem zero_mem_replaced_iff {bytes : List UInt8} (none : firstChar? bytes = none) :
    0 ∈ bytes ↔ 0 ∈ bytes.drop (replaced bytes) := by
  cases bytes with
  | nil => simp
  | cons lead rest =>
      have nonzero : (0 : UInt8) ≠ lead := by
        intro zero
        have first : firstChar? (lead :: rest) = some '\x00' := zero ▸ firstChar_encode '\x00' rest
        rw [first] at none
        cases none
      have inner := @zero_not_mem_continued (continuation lead).1 _ (continuation lead).2.2
        (continuation_low lead) rest
      rw [replaced, List.drop_succ_cons, List.mem_cons, or_iff_right nonzero]
      conv_lhs => rw [← List.take_append_drop (continued (continuation lead).1
        (continuation lead).2.1 (continuation lead).2.2 rest) rest]
      rw [List.mem_append, or_iff_right inner]

theorem zero_mem_decodeChars_iff {count : Nat} {bytes : List UInt8} (enough : bytes.length ≤ count) :
    '\x00' ∈ decodeChars count bytes ↔ 0 ∈ bytes := by
  induction count generalizing bytes with
  | zero =>
      rw [List.length_eq_zero_iff.mp (Nat.le_zero.mp enough)]
      simp [decodeChars]
  | succ count ih =>
      cases bytes with
      | nil => simp [decodeChars]
      | cons lead rest =>
          cases first : firstChar? (lead :: rest) with
          | some char =>
              have positive := char.utf8Size_pos
              have shorter : ((lead :: rest).drop char.utf8Size).length ≤ count := by
                rw [List.length_drop]
                omega
              have step : decodeChars (count + 1) (lead :: rest) =
                  char :: decodeChars count ((lead :: rest).drop char.utf8Size) := by
                simp only [decodeChars, first]
              rw [step, List.mem_cons, ih shorter, firstChar_eq_some first, List.mem_append,
                zero_mem_encode_iff, ← firstChar_eq_some first]
              exact or_congr eq_comm Iff.rfl
          | none =>
              have shorter : ((lead :: rest).drop (replaced (lead :: rest))).length ≤ count := by
                rw [List.length_drop, replaced]
                simp only [List.length_cons] at enough ⊢
                omega
              have step : decodeChars (count + 1) (lead :: rest) =
                  '\uFFFD' :: decodeChars count ((lead :: rest).drop (replaced (lead :: rest))) := by
                simp only [decodeChars, first]
              rw [step, List.mem_cons, ih shorter, or_iff_right (by decide),
                ← zero_mem_replaced_iff first]

/-- A text has a null character if and only if its bytes have a null byte. -/
theorem zero_mem_decodeUtf8_iff (bytes : List UInt8) : '\x00' ∈ decodeUtf8 bytes ↔ 0 ∈ bytes :=
  zero_mem_decodeChars_iff (le_refl _)

end NodeExt2fs.Structures
