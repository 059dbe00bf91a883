import Mathlib.Data.List.Basic

/-!
Parts of a list that are read and overwritten in place.
-/

namespace NodeExt2fs.Structures

variable {A : Type}

/-- The part of a list that starts at an index and has the given length. -/
def slice (values : List A) (start length : Nat) : List A := (values.drop start).take length

/-- The list with new values from an index on. -/
def overwrite (values : List A) (start : Nat) (data : List A) : List A :=
  values.take start ++ data ++ values.drop (start + data.length)

theorem length_overwrite {values data : List A} {start : Nat}
    (inside : start + data.length ≤ values.length) :
    (overwrite values start data).length = values.length := by
  simp only [overwrite, List.length_append, List.length_take, List.length_drop]
  omega

theorem getElem?_slice (values : List A) (start length index : Nat) :
    (slice values start length)[index]? =
      if index < length then values[start + index]? else none := by
  rw [slice, List.getElem?_take, List.getElem?_drop]

theorem getElem?_overwrite {values data : List A} {start : Nat}
    (inside : start + data.length ≤ values.length) (index : Nat) :
    (overwrite values start data)[index]? =
      if start ≤ index ∧ index < start + data.length then data[index - start]? else values[index]? := by
  have front : (values.take start).length = start := by
    rw [List.length_take]
    omega
  have middle : (values.take start ++ data).length = start + data.length := by
    rw [List.length_append, front]
  unfold overwrite
  by_cases before : index < start
  · rw [if_neg (by omega), List.getElem?_append_left (by omega), List.getElem?_append_left (by omega),
      List.getElem?_take_of_lt before]
  · by_cases within : index < start + data.length
    · rw [if_pos (by omega), List.getElem?_append_left (by omega),
        List.getElem?_append_right (by omega), front]
    · rw [if_neg (by omega), List.getElem?_append_right (by omega), middle, List.getElem?_drop]
      congr 1
      omega

/-- A slice apart from the new values keeps its own. -/
theorem slice_overwrite_of_apart {values data : List A} {start place length : Nat}
    (inside : start + data.length ≤ values.length)
    (apart : place + length ≤ start ∨ start + data.length ≤ place) :
    slice (overwrite values start data) place length = slice values place length := by
  apply List.ext_getElem?
  intro index
  rw [getElem?_slice, getElem?_slice]
  by_cases within : index < length
  · rw [if_pos within, if_pos within, getElem?_overwrite inside, if_neg (by omega)]
  · rw [if_neg within, if_neg within]

/-- A slice at the start of the new values reads them back. -/
theorem slice_overwrite_self {values data : List A} {start length : Nat}
    (inside : start + data.length ≤ values.length) (short : length ≤ data.length) :
    slice (overwrite values start data) start length = data.take length := by
  apply List.ext_getElem?
  intro index
  rw [getElem?_slice, List.getElem?_take]
  by_cases within : index < length
  · rw [if_pos within, if_pos within, getElem?_overwrite inside, if_pos (by omega)]
    congr 1
    omega
  · rw [if_neg within, if_neg within]

end NodeExt2fs.Structures
