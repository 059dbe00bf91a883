import Mathlib.Data.List.Basic

/-!
Cells with numbers, parts of them that lie apart, and what is known of their contents.
-/

namespace NodeExt2fs.Structures

/-- The contents of the cells by their numbers. -/
abbrev Storage (A : Type) := Nat → A

variable {A : Type}

namespace Storage

/-- The contents of a range. -/
def range (storage : Storage A) (start length : Nat) : List A :=
  (List.range length).map fun index => storage (start + index)

/-- The cells with new values from a number on. -/
def put (storage : Storage A) (start : Nat) (values : List A) : Storage A := fun place =>
  if start ≤ place then values[place - start]?.getD (storage place) else storage place

/-- The cells from an offset on, with numbers of their own. -/
def part (storage : Storage A) (offset : Nat) : Storage A := fun place => storage (offset + place)

/-- The cells outside a range are the same. -/
def SameOutside (start length : Nat) (storage storage' : Storage A) : Prop :=
  ∀ place, place < start ∨ start + length ≤ place → storage' place = storage place

variable {storage storage' : Storage A} {start length offset : Nat}

@[simp] theorem length_range (storage : Storage A) (start length : Nat) :
    (storage.range start length).length = length := by
  rw [range, List.length_map, List.length_range]

theorem getElem?_range (storage : Storage A) (start : Nat) {length index : Nat}
    (inside : index < length) : (storage.range start length)[index]? = some (storage (start + index)) := by
  rw [range, List.getElem?_map, List.getElem?_range inside]
  rfl

theorem SameOutside.refl (start length : Nat) (storage : Storage A) :
    SameOutside start length storage storage := fun _ _ => rfl

theorem SameOutside.trans {storage'' : Storage A} (first : SameOutside start length storage storage')
    (second : SameOutside start length storage' storage'') : SameOutside start length storage storage'' :=
  fun place outside => (second place outside).trans (first place outside)

/-- The first new values are read back. -/
theorem range_put (storage : Storage A) (start : Nat) {values : List A} {length : Nat}
    (fits : length ≤ values.length) : (storage.put start values).range start length = values.take length := by
  apply List.ext_getElem?
  intro index
  by_cases inside : index < length
  · have known : index < values.length := by omega
    rw [getElem?_range _ _ inside, List.getElem?_take_of_lt inside, put, if_pos (by omega),
      Nat.add_sub_cancel_left, List.getElem?_eq_getElem known]
    rfl
  · rw [List.getElem?_eq_none (by simp; omega), List.getElem?_eq_none (by simp; omega)]

/-- New values change no other cell. -/
theorem sameOutside_put (storage : Storage A) (start : Nat) (values : List A) :
    SameOutside start values.length storage (storage.put start values) := by
  intro place outside
  unfold put
  by_cases before : start ≤ place
  · rw [if_pos before, List.getElem?_eq_none (by omega)]
    rfl
  · rw [if_neg before]

theorem put_inside (storage : Storage A) {start place : Nat} {values : List A} (lower : start ≤ place)
    (upper : place < start + values.length) :
    some (storage.put start values place) = values[place - start]? := by
  have inside : place - start < values.length := by omega
  rw [put, if_pos lower, List.getElem?_eq_getElem inside]
  rfl

/-- A range of a part is a range further on. -/
theorem range_part (storage : Storage A) (offset start length : Nat) :
    (storage.part offset).range start length = storage.range (offset + start) length := by
  unfold range part
  simp only [Nat.add_assoc]

theorem part_put (storage : Storage A) (offset start : Nat) (values : List A) :
    (storage.put (offset + start) values).part offset = (storage.part offset).put start values := by
  funext place
  unfold part put
  by_cases before : start ≤ place
  · rw [if_pos (by omega), if_pos before, Nat.add_sub_add_left]
  · rw [if_neg (by omega), if_neg before]

theorem SameOutside.part (same : SameOutside (offset + start) length storage storage') :
    SameOutside start length (storage.part offset) (storage'.part offset) :=
  fun place outside => same (offset + place) (by omega)

/-- A range inside one part lies outside another one that is apart from it. -/
theorem SameOutside.part_of_apart {offset' size size' : Nat}
    (same : SameOutside (offset + start) length storage storage') (inside : start + length ≤ size)
    (apart : offset + size ≤ offset' ∨ offset' + size' ≤ offset) {place : Nat} (within : place < size') :
    storage'.part offset' place = storage.part offset' place :=
  same (offset' + place) (by omega)

end Storage

/-- What is known of the cells. -/
abbrev Knowledge (A : Type) := Nat → Option A

namespace Knowledge

def learn (known : Knowledge A) (start : Nat) (values : List A) : Knowledge A := fun place =>
  if start ≤ place ∧ place < start + values.length then values[place - start]? else known place

def forget (known : Knowledge A) (start length : Nat) : Knowledge A := fun place =>
  if start ≤ place ∧ place < start + length then none else known place

/-- What is known is so, and is about the first cells. -/
def Describes (known : Knowledge A) (size : Nat) (storage : Storage A) : Prop :=
  ∀ place value, known place = some value → place < size ∧ storage place = value

/-- The values, from a number on, are those that are known. -/
def Matches (known : Knowledge A) (start : Nat) (values : List A) : Prop :=
  ∀ index < values.length, ∀ value, known (start + index) = some value → values[index]? = some value

variable {known : Knowledge A} {size start length : Nat} {storage storage' : Storage A}

/-- Cells that are the same are known as before. -/
theorem Describes.congr (describes : known.Describes size storage)
    (same : ∀ place < size, storage' place = storage place) : known.Describes size storage' := by
  intro place value found
  obtain ⟨inside, held⟩ := describes place value found
  exact ⟨inside, (same place inside).trans held⟩

theorem Describes.learn (describes : known.Describes size storage) {values : List A}
    (inside : start + values.length ≤ size) :
    (known.learn start values).Describes size (storage.put start values) := by
  intro place value found
  unfold Knowledge.learn at found
  by_cases within : start ≤ place ∧ place < start + values.length
  · rw [if_pos within, ← Storage.put_inside storage within.1 within.2] at found
    exact ⟨by omega, Option.some.inj found⟩
  · rw [if_neg within] at found
    obtain ⟨below, held⟩ := describes place value found
    exact ⟨below, (Storage.sameOutside_put storage start values place (by omega)).trans held⟩

/-- What is read is known from then on. -/
theorem Describes.learn_range (describes : known.Describes size storage) (start length : Nat)
    (inside : start + length ≤ size) :
    (known.learn start (storage.range start length)).Describes size storage := by
  intro place value found
  unfold Knowledge.learn at found
  rw [Storage.length_range] at found
  by_cases within : start ≤ place ∧ place < start + length
  · rw [if_pos within, Storage.getElem?_range _ _ (by omega), Nat.add_sub_cancel' within.1] at found
    exact ⟨by omega, Option.some.inj found⟩
  · rw [if_neg within] at found
    exact describes place value found

/-- What may have changed is forgotten. -/
theorem Describes.forget (describes : known.Describes size storage)
    (same : Storage.SameOutside start length storage storage') :
    (known.forget start length).Describes size storage' := by
  intro place value found
  unfold Knowledge.forget at found
  by_cases within : start ≤ place ∧ place < start + length
  · rw [if_pos within] at found
    cases found
  · rw [if_neg within] at found
    obtain ⟨below, held⟩ := describes place value found
    exact ⟨below, (same place (by omega)).trans held⟩

theorem Describes.matches_range (describes : known.Describes size storage) (start length : Nat) :
    known.Matches start (storage.range start length) := by
  intro index inside value found
  rw [Storage.length_range] at inside
  rw [Storage.getElem?_range storage start inside, (describes (start + index) value found).2]

end Knowledge

end NodeExt2fs.Structures
