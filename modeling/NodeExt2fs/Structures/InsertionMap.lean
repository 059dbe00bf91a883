import Mathlib.Data.List.Nodup

/-!
Maps that keep their entries in the order of the first insertion of each key.
-/

namespace NodeExt2fs.Structures

variable {Key Value : Type}

/-- The entries of a map, with at most one for each key. -/
structure InsertionMap (Key Value : Type) where
  entries : List (Key × Value)
  nodup : (entries.map Prod.fst).Nodup

namespace InsertionMap

def empty : InsertionMap Key Value := ⟨[], List.nodup_nil⟩

def keys (map : InsertionMap Key Value) : List Key := map.entries.map Prod.fst

variable [DecidableEq Key]

def has (map : InsertionMap Key Value) (key : Key) : Bool := key ∈ map.keys

def get (map : InsertionMap Key Value) (key : Key) : Option Value := map.entries.lookup key

/-- The entries with a new value for a key that is there. -/
def replaced (entries : List (Key × Value)) (key : Key) (value : Value) : List (Key × Value) :=
  entries.map fun entry => if entry.1 = key then (key, value) else entry

theorem keys_replaced (entries : List (Key × Value)) (key : Key) (value : Value) :
    (replaced entries key value).map Prod.fst = entries.map Prod.fst := by
  rw [replaced, List.map_map]
  apply List.map_congr_left
  intro entry _
  by_cases same : entry.1 = key
  · simp [same]
  · simp [same]

/-- A key that is there keeps its place, and a new key comes last. -/
def set (map : InsertionMap Key Value) (key : Key) (value : Value) : InsertionMap Key Value :=
  if there : key ∈ map.keys then
    ⟨replaced map.entries key value, by
      rw [keys_replaced]
      exact map.nodup⟩
  else
    ⟨map.entries ++ [(key, value)], by
      rw [List.map_append]
      exact map.nodup.append (List.nodup_singleton key) (List.disjoint_singleton.mpr there)⟩

def delete (map : InsertionMap Key Value) (key : Key) : InsertionMap Key Value :=
  ⟨map.entries.filter fun entry => entry.1 ≠ key, map.nodup.sublist (List.filter_sublist.map _)⟩

theorem has_iff (map : InsertionMap Key Value) (key : Key) : map.has key ↔ key ∈ map.keys :=
  decide_eq_true_iff

theorem mem_keys_of_get {map : InsertionMap Key Value} {key : Key} {value : Value}
    (found : map.get key = some value) : key ∈ map.keys := by
  obtain ⟨before, after, entries, _⟩ := List.lookup_eq_some_iff.mp found
  rw [keys, entries, List.map_append]
  exact List.mem_append_right _ List.mem_cons_self

theorem lookup_cons_ite (key key' : Key) (value : Value) (rest : List (Key × Value)) :
    ((key, value) :: rest).lookup key' = if key' = key then some value else rest.lookup key' := by
  rw [List.lookup_cons]
  by_cases same : key' = key
  · rw [if_pos same, beq_iff_eq.mpr same]
  · rw [if_neg same, beq_false_of_ne same]

theorem lookup_replaced (entries : List (Key × Value)) (key key' : Key) (value : Value) :
    (replaced entries key value).lookup key' =
      if key' = key then (entries.lookup key).map fun _ => value else entries.lookup key' := by
  induction entries with
  | nil => simp [replaced]
  | cons entry rest ih =>
      obtain ⟨first, old⟩ := entry
      rw [replaced, List.map_cons]
      change List.lookup key' ((if first = key then (key, value) else (first, old)) ::
        replaced rest key value) = _
      by_cases here : first = key
      · rw [if_pos here, here, lookup_cons_ite, lookup_cons_ite, lookup_cons_ite, ih, if_pos rfl]
        by_cases same : key' = key
        · rw [if_pos same, if_pos same]
          rfl
        · rw [if_neg same, if_neg same, if_neg same, if_neg same]
      · rw [if_neg here, lookup_cons_ite, lookup_cons_ite, lookup_cons_ite, ih,
          if_neg (Ne.symm here)]
        by_cases same : key' = key
        · rw [if_pos same, if_pos same, if_neg (same ▸ Ne.symm here)]
        · rw [if_neg same, if_neg same]

/-- The value that was set last is the one that is found. -/
theorem get_set_self (map : InsertionMap Key Value) (key : Key) (value : Value) :
    (map.set key value).get key = some value := by
  unfold set get
  by_cases there : key ∈ map.keys
  · rw [dif_pos there, lookup_replaced, if_pos rfl]
    cases found : map.entries.lookup key with
    | some old => rfl
    | none =>
        obtain ⟨entry, member, same⟩ := List.mem_map.mp there
        have differs := List.lookup_eq_none_iff.mp found entry member
        simp [same] at differs
  · rw [dif_neg there, List.lookup_append, List.lookup_eq_none_iff.mpr]
    · simp
    · intro entry member
      simp only [bne_iff_ne, ne_eq]
      exact fun same => there (same ▸ List.mem_map_of_mem member)

theorem get_set_of_ne (map : InsertionMap Key Value) {key key' : Key} (value : Value)
    (other : key' ≠ key) : (map.set key value).get key' = map.get key' := by
  unfold set get
  by_cases there : key ∈ map.keys
  · rw [dif_pos there, lookup_replaced, if_neg other]
  · rw [dif_neg there, List.lookup_append, lookup_cons_ite, if_neg other]
    simp

theorem get_delete_of_ne (map : InsertionMap Key Value) {key key' : Key} (other : key' ≠ key) :
    (map.delete key).get key' = map.get key' := by
  unfold delete get
  dsimp only
  induction map.entries with
  | nil => rfl
  | cons entry rest ih =>
      obtain ⟨first, value⟩ := entry
      rw [lookup_cons_ite]
      by_cases here : first = key
      · rw [List.filter_cons_of_neg (by simp [here]), ih, here, if_neg other]
      · rw [List.filter_cons_of_pos (by simp [here]), lookup_cons_ite, ih]

theorem mem_keys_set (map : InsertionMap Key Value) (key key' : Key) (value : Value) :
    key' ∈ (map.set key value).keys ↔ key' = key ∨ key' ∈ map.keys := by
  unfold set
  by_cases there : key ∈ map.keys
  · rw [dif_pos there, keys, keys_replaced]
    apply Iff.intro
    · exact Or.inr
    · intro either
      rcases either with same | old
      · rw [same]
        exact there
      · exact old
  · rw [dif_neg there, keys, List.map_append, List.mem_append, or_comm]
    exact or_congr List.mem_singleton Iff.rfl

theorem keys_delete (map : InsertionMap Key Value) (key : Key) :
    (map.delete key).keys = map.keys.filter fun key' => key' ≠ key := by
  rw [keys, delete, keys, List.filter_map]
  rfl

/-- Without its first key, a map has the others in their order. -/
theorem keys_delete_first {map : InsertionMap Key Value} {key : Key} {rest : List Key}
    (first : map.keys = key :: rest) : (map.delete key).keys = rest := by
  have nodup : (key :: rest).Nodup := first ▸ map.nodup
  rw [keys_delete, first, List.filter_cons_of_neg (by simp), List.filter_eq_self]
  intro other listed
  rw [decide_eq_true_iff]
  exact fun same => (List.nodup_cons.mp nodup).1 (same ▸ listed)

theorem mem_keys_delete (map : InsertionMap Key Value) (key key' : Key) :
    key' ∈ (map.delete key).keys ↔ key' ∈ map.keys ∧ key' ≠ key := by
  simp only [keys, delete, List.mem_map, List.mem_filter, decide_eq_true_eq]
  apply Iff.intro
  · intro found
    obtain ⟨entry, ⟨member, other⟩, same⟩ := found
    exact ⟨⟨entry, member, same⟩, same ▸ other⟩
  · intro found
    obtain ⟨⟨entry, member, same⟩, other⟩ := found
    exact ⟨entry, ⟨member, same ▸ other⟩, same⟩

end InsertionMap

end NodeExt2fs.Structures
