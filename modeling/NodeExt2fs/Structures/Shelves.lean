import Mathlib.Algebra.BigOperators.Group.Finset.Basic
import Mathlib.Algebra.Order.Group.Multiset
import Mathlib.Data.Multiset.Count

/-!
Items on numbered shelves, taken together as one multiset of places.
-/

namespace NodeExt2fs.Structures

variable {α : Type}

/-- The places of all items, on the shelves up to the bound. -/
def places (shelves : Nat → List α) (bound : Nat) : Multiset (Nat × α) :=
  ∑ index ∈ Finset.range (bound + 1), ((shelves index).map (Prod.mk index) : Multiset (Nat × α))

variable {shelves shelves' : Nat → List α} {bound : Nat}

theorem mem_places {index : Nat} {item : α} :
    (index, item) ∈ places shelves bound ↔ index ≤ bound ∧ item ∈ shelves index := by
  rw [places, Multiset.mem_sum]
  simp only [Finset.mem_range, Multiset.mem_coe, List.mem_map, Prod.mk.injEq, Nat.lt_succ_iff]
  apply Iff.intro
  · intro found
    obtain ⟨_, inside, _, member, same, equal⟩ := found
    rw [← same, ← equal]
    exact ⟨inside, member⟩
  · intro found
    exact ⟨index, found.1, item, found.2, rfl, rfl⟩

/-- A count of places is the sum of the counts on the shelves. -/
theorem countP_places (p : Nat × α → Prop) [DecidablePred p] :
    (places shelves bound).countP p =
      ∑ index ∈ Finset.range (bound + 1), (shelves index).countP fun item => p (index, item) := by
  rw [places, ← Multiset.coe_countPAddMonoidHom, map_sum]
  apply Finset.sum_congr rfl
  intro index _
  rw [Multiset.coe_countPAddMonoidHom, Multiset.coe_countP, List.countP_map]
  rfl

/-- What is counted on one shelf is at most what that shelf has. -/
theorem countP_shelf_le (p : α → Prop) [DecidablePred p] (index : Nat) :
    ((places shelves bound).countP fun place => place.1 = index ∧ p place.2) ≤
      (shelves index).countP p := by
  rw [countP_places]
  have elsewhere (other : Nat) (apart : other ≠ index) :
      ((shelves other).countP fun item => other = index ∧ p item) = 0 :=
    List.countP_eq_zero.mpr fun _ _ both => apart (of_decide_eq_true both).1
  by_cases inside : index ∈ Finset.range (bound + 1)
  · rw [Finset.sum_eq_single_of_mem index inside fun other _ apart => elsewhere other apart]
    apply List.countP_mono_left
    intro item _ both
    exact decide_eq_true (of_decide_eq_true both).2
  · rw [Finset.sum_eq_zero]
    · exact Nat.zero_le _
    · intro other member
      apply elsewhere
      intro same
      rw [same] at member
      exact inside member

/-- One shelf changes. -/
theorem places_update {index : Nat} (inside : index ≤ bound)
    (others : ∀ other, other ≠ index → shelves' other = shelves other) {gone new : List α}
    (moved : (shelves' index ++ gone).Perm (shelves index ++ new)) :
    places shelves' bound + (gone.map (Prod.mk index) : Multiset (Nat × α)) =
      places shelves bound + (new.map (Prod.mk index) : Multiset (Nat × α)) := by
  have member : index ∈ Finset.range (bound + 1) := Finset.mem_range.mpr (Nat.lt_succ_of_le inside)
  have rest : ∑ other ∈ (Finset.range (bound + 1)).erase index,
        ((shelves' other).map (Prod.mk other) : Multiset (Nat × α)) =
      ∑ other ∈ (Finset.range (bound + 1)).erase index,
        ((shelves other).map (Prod.mk other) : Multiset (Nat × α)) := by
    apply Finset.sum_congr rfl
    intro other different
    rw [others other (Finset.ne_of_mem_erase different)]
  have here : ((shelves' index).map (Prod.mk index) : Multiset (Nat × α)) + gone.map (Prod.mk index) =
      (shelves index).map (Prod.mk index) + (new.map (Prod.mk index) : Multiset (Nat × α)) := by
    rw [Multiset.coe_add, Multiset.coe_add, ← List.map_append, ← List.map_append]
    exact Multiset.coe_eq_coe.mpr (moved.map _)
  rw [places, places, ← Finset.add_sum_erase _ _ member, ← Finset.add_sum_erase _ _ member, rest,
    add_right_comm, here, add_right_comm]

/-- One shelf is cleared. -/
theorem places_clear {index : Nat} (inside : index ≤ bound)
    (others : ∀ other, other ≠ index → shelves' other = shelves other) (empty : shelves' index = []) :
    places shelves' bound = (places shelves bound).filter fun place => place.1 ≠ index := by
  have moved := @places_update α shelves shelves' bound index inside others (shelves index) []
    (by rw [empty, List.nil_append, List.append_nil])
  rw [List.map_nil, Multiset.coe_nil, add_zero] at moved
  have gone : Multiset.filter (fun place : Nat × α => place.1 ≠ index)
      ((shelves index).map (Prod.mk index) : Multiset (Nat × α)) = 0 := by
    apply Multiset.filter_eq_nil.mpr
    intro place member
    obtain ⟨item, _, same⟩ := List.mem_map.mp (Multiset.mem_coe.mp member)
    rw [← same]
    exact not_not_intro rfl
  have kept : Multiset.filter (fun place => place.1 ≠ index) (places shelves' bound) =
      places shelves' bound := by
    apply Multiset.filter_eq_self.mpr
    intro place member here
    have there := (mem_places.mp member).2
    rw [here, empty] at there
    exact absurd there List.not_mem_nil
  rw [← moved, Multiset.filter_add, gone, kept, add_zero]

/-- The places on one shelf. -/
theorem places_shelf {index : Nat} (inside : index ≤ bound) :
    (places shelves bound).filter (fun place => place.1 = index) =
      ((shelves index).map (Prod.mk index) : Multiset (Nat × α)) := by
  have others (other : Nat) (apart : other ≠ index) :
      Function.update shelves index [] other = shelves other := Function.update_of_ne apart _ _
  have empty : Function.update shelves index [] index = [] := Function.update_self ..
  have moved := @places_update α shelves _ bound index inside others (shelves index) []
    (by rw [empty, List.nil_append, List.append_nil])
  rw [places_clear inside others empty, List.map_nil, Multiset.coe_nil, add_zero] at moved
  have split := Multiset.filter_add_not (fun place : Nat × α => place.1 = index) (places shelves bound)
  exact add_right_cancel (split.trans (moved.symm.trans (add_comm _ _)))

theorem places_congr (same : ∀ index, shelves' index = shelves index) :
    places shelves' bound = places shelves bound := by
  rw [show shelves' = shelves from funext same]

/-- What is counted once is one item. -/
theorem eq_of_countP_one {items : Multiset α} {p : α → Prop} [DecidablePred p]
    (once : items.countP p = 1) {first second : α} (mem_first : first ∈ items)
    (mem_second : second ∈ items) (first_holds : p first) (second_holds : p second) :
    second = first := by
  obtain ⟨rest, split⟩ := Multiset.exists_cons_of_mem mem_first
  rw [split, Multiset.countP_cons_of_pos _ first_holds] at once
  rw [split, Multiset.mem_cons] at mem_second
  rcases mem_second with same | later
  · exact same
  · have positive := Multiset.countP_pos_of_mem later second_holds
    omega

end NodeExt2fs.Structures
