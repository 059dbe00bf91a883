import Mathlib.Algebra.Order.Group.Multiset

/-!
Changes of a collection: the items that go, and those that come for them.
-/

namespace NodeExt2fs.Structures

structure Exchange (Item : Type) where
  gone : Multiset Item
  new : Multiset Item

namespace Exchange

variable {Item : Type} {before middle after : Multiset Item}

/-- What is neither gone nor new is in both collections. -/
def Leads (exchange : Exchange Item) (before after : Multiset Item) : Prop :=
  ∃ rest, before = exchange.gone + rest ∧ after = exchange.new + rest

def keep : Exchange Item := ⟨0, 0⟩

def add (item : Item) : Exchange Item := ⟨0, {item}⟩

def remove (item : Item) : Exchange Item := ⟨{item}, 0⟩

def replace (old new : Item) : Exchange Item := ⟨{old}, {new}⟩

/-- An item takes the place of another one, which goes. -/
def supplant (old target new : Item) : Exchange Item := ⟨{target, old}, {new}⟩

theorem leads_keep (same : after = before) : keep.Leads before after :=
  ⟨before, (zero_add before).symm, same.trans (zero_add before).symm⟩

theorem leads_add {item : Item} (same : after = item ::ₘ before) : (add item).Leads before after :=
  ⟨before, (zero_add before).symm, same⟩

theorem leads_remove {item : Item} (same : before = item ::ₘ after) : (remove item).Leads before after :=
  ⟨after, same, (zero_add after).symm⟩

/-- What a change touches. -/
def items (exchange : Exchange Item) : Multiset Item := exchange.gone + exchange.new

section Items

variable {p : Item → Prop} {item old target new : Item}

theorem forall_keep : ∀ touched ∈ (@keep Item).items, p touched :=
  fun touched member => absurd member (Multiset.notMem_zero touched)

theorem forall_add (holds : p item) : ∀ touched ∈ (add item).items, p touched := by
  simpa [items, add] using holds

theorem forall_remove (holds : p item) : ∀ touched ∈ (remove item).items, p touched := by
  simpa [items, remove] using holds

theorem forall_replace (first : p old) (second : p new) :
    ∀ touched ∈ (replace old new).items, p touched := by
  simpa [items, replace] using ⟨first, second⟩

theorem forall_supplant (first : p old) (second : p target) (third : p new) :
    ∀ touched ∈ (supplant old target new).items, p touched := by
  simpa [items, supplant] using ⟨second, first, third⟩

end Items

/-- An item goes, and then another one is replaced. -/
theorem Leads.supplants {old target new : Item} (removed : (remove target).Leads before middle)
    (replaced : (replace old new).Leads middle after) : (supplant old target new).Leads before after := by
  obtain ⟨left, first, same⟩ := removed
  obtain ⟨rest, split, last⟩ := replaced
  have kept : left = middle := (same.trans (zero_add left)).symm
  refine ⟨rest, ?_, last⟩
  rw [first, kept, split]
  exact (add_assoc {target} {old} rest).symm

end Exchange

end NodeExt2fs.Structures
