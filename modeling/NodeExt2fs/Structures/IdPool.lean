import Mathlib.Data.List.Nodup

/-!
Pools of numbers that are handed out, given back and handed out again.
-/

namespace NodeExt2fs.Structures

/-- The numbers from `next` on have never been handed out. -/
structure IdPool where
  next : Nat
  released : List Nat
  deriving DecidableEq

namespace IdPool

def getId (pool : IdPool) : Nat × IdPool :=
  match pool.released with
  | [] => (pool.next, { pool with next := pool.next + 1 })
  | id :: rest => (id, { pool with released := rest })

def releaseId (pool : IdPool) (id : Nat) : IdPool :=
  { pool with released := pool.released ++ [id] }

/-- The number is handed out. -/
def Used (pool : IdPool) (id : Nat) : Prop := id < pool.next ∧ id ∉ pool.released

/-- No number is available twice. -/
structure WellFormed (pool : IdPool) : Prop where
  nodup : pool.released.Nodup
  below : ∀ id ∈ pool.released, id < pool.next

theorem not_used_getId {pool : IdPool} : ¬pool.Used pool.getId.1 := by
  intro used
  rcases released : pool.released with _ | ⟨id, rest⟩
  · simp only [getId, released] at used
    exact Nat.lt_irrefl _ used.1
  · simp only [getId, released] at used
    apply used.2
    rw [released]
    exact List.mem_cons_self

theorem WellFormed.getId {pool : IdPool} (wellFormed : pool.WellFormed) :
    pool.getId.2.WellFormed := by
  rcases released : pool.released with _ | ⟨id, rest⟩
  · simp only [IdPool.getId, released]
    constructor
    · exact List.nodup_nil
    · intro id member
      cases member
  · simp only [IdPool.getId, released]
    obtain ⟨nodup, below⟩ := wellFormed
    rw [released] at nodup below
    constructor
    · exact (List.nodup_cons.mp nodup).2
    · intro id' member
      exact below id' (List.mem_cons_of_mem _ member)

/-- The new number joins the numbers in use. -/
theorem used_getId_iff {pool : IdPool} (wellFormed : pool.WellFormed) (id : Nat) :
    pool.getId.2.Used id ↔ id = pool.getId.1 ∨ pool.Used id := by
  rcases released : pool.released with _ | ⟨first, rest⟩
  · simp only [getId, released, Used, List.not_mem_nil, not_false_eq_true, and_true]
    omega
  · obtain ⟨nodup, below⟩ := wellFormed
    rw [released] at nodup below
    have first_below := below first List.mem_cons_self
    have first_new := (List.nodup_cons.mp nodup).1
    simp only [getId, released, Used, List.mem_cons, not_or]
    apply Iff.intro
    · intro used
      by_cases same : id = first
      · exact .inl same
      · exact .inr ⟨used.1, same, used.2⟩
    · intro either
      rcases either with same | used
      · rw [same]
        exact ⟨first_below, first_new⟩
      · exact ⟨used.1, used.2.2⟩

theorem WellFormed.releaseId {pool : IdPool} (wellFormed : pool.WellFormed) {id : Nat}
    (used : pool.Used id) : (pool.releaseId id).WellFormed := by
  constructor
  · exact wellFormed.nodup.append (List.nodup_singleton id) (List.disjoint_singleton.mpr used.2)
  · intro id' member
    rcases List.mem_append.mp member with old | new
    · exact wellFormed.below id' old
    · rw [List.mem_singleton.mp new]
      exact used.1

theorem used_releaseId_iff (pool : IdPool) (id id' : Nat) :
    (pool.releaseId id).Used id' ↔ pool.Used id' ∧ id' ≠ id := by
  simp only [Used, releaseId, List.mem_append, List.mem_singleton, not_or, and_assoc]

end IdPool

end NodeExt2fs.Structures
