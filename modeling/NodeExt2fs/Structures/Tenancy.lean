import NodeExt2fs.Programs.Transition
import NodeExt2fs.Structures.IdPool
import Mathlib.Data.List.Dedup
import Mathlib.Data.List.Perm.Basic

/-!
Numbers that are handed out to holders and given back, followed over whole runs.
-/

namespace NodeExt2fs.Structures
open Programs

variable {Pool Holder : Type}

/-- Something that hands out numbers. A holder may leave something in the pool with its number. -/
structure Issuer (Pool Holder : Type) where
  acquire : Pool → Holder → Nat × Pool
  release : Pool → Nat → Pool

/-- A pool with the record of a run: who holds which number, the numbers in the order in which they
were issued, and how many were held at one time at most. -/
structure Tenancy (Pool Holder : Type) where
  pool : Pool
  held : List (Nat × Holder)
  issued : List Nat
  peak : Nat

inductive TenancyEvent (Holder : Type) where
  | acquire (holder : Holder)
  | release (id : Nat)

namespace Tenancy

def start (pool : Pool) : Tenancy Pool Holder where
  pool := pool
  held := []
  issued := []
  peak := 0

def ids (state : Tenancy Pool Holder) : List Nat := state.held.map Prod.fst

def step (issuer : Issuer Pool Holder) (state : Tenancy Pool Holder) :
    TenancyEvent Holder → Option (Tenancy Pool Holder)
  | .acquire holder =>
      let (id, pool) := issuer.acquire state.pool holder
      some {
        pool := pool
        held := (id, holder) :: state.held
        issued := id :: state.issued
        peak := max state.peak (state.held.length + 1) }
  | .release id => some { state with
      pool := issuer.release state.pool id
      held := state.held.eraseP fun entry => entry.1 = id }

/-- A number is given back only while it is held. -/
def HeldOnly (state : Tenancy Pool Holder) : TenancyEvent Holder → Prop
  | .acquire _ => True
  | .release id => id ∈ state.ids

/-- No two holders have the same number, and no more numbers were issued than were held at once. -/
structure Unshared (state : Tenancy Pool Holder) : Prop where
  distinct : state.ids.Nodup
  frugal : state.issued.dedup.length = state.peak

/-- The numbers that are held and those that wait in the pool are together the numbers that were
issued, each of them once. -/
structure Accounted (pool : IdPool) (first : Nat) (state : Tenancy Pool Holder) : Prop where
  shared : (state.ids ++ pool.released).Perm (List.range' first state.peak)
  next : pool.next = first + state.peak
  issued : ∀ id, id ∈ state.issued ↔ id ∈ List.range' first state.peak

theorem Accounted.unshared {pool : IdPool} {first : Nat} {state : Tenancy Pool Holder}
    (accounted : Accounted pool first state) : state.Unshared where
  distinct := (accounted.shared.nodup_iff.mpr List.nodup_range').of_append_left
  frugal := by
    have same : state.issued.dedup.Perm (List.range' first state.peak) := by
      rw [List.perm_ext_iff_of_nodup (List.nodup_dedup _) List.nodup_range']
      intro id
      rw [List.mem_dedup]
      exact accounted.issued id
    rw [same.length_eq, List.length_range']

/-- A holder that gives its number back is no longer among the holders. -/
theorem not_held_erased {held : List (Nat × Holder)} (distinct : (held.map Prod.fst).Nodup) (id : Nat) :
    id ∉ (held.eraseP fun entry => entry.1 = id).map Prod.fst := by
  induction held with
  | nil => exact List.not_mem_nil
  | cons entry rest ih =>
      obtain ⟨absent, distinct⟩ := List.nodup_cons.mp distinct
      by_cases mine : entry.1 = id
      · rw [List.eraseP_cons_of_pos (by simp [mine])]
        exact mine ▸ absent
      · rw [List.eraseP_cons_of_neg (by simp [mine]), List.map_cons, List.mem_cons, not_or]
        exact ⟨Ne.symm mine, ih distinct⟩

end Tenancy

/-- The pool inside an issuer is one of released numbers. -/
structure Issuer.Pooled (issuer : Issuer Pool Holder) (inside : Pool → IdPool) : Prop where
  acquired : ∀ pool holder, (issuer.acquire pool holder).1 = (inside pool).getId.1
  after : ∀ pool holder, inside (issuer.acquire pool holder).2 = (inside pool).getId.2
  released : ∀ pool id, inside (issuer.release pool id) = (inside pool).releaseId id

namespace Tenancy

variable {issuer : Issuer Pool Holder} {inside : Pool → IdPool} {first : Nat}
  {state state' : Tenancy Pool Holder}

/-- A new number is issued only when no other waits, so that all are held. -/
theorem accounted_acquire (pooled : issuer.Pooled inside)
    (accounted : Accounted (inside state.pool) first state) {holder : Holder}
    (taken : state.step issuer (.acquire holder) = some state') :
    Accounted (inside state'.pool) first state' := by
  obtain rfl := Option.some.inj taken
  have count := accounted.shared.length_eq
  rw [List.length_append, ids, List.length_map, List.length_range'] at count
  dsimp only
  rw [pooled.after, pooled.acquired]
  cases waiting : (inside state.pool).released with
  | nil =>
      rw [waiting, List.length_nil, Nat.add_zero] at count
      have fresh : (inside state.pool).getId =
          (first + state.peak,
            { next := first + state.peak + 1, released := [] }) := by
        simp only [IdPool.getId, waiting, accounted.next]
      have shared := accounted.shared
      rw [waiting, List.append_nil] at shared
      have grown : List.range' first (max state.peak (state.held.length + 1)) =
          List.range' first state.peak ++ [first + state.peak] := by
        rw [count, Nat.max_eq_right (Nat.le_succ _), List.range'_concat, Nat.one_mul]
      rw [fresh]
      constructor
      · rw [grown, List.append_nil]
        exact (shared.cons _).trans (List.perm_append_singleton _ _).symm
      · dsimp only
        omega
      · intro id
        rw [grown, List.mem_cons, accounted.issued, List.mem_append, List.mem_singleton, or_comm]
  | cons id rest =>
      rw [waiting, List.length_cons] at count
      have reused : (inside state.pool).getId =
          (id, { next := first + state.peak, released := rest }) := by
        simp only [IdPool.getId, waiting, accounted.next]
      have same : max state.peak (state.held.length + 1) = state.peak :=
        Nat.max_eq_left (by omega)
      have shared := accounted.shared
      rw [waiting] at shared
      have known : id ∈ List.range' first state.peak :=
        shared.mem_iff.mp (List.mem_append_right _ List.mem_cons_self)
      rw [reused]
      constructor
      · rw [same]
        exact List.perm_middle.symm.trans shared
      · dsimp only
        rw [same]
      · intro id'
        rw [same, List.mem_cons, accounted.issued]
        exact or_iff_right_of_imp fun equal => equal ▸ known

/-- A number that its holder gives back goes to the end of the pool. -/
theorem accounted_release (pooled : issuer.Pooled inside)
    (accounted : Accounted (inside state.pool) first state) {id : Nat} (held : id ∈ state.ids)
    (taken : state.step issuer (.release id) = some state') :
    Accounted (inside state'.pool) first state' := by
  obtain rfl := Option.some.inj taken
  obtain ⟨⟨id, holder⟩, member, rfl⟩ := List.mem_map.mp held
  obtain ⟨entry, before, after, _, same, split, erased⟩ :=
    List.exists_of_eraseP (p := fun entry => decide (entry.1 = id)) member (by simp)
  have mine : entry.1 = id := of_decide_eq_true same
  dsimp only
  rw [pooled.released]
  constructor
  · have shared := accounted.shared
    rw [ids, split, List.map_append, List.map_cons, mine] at shared
    dsimp only [ids, IdPool.releaseId]
    rw [erased, List.map_append]
    apply List.Perm.trans _ shared
    rw [← List.append_assoc]
    apply (List.perm_append_singleton _ _).trans
    rw [List.append_assoc, List.append_assoc]
    exact List.perm_middle.symm
  · exact accounted.next
  · exact accounted.issued

theorem accounted_step (pooled : issuer.Pooled inside) (state : Tenancy Pool Holder)
    (event : TenancyEvent Holder) (state' : Tenancy Pool Holder)
    (accounted : Accounted (inside state.pool) first state) (held : state.HeldOnly event)
    (taken : state.step issuer event = some state') :
    Accounted (inside state'.pool) first state' := by
  cases event with
  | acquire holder => exact accounted_acquire pooled accounted taken
  | release id => exact accounted_release pooled accounted held taken

/-- All numbers are accounted for in every run of a pool that begins with none. -/
theorem accounted_of_reaches (pooled : issuer.Pooled inside) {pool : Pool}
    (new : inside pool = { next := first, released := [] })
    (reached : Reaches (step issuer) HeldOnly (start pool) state) :
    Accounted (inside state.pool) first state := by
  apply reached.invariant
  · show Accounted (inside pool) first (start pool)
    rw [new]
    exact ⟨List.Perm.refl _, rfl, fun id => Iff.rfl⟩
  · exact accounted_step pooled

end Tenancy

end NodeExt2fs.Structures
