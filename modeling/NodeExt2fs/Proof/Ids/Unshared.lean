import NodeExt2fs.Construction.Js.Objects

/-!
This file proves that no two holders share a number, of an object or of a hook.
-/

namespace NodeExt2fs.Ids
open Programs Structures Js

variable {Object : Type}

theorem pooled_objects : (objectIssuer Object).Pooled SharedObjects.ids where
  acquired state _ := congrArg Prod.fst state.reserveId_ids
  after state _ := congrArg Prod.snd state.reserveId_ids
  released _ _ := rfl

theorem pooled_manager (Holder : Type) : (idManager Holder).Pooled id where
  acquired _ _ := rfl
  after _ _ := rfl
  released _ _ := rfl

/-- Each object is found under the number that it holds. -/
def Stored (state : Tenancy (SharedObjects Object) Object) : Prop :=
  ∀ id obj, (id, obj) ∈ state.held → state.pool.getObject id = some obj

/-- A new object replaces none, and a deletion leaves the objects of the other holders. -/
theorem stored_step {state state' : Tenancy (SharedObjects Object) Object}
    {event : TenancyEvent Object} (before : state.Unshared) (after : state'.Unshared)
    (stored : Stored state) (taken : state.step (objectIssuer Object) event = some state') :
    Stored state' := by
  cases event with
  | acquire obj =>
      obtain rfl := Option.some.inj taken
      have fresh := (List.nodup_cons.mp after.distinct).1
      have same : state.pool.reserveId.2.objects = state.pool.objects := by
        cases waiting : state.pool.idPool with
        | nil => simp [SharedObjects.reserveId, waiting]
        | cons id rest => simp [SharedObjects.reserveId, waiting]
      intro id obj' member
      change (state.pool.reserveId.2.objects.set state.pool.reserveId.1 obj).get id = some obj'
      rw [same]
      rcases List.mem_cons.mp member with new | old
      · cases new
        exact InsertionMap.get_set_self _ _ _
      · have other : id ≠ state.pool.reserveId.1 := by
          intro equal
          have listed : id ∈ state.ids := List.mem_map.mpr ⟨(id, obj'), old, rfl⟩
          rw [equal] at listed
          exact fresh listed
        rw [InsertionMap.get_set_of_ne _ _ other]
        exact stored id obj' old
  | release id =>
      obtain rfl := Option.some.inj taken
      intro id' obj member
      have other : id' ≠ id := by
        intro equal
        have listed : id' ∈ (state.held.eraseP fun entry => entry.1 = id).map Prod.fst :=
          List.mem_map.mpr ⟨(id', obj), member, rfl⟩
        rw [equal] at listed
        exact Tenancy.not_held_erased before.distinct id listed
      change (state.pool.objects.delete id).get id' = some obj
      rw [InsertionMap.get_delete_of_ne _ other]
      exact stored id' obj (List.mem_of_mem_eraseP member)

/-- The invariant of the objects. -/
structure Kept (state : Tenancy (SharedObjects Object) Object) : Prop where
  accounted : Tenancy.Accounted state.pool.ids 1 state
  stored : Stored state

theorem kept_step (state : Tenancy (SharedObjects Object) Object) (event : TenancyEvent Object)
    (state' : Tenancy (SharedObjects Object) Object) (kept : Kept state) (held : state.HeldOnly event)
    (taken : state.step (objectIssuer Object) event = some state') : Kept state' := by
  have accounted := Tenancy.accounted_step pooled_objects state event state' kept.accounted held taken
  exact ⟨accounted, stored_step kept.accounted.unshared accounted.unshared kept.stored taken⟩

/-- However objects and hooks come and go, no two of them have the same number, each object is found
under its number, and no more numbers are issued than are held at one time. -/
theorem ids_unshared :
    (∀ (Object : Type) (state : Tenancy (SharedObjects Object) Object),
      Reaches (Tenancy.step (objectIssuer Object)) Tenancy.HeldOnly (.start .empty) state →
        state.Unshared ∧ ∀ id obj, (id, obj) ∈ state.held → state.pool.getObject id = some obj) ∧
    ∀ (Holder : Type) (state : Tenancy IdPool Holder),
      Reaches (Tenancy.step (idManager Holder)) Tenancy.HeldOnly
        (.start { next := 0, released := [] }) state → state.Unshared := by
  apply And.intro
  · intro Object state reached
    have kept : Kept state := by
      apply reached.invariant
      · refine ⟨⟨List.Perm.refl _, rfl, fun id => Iff.rfl⟩, ?_⟩
        intro id obj member
        cases member
      · exact kept_step
    exact ⟨kept.accounted.unshared, kept.stored⟩
  · intro Holder state reached
    exact (Tenancy.accounted_of_reaches (pooled_manager Holder) rfl reached).unshared

/-- A number that was given back goes to the next object. -/
theorem ids_unshared_reused : ∃ state, follow (Tenancy.step (objectIssuer String)) (.start .empty)
      [.acquire "disk", .acquire "entries", .release 1, .acquire "names"] = some state ∧
    state.ids = [1, 2] ∧ state.Unshared ∧ state.pool.getObject 1 = some "names" := by
  have along : Along (Tenancy.step (objectIssuer String)) Tenancy.HeldOnly (.start .empty)
      [.acquire "disk", .acquire "entries", .release 1, .acquire "names"] := by
    refine ⟨trivial, ?_⟩
    rintro _ ⟨⟩
    refine ⟨trivial, ?_⟩
    rintro _ ⟨⟩
    refine ⟨List.mem_cons_of_mem 2 List.mem_cons_self, ?_⟩
    rintro _ ⟨⟩
    exact ⟨trivial, fun _ _ => trivial⟩
  have reached := reaches_of_follow .first along rfl
  have held := ids_unshared.1 String _ reached
  exact ⟨_, rfl, rfl, held.1, held.2 1 "names" List.mem_cons_self⟩

end NodeExt2fs.Ids
