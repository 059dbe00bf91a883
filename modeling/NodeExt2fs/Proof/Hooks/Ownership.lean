import NodeExt2fs.Construction.Js.Hooks

/-!
This file keeps the memory and the objects of hooked calls with the calls that requested them.
-/

namespace NodeExt2fs.Hooking
open Programs Structures Js

/-- The pointers that a call will still release: its list in `memAddrs`, and later the rest of its
frees. -/
def held (state : Hooks) (call : HookedCall) : List Nat :=
  match call.phase with
  | .running => (state.memAddrs call.hook).getD []
  | .freeing addrs => addrs
  | .settled => []

def heldObjects (state : Hooks) (call : HookedCall) : List Nat :=
  match call.phase with
  | .running => (state.objIds call.hook).getD []
  | _ => []

/-- Nothing has gone wrong, and everything that is not released is recorded for the call that
requested it. -/
structure Safe (state : Hooks) : Prop where
  noFaults : state.faults = []
  pointers : ∀ pointer id, state.pointerOwner pointer = some id →
    ∃ call, state.call id = some call ∧ pointer ∈ held state call
  objects : ∀ objId id, state.objectOwner objId = some id →
    ∃ call, state.call id = some call ∧ objId ∈ heldObjects state call

/-- The next stage of the body asks for the current hook. -/
def asks (call : HookedCall) : Bool :=
  match call.body with
  | .paths nuls :: _ => nuls.any fun nul => !nul
  | .buffer :: _ => true
  | .object :: _ => true
  | _ => false

/-- A body goes on to a further hook only while `hookId` is still its own, and it is rejected only
when none of its hooks is pending. -/
structure Undisturbed (state : Hooks) (label : HookLabel) : Prop where
  own : ∀ id call, label = .resume id → state.call id = some call → call.failed = false →
    asks call = true → state.hookId = some call.hook
  whole : ∀ id call, label = .resume id → state.call id = some call → call.failed = true →
    call.pending = false

/-- A hook that belongs to its call. -/
def Tidy (call : HookedCall) (addrs : List Nat) : Slot → Prop
  | .rejected => True
  | .malloc hook _ => call.phase = .running ∧ hook = call.hook
  | .filling pointer => call.phase = .running ∧ pointer ∈ addrs
  | .ready pointer => call.phase = .running → pointer ∈ addrs

/-- The lists and the owners agree with one call. -/
structure Fits (state : Hooks) (id : Nat) (call : HookedCall) : Prop where
  lists : call.phase ≠ .settled →
    (state.memAddrs call.hook).isSome = true ∧ (state.objIds call.hook).isSome = true
  nodup : (held state call).Nodup
  pointers : ∀ pointer, state.pointerOwner pointer = some id ↔ pointer ∈ held state call
  nodupObjects : (heldObjects state call).Nodup
  objects : ∀ objId, state.objectOwner objId = some id ↔ objId ∈ heldObjects state call
  tidy : ∀ slot ∈ call.slots, Tidy call (held state call) slot
  got : call.phase = .running → ∀ objId ∈ call.objects, objId ∈ heldObjects state call
  operates : call.operating = true → call.phase = .running

/-- The invariant of the hooked calls. -/
structure Sound (state : Hooks) : Prop where
  noFaults : state.faults = []
  hookIds : state.hookIds.WellFormed
  objectIds : state.objectIds.WellFormed
  fits : ∀ id call, state.call id = some call → Fits state id call
  pointerOwner : ∀ pointer id, state.pointerOwner pointer = some id → (state.call id).isSome = true
  objectOwner : ∀ objId id, state.objectOwner objId = some id →
    (state.call id).isSome = true ∧ state.objectIds.Used objId
  used : ∀ id call, state.call id = some call → call.phase ≠ .settled →
    state.hookIds.Used call.hook
  apart : ∀ id call id' call', state.call id = some call → state.call id' = some call' →
    call.phase ≠ .settled → call'.phase ≠ .settled → call.hook = call'.hook → id = id'

theorem Sound.safe {state : Hooks} (sound : Sound state) : Safe state := by
  constructor
  · exact sound.noFaults
  · intro pointer id owned
    obtain ⟨call, found⟩ := Option.isSome_iff_exists.mp (sound.pointerOwner pointer id owned)
    exact ⟨call, found, ((sound.fits id call found).pointers pointer).mp owned⟩
  · intro objId id owned
    obtain ⟨call, found⟩ := Option.isSome_iff_exists.mp (sound.objectOwner objId id owned).1
    exact ⟨call, found, ((sound.fits id call found).objects objId).mp owned⟩

theorem sound_empty : Sound .empty := by
  constructor
  · rfl
  · exact ⟨List.nodup_nil, fun id member => absurd member List.not_mem_nil⟩
  · exact ⟨List.nodup_nil, fun id member => absurd member List.not_mem_nil⟩
  · intro id call found
    cases found
  · intro pointer id owned
    cases owned
  · intro objId id owned
    cases owned
  · intro id call found
    cases found
  · intro id call id' call' found
    cases found

/-- Only one call and its hook have changed. -/
structure Framed (state state' : Hooks) (id hook : Nat) : Prop where
  calls : ∀ id', id' ≠ id → state'.call id' = state.call id'
  memAddrs : ∀ hook', hook' ≠ hook → state'.memAddrs hook' = state.memAddrs hook'
  objIds : ∀ hook', hook' ≠ hook → state'.objIds hook' = state.objIds hook'
  pointers : ∀ pointer id', id' ≠ id →
    (state'.pointerOwner pointer = some id' ↔ state.pointerOwner pointer = some id')
  objects : ∀ objId id', id' ≠ id →
    (state'.objectOwner objId = some id' ↔ state.objectOwner objId = some id')

theorem held_congr {state state' : Hooks} {call : HookedCall}
    (same : call.phase ≠ .settled → state'.memAddrs call.hook = state.memAddrs call.hook) :
    held state' call = held state call := by
  unfold held
  cases phase : call.phase with
  | running =>
      have same := same (by simp [phase])
      simp only [same]
  | freeing addrs => rfl
  | settled => rfl

theorem heldObjects_congr {state state' : Hooks} {call : HookedCall}
    (same : call.phase ≠ .settled → state'.objIds call.hook = state.objIds call.hook) :
    heldObjects state' call = heldObjects state call := by
  unfold heldObjects
  cases phase : call.phase with
  | running =>
      have same := same (by simp [phase])
      simp only [same]
  | freeing addrs => rfl
  | settled => rfl

/-- A call fits as long as its lists and its ownership stay. -/
theorem Fits.congr {state state' : Hooks} {id : Nat} {call : HookedCall} (fits : Fits state id call)
    (memAddrs : call.phase ≠ .settled → state'.memAddrs call.hook = state.memAddrs call.hook)
    (objIds : call.phase ≠ .settled → state'.objIds call.hook = state.objIds call.hook)
    (pointers : ∀ pointer, state'.pointerOwner pointer = some id ↔ state.pointerOwner pointer = some id)
    (objects : ∀ objId, state'.objectOwner objId = some id ↔ state.objectOwner objId = some id) :
    Fits state' id call := by
  have same := held_congr memAddrs
  have sameObjects := heldObjects_congr objIds
  constructor
  · intro live
    rw [memAddrs live, objIds live]
    exact fits.lists live
  · rw [same]
    exact fits.nodup
  · intro pointer
    rw [same]
    exact (pointers pointer).trans (fits.pointers pointer)
  · rw [sameObjects]
    exact fits.nodupObjects
  · intro objId
    rw [sameObjects]
    exact (objects objId).trans (fits.objects objId)
  · rw [same]
    exact fits.tidy
  · rw [sameObjects]
    exact fits.got
  · exact fits.operates

/-- A step of one call keeps the invariant when that call fits after it. -/
theorem Sound.of_framed {state state' : Hooks} (sound : Sound state) {id : Nat} {call : HookedCall}
    (framed : Framed state state' id call.hook) (noFaults : state'.faults = [])
    (found : state'.call id = some call) (fits : Fits state' id call)
    (distinct : ∀ id' call', id' ≠ id → state.call id' = some call' → call'.phase ≠ .settled →
      call'.hook ≠ call.hook)
    (hookIds : state'.hookIds.WellFormed)
    (used : call.phase ≠ .settled → state'.hookIds.Used call.hook)
    (kept : ∀ hook, hook ≠ call.hook → state.hookIds.Used hook → state'.hookIds.Used hook)
    (objectIds : state'.objectIds.WellFormed)
    (usedObjects : ∀ objId id', state'.objectOwner objId = some id' → state'.objectIds.Used objId) :
    Sound state' := by
  have there (id' : Nat) (was : id' ≠ id → (state.call id').isSome = true) :
      (state'.call id').isSome = true := by
    by_cases same : id' = id
    · rw [same, found]
      rfl
    · rw [framed.calls id' same]
      exact was same
  constructor
  · exact noFaults
  · exact hookIds
  · exact objectIds
  · intro id' call' found'
    by_cases same : id' = id
    · rw [same, found] at found'
      cases found'
      rw [same]
      exact fits
    · rw [framed.calls id' same] at found'
      apply (sound.fits id' call' found').congr
      · intro live
        exact framed.memAddrs _ (distinct id' call' same found' live)
      · intro live
        exact framed.objIds _ (distinct id' call' same found' live)
      · intro pointer
        exact framed.pointers pointer id' same
      · intro objId
        exact framed.objects objId id' same
  · intro pointer id' owned
    apply there
    intro other
    exact sound.pointerOwner pointer id' ((framed.pointers pointer id' other).mp owned)
  · intro objId id' owned
    refine ⟨there id' ?_, usedObjects objId id' owned⟩
    intro other
    exact (sound.objectOwner objId id' ((framed.objects objId id' other).mp owned)).1
  · intro id' call' found' live
    by_cases same : id' = id
    · rw [same, found] at found'
      cases found'
      exact used live
    · rw [framed.calls id' same] at found'
      exact kept _ (distinct id' call' same found' live) (sound.used id' call' found' live)
  · intro first call₁ second call₂ found₁ found₂ live₁ live₂ hooks
    by_cases same₁ : first = id
    · rw [same₁, found] at found₁
      cases found₁
      by_cases same₂ : second = id
      · rw [same₁, same₂]
      · rw [framed.calls second same₂] at found₂
        exact absurd hooks.symm (distinct second call₂ same₂ found₂ live₂)
    · rw [framed.calls first same₁] at found₁
      by_cases same₂ : second = id
      · rw [same₂, found] at found₂
        cases found₂
        exact absurd hooks (distinct first call₁ same₁ found₁ live₁)
      · rw [framed.calls second same₂] at found₂
        exact sound.apart first call₁ second call₂ found₁ found₂ live₁ live₂ hooks

/-- A step of a live call that leaves the hook ids alone. -/
theorem Sound.of_live {state state' : Hooks} (sound : Sound state) {id : Nat}
    {call call' : HookedCall} (before : state.call id = some call) (live : call.phase ≠ .settled)
    (hook : call'.hook = call.hook) (framed : Framed state state' id call.hook)
    (noFaults : state'.faults = []) (found : state'.call id = some call')
    (fits : Fits state' id call') (hookIds : state'.hookIds = state.hookIds)
    (objectIds : state'.objectIds.WellFormed)
    (usedObjects : ∀ objId id', state'.objectOwner objId = some id' → state'.objectIds.Used objId) :
    Sound state' := by
  rw [← hook] at framed
  refine sound.of_framed framed noFaults found fits ?_ ?_ ?_ ?_ objectIds usedObjects
  · intro id' other different found' live' same
    rw [hook] at same
    exact different (sound.apart id' other id call found' before live' live same)
  · rw [hookIds]
    exact sound.hookIds
  · rw [hookIds, hook]
    intro _
    exact sound.used id call before live
  · rw [hookIds]
    intro _ _ used
    exact used

theorem framed_setCall (state : Hooks) (id hook : Nat) (call : HookedCall) :
    Framed state (state.setCall id call) id hook := by
  constructor
  · intro id' other
    exact Function.update_of_ne other _ _
  · exact fun _ _ => rfl
  · exact fun _ _ => rfl
  · exact fun _ _ _ => Iff.rfl
  · exact fun _ _ _ => Iff.rfl

/-- The lists of one hook may be made or dropped with its call. -/
theorem framed_lists {state state' : Hooks} {id hook : Nat} {call : Option HookedCall}
    {addrs objs : Option (List Nat)} (calls : state'.call = Function.update state.call id call)
    (memAddrs : state'.memAddrs = Function.update state.memAddrs hook addrs)
    (objIds : state'.objIds = Function.update state.objIds hook objs)
    (pointers : state'.pointerOwner = state.pointerOwner)
    (objects : state'.objectOwner = state.objectOwner) : Framed state state' id hook := by
  constructor
  · intro id' other
    rw [calls, Function.update_of_ne other]
  · intro hook' other
    rw [memAddrs, Function.update_of_ne other]
  · intro hook' other
    rw [objIds, Function.update_of_ne other]
  · intro pointer _ _
    rw [pointers]
  · intro objId _ _
    rw [objects]

theorem call_setCall (state : Hooks) (id : Nat) (call : HookedCall) :
    (state.setCall id call).call id = some call :=
  Function.update_self _ _ _

/-- A live call may change its own record. -/
theorem Sound.setCall {state : Hooks} (sound : Sound state) {id : Nat} {call call' : HookedCall}
    (before : state.call id = some call) (live : call.phase ≠ .settled)
    (hook : call'.hook = call.hook) (fits : Fits state id call') : Sound (state.setCall id call') := by
  apply sound.of_live before live hook (framed_setCall state id _ call') sound.noFaults
    (call_setCall state id call')
  · exact fits.congr (fun _ => rfl) (fun _ => rfl) (fun _ => Iff.rfl) (fun _ => Iff.rfl)
  · rfl
  · exact sound.objectIds
  · intro objId id' owned
    exact (sound.objectOwner objId id' owned).2

/-- The slots of a call may change as long as they belong to it. -/
theorem Fits.with_slots {state : Hooks} {id : Nat} {call call' : HookedCall} (fits : Fits state id call)
    (hook : call'.hook = call.hook) (phase : call'.phase = call.phase)
    (tidy : ∀ slot ∈ call'.slots, Tidy call (held state call) slot)
    (objects : call'.objects = call.objects)
    (operates : call'.operating = true → call.phase = .running) : Fits state id call' := by
  have same : held state call' = held state call := by
    rw [held, held, hook, phase]
  have sameObjects : heldObjects state call' = heldObjects state call := by
    rw [heldObjects, heldObjects, hook, phase]
  constructor
  · rw [hook, phase]
    exact fits.lists
  · rw [same]
    exact fits.nodup
  · rw [same]
    exact fits.pointers
  · rw [sameObjects]
    exact fits.nodupObjects
  · rw [sameObjects]
    exact fits.objects
  · intro slot member
    have here := tidy slot member
    rw [same]
    cases slot with
    | rejected => trivial
    | malloc => exact ⟨phase.trans here.1, here.2.trans hook.symm⟩
    | filling => exact ⟨phase.trans here.1, here.2⟩
    | ready => exact fun running => here (phase.symm.trans running)
  · rw [sameObjects, phase, objects]
    exact fits.got
  · rw [phase]
    exact operates

theorem expect_of {test : Bool} (holds : test = true) (state : Hooks) (fault : HookFault) :
    state.expect test fault = state :=
  if_pos holds

/-- A running call owns what its hooks have returned. -/
theorem Fits.owns {state : Hooks} {id : Nat} {call : HookedCall} (fits : Fits state id call)
    (running : call.phase = .running) : state.owns id call = true := by
  unfold Hooks.owns
  rw [Bool.and_eq_true, List.all_eq_true, List.all_eq_true]
  apply And.intro
  · intro pointer member
    obtain ⟨slot, there, same⟩ := List.mem_filterMap.mp member
    apply decide_eq_true
    apply (fits.pointers pointer).mpr
    have tidy := fits.tidy slot there
    cases slot with
    | rejected => cases same
    | malloc => cases same
    | filling =>
        cases same
        exact tidy.2
    | ready =>
        cases same
        exact tidy running
  · intro objId member
    exact decide_eq_true ((fits.objects objId).mpr (fits.got running objId member))

/-- The hooks that a running call requests under its own id belong to it. -/
theorem tidy_usePath {state : Hooks} {call : HookedCall} (running : call.phase = .running)
    (addrs : List Nat) {nul : Bool} (own : nul = false → state.hookId = some call.hook) :
    Tidy call addrs (state.usePath nul) := by
  unfold Hooks.usePath
  cases nul with
  | true => trivial
  | false =>
      simp only [Hooks.useBuffer, own rfl]
      exact ⟨running, rfl⟩

section Owners

variable {owner : Nat → Option Nat} {key id : Nat}

/-- Other owners keep what they have. -/
theorem update_owner_iff {value : Option Nat} (was : owner key ≠ some id) (becomes : value ≠ some id)
    (key' : Nat) : Function.update owner key value key' = some id ↔ owner key' = some id := by
  by_cases same : key' = key
  · rw [same, Function.update_self]
    exact iff_of_false becomes was
  · rw [Function.update_of_ne same]

theorem update_owner_some_iff (key' : Nat) :
    Function.update owner key (some id) key' = some id ↔ owner key' = some id ∨ key' = key := by
  by_cases same : key' = key
  · rw [same, Function.update_self]
    exact iff_of_true rfl (.inr rfl)
  · rw [Function.update_of_ne same]
    exact (or_iff_left same).symm

theorem update_owner_none_iff (key' : Nat) :
    Function.update owner key none key' = some id ↔ owner key' = some id ∧ key' ≠ key := by
  by_cases same : key' = key
  · rw [same, Function.update_self]
    exact iff_of_false (fun bad => nomatch bad) fun both => both.2 rfl
  · rw [Function.update_of_ne same]
    exact (and_iff_left same).symm

end Owners

theorem live_of_running {call : HookedCall} (running : call.phase = .running) :
    call.phase ≠ .settled := by
  rw [running]
  exact fun bad => nomatch bad

theorem over_of_freeing {call : HookedCall} {addrs : List Nat} (freeing : call.phase = .freeing addrs) :
    call.phase ≠ .running ∧ call.phase ≠ .settled := by
  rw [freeing]
  constructor
  · exact fun bad => nomatch bad
  · exact fun bad => nomatch bad

theorem held_of_running {state : Hooks} {call : HookedCall} {addrs : List Nat}
    (running : call.phase = .running) (list : state.memAddrs call.hook = some addrs) :
    held state call = addrs := by
  simp only [held, running, list, Option.getD_some]

theorem heldObjects_of_running {state : Hooks} {call : HookedCall} {objs : List Nat}
    (running : call.phase = .running) (list : state.objIds call.hook = some objs) :
    heldObjects state call = objs := by
  simp only [heldObjects, running, list, Option.getD_some]

theorem mem_append_singleton {key key' : Nat} {keys : List Nat} :
    key' ∈ keys ++ [key] ↔ key' ∈ keys ∨ key' = key := by
  rw [List.mem_append, List.mem_singleton]

theorem nodup_append_singleton {key : Nat} {keys : List Nat} (nodup : keys.Nodup)
    (absent : key ∉ keys) : (keys ++ [key]).Nodup :=
  nodup.append (List.nodup_singleton key) (List.disjoint_singleton.mpr absent)

/-- An object that is requested under the id of its call. -/
theorem Sound.useObject {state : Hooks} (sound : Sound state) {id : Nat} {call : HookedCall}
    (found : state.call id = some call) (running : call.phase = .running)
    (own : state.hookId = some call.hook) : Sound (state.useObject id call) := by
  have live := live_of_running running
  have fits := sound.fits id call found
  obtain ⟨addrs, memAddrs⟩ := Option.isSome_iff_exists.mp (fits.lists live).1
  obtain ⟨objs, objIds⟩ := Option.isSome_iff_exists.mp (fits.lists live).2
  have fresh (id' : Nat) : state.objectOwner state.objectIds.getId.1 ≠ some id' := by
    intro owned
    exact IdPool.not_used_getId (sound.objectOwner _ id' owned).2
  have before := heldObjects_of_running running objIds
  have absent : state.objectIds.getId.1 ∉ objs := by
    rw [← before]
    intro member
    exact fresh id ((fits.objects _).mpr member)
  have nodup := fits.nodupObjects
  rw [before] at nodup
  unfold Hooks.useObject
  simp only [own, objIds]
  refine sound.of_live found live ?_ ?_ sound.noFaults (call_setCall _ _ _) ?_ ?_ ?_ ?_
  · rfl
  · constructor
    · intro id' other
      exact Function.update_of_ne other _ _
    · exact fun _ _ => rfl
    · intro hook other
      exact Function.update_of_ne other _ _
    · exact fun _ _ _ => Iff.rfl
    · intro objId id' other
      exact update_owner_iff (fresh id') (fun same => other (Option.some.inj same).symm) objId
  · have after := @heldObjects_of_running (state.useObject id call)
      { call with objects := call.objects ++ [state.objectIds.getId.1] } _ running
      (by simp only [Hooks.useObject, own, objIds]; exact Function.update_self _ _ _)
    simp only [Hooks.useObject, own, objIds] at after
    constructor
    · intro _
      exact ⟨(fits.lists live).1, by simp [Hooks.setCall]⟩
    · exact fits.nodup
    · exact fits.pointers
    · rw [after]
      exact nodup_append_singleton nodup absent
    · intro objId
      rw [after, mem_append_singleton, ← before, ← fits.objects objId]
      exact update_owner_some_iff objId
    · exact fits.tidy
    · intro _ objId member
      rw [after]
      rcases List.mem_append.mp member with old | new
      · have there := fits.got running objId old
        rw [before] at there
        exact List.mem_append_left _ there
      · exact List.mem_append_right _ new
    · exact fits.operates
  · rfl
  · exact sound.objectIds.getId
  · intro objId id' owned
    apply (IdPool.used_getId_iff sound.objectIds objId).mpr
    by_cases new : objId = state.objectIds.getId.1
    · exact .inl new
    · have owned := (Function.update_of_ne new _ _).symm.trans owned
      exact .inr (sound.objectOwner objId id' owned).2

theorem useObject_setCall (state : Hooks) (id : Nat) (call call' : HookedCall) :
    (state.setCall id call).useObject id call' = state.useObject id call' := by
  unfold Hooks.useObject
  rcases own : state.hookId with _ | hook
  · simp [own, Hooks.setCall, Hooks.fault]
  · rcases list : state.objIds hook with _ | objs
    · simp [own, list, Hooks.setCall, Hooks.fault]
    · simp [own, list, Hooks.setCall]

/-- The body of a running call goes on under its own id. -/
theorem Sound.advance {state : Hooks} (sound : Sound state) {id : Nat} {call : HookedCall}
    (found : state.call id = some call) (running : call.phase = .running)
    (own : asks call = true → state.hookId = some call.hook) : Sound (state.advance id call) := by
  have live := live_of_running running
  have fits := sound.fits id call found
  have keep {call' : HookedCall} (hook : call'.hook = call.hook) (phase : call'.phase = call.phase)
      (objects : call'.objects = call.objects)
      (tidy : ∀ slot ∈ call'.slots, Tidy call (held state call) slot) :
      Sound (state.setCall id call') :=
    sound.setCall found live hook (fits.with_slots hook phase tidy objects fun _ => running)
  unfold Hooks.advance
  cases body : call.body with
  | nil => exact keep rfl rfl rfl fits.tidy
  | cons stage rest =>
      unfold asks at own
      rw [body] at own
      cases stage with
      | paths nuls =>
          have test : (state.hookId.isSome || nuls.all fun nul => nul) = true := by
            rw [Bool.or_eq_true, or_iff_not_imp_right]
            intro some
            rw [own (by simpa using some)]
            rfl
          simp only [expect_of test]
          refine keep (by rfl) (by rfl) (by rfl) ?_
          intro slot member
          rcases List.mem_append.mp member with old | new
          · exact fits.tidy slot old
          · obtain ⟨nul, there, same⟩ := List.mem_map.mp new
            rw [← same]
            apply tidy_usePath running
            intro clear
            apply own
            rw [List.any_eq_true]
            exact ⟨nul, there, by rw [clear]; rfl⟩
      | buffer =>
          have own := own rfl
          have test : state.hookId.isSome = true := by
            rw [own]
            rfl
          simp only [expect_of test]
          refine keep (by rfl) (by rfl) (by rfl) ?_
          intro slot member
          rcases List.mem_append.mp member with old | new
          · exact fits.tidy slot old
          · rw [List.mem_singleton.mp new]
            simp only [Hooks.useBuffer, own]
            exact ⟨running, rfl⟩
      | object =>
          have begun : Sound (state.setCall id { call with body := rest }) :=
            keep rfl rfl rfl fits.tidy
          have after := begun.useObject (call_setCall _ _ _) running (own rfl)
          rw [useObject_setCall] at after
          exact after
      | operate => exact keep rfl rfl rfl fits.tidy
      | copyOut =>
          simp only [expect_of (fits.owns running)]
          exact keep rfl rfl rfl fits.tidy

/-- A slot of a running call gets a value that belongs to it. -/
theorem Sound.setSlot {state : Hooks} (sound : Sound state) {id index : Nat} {call : HookedCall}
    (found : state.call id = some call) (live : call.phase ≠ .settled) {slot : Slot}
    (tidy : Tidy call (held state call) slot) :
    Sound (state.setCall id { call with slots := call.slots.set index slot }) := by
  have fits := sound.fits id call found
  refine sound.setCall found live (by rfl) ?_
  refine fits.with_slots (by rfl) (by rfl) ?_ (by rfl) fits.operates
  intro slot' member
  rcases List.mem_or_eq_of_mem_set member with old | new
  · exact fits.tidy slot' old
  · rw [new]
    exact tidy

/-- Memory that `malloc` returns to a running call. -/
theorem Sound.receive {state : Hooks} (sound : Sound state) {id index pointer : Nat}
    {call : HookedCall} {addrs : List Nat} {slot : Slot} (found : state.call id = some call)
    (running : call.phase = .running) (list : state.memAddrs call.hook = some addrs)
    (unused : state.pointerOwner pointer = none)
    (tidy : Tidy call (addrs ++ [pointer]) slot) :
    Sound ({ state with
      pointerOwner := Function.update state.pointerOwner pointer (some id)
      memAddrs := Function.update state.memAddrs call.hook (some (addrs ++ [pointer]))
      hookId := some call.hook }.setCall id { call with slots := call.slots.set index slot }) := by
  have live := live_of_running running
  have fits := sound.fits id call found
  have before := held_of_running running list
  have fresh (id' : Nat) : state.pointerOwner pointer ≠ some id' := by
    rw [unused]
    exact fun bad => nomatch bad
  have absent : pointer ∉ addrs := by
    rw [← before]
    intro member
    exact fresh id ((fits.pointers pointer).mpr member)
  have nodup := fits.nodup
  rw [before] at nodup
  refine sound.of_live found live ?_ ?_ sound.noFaults (call_setCall _ _ _) ?_ ?_ ?_ ?_
  · rfl
  · constructor
    · intro id' other
      exact Function.update_of_ne other _ _
    · intro hook other
      exact Function.update_of_ne other _ _
    · exact fun _ _ => rfl
    · intro pointer' id' other
      exact update_owner_iff (fresh id') (fun same => other (Option.some.inj same).symm) pointer'
    · exact fun _ _ _ => Iff.rfl
  · have after : held ({ state with
        pointerOwner := Function.update state.pointerOwner pointer (some id)
        memAddrs := Function.update state.memAddrs call.hook (some (addrs ++ [pointer]))
        hookId := some call.hook }.setCall id { call with slots := call.slots.set index slot })
          { call with slots := call.slots.set index slot } = addrs ++ [pointer] :=
      held_of_running running (Function.update_self _ _ _)
    constructor
    · intro _
      exact ⟨by simp [Hooks.setCall], (fits.lists live).2⟩
    · rw [after]
      exact nodup_append_singleton nodup absent
    · intro pointer'
      rw [after, mem_append_singleton, ← before, ← fits.pointers pointer']
      exact update_owner_some_iff pointer'
    · exact fits.nodupObjects
    · exact fits.objects
    · intro slot' member
      rw [after]
      rcases List.mem_or_eq_of_mem_set member with old | new
      · have there := fits.tidy slot' old
        rw [before] at there
        cases slot' with
        | rejected => trivial
        | malloc => exact there
        | filling => exact ⟨there.1, List.mem_append_left _ there.2⟩
        | ready => exact fun here => List.mem_append_left _ (there here)
      · rw [new]
        cases slot with
        | rejected => trivial
        | malloc => exact tidy
        | filling => exact tidy
        | ready => exact tidy
    · exact fits.got
    · exact fits.operates
  · rfl
  · exact sound.objectIds
  · intro objId id' owned
    exact (sound.objectOwner objId id' owned).2

theorem sound_answer {state state' : Hooks} {id index : Nat} {pointer? : Option Nat}
    (sound : Sound state) (taken : state.answer id index pointer? = some state') : Sound state' := by
  unfold Hooks.answer at taken
  rcases found : state.call id with _ | call
  · simp only [found] at taken
    cases taken
  · simp only [found] at taken
    have fits := sound.fits id call found
    rcases here : call.slots[index]? with _ | slot
    · simp only [here] at taken
      cases taken
    · have tidy := fits.tidy slot (List.mem_of_getElem? here)
      cases slot with
      | malloc hook path =>
          obtain ⟨running, own⟩ := tidy
          have live := live_of_running running
          cases pointer? with
          | none =>
              simp only [here] at taken
              cases taken
              exact sound.setSlot found live trivial
          | some pointer =>
              simp only [here] at taken
              by_cases unused : state.pointerOwner pointer = none
              · obtain ⟨addrs, list⟩ := Option.isSome_iff_exists.mp (fits.lists live).1
                rw [if_neg (not_not_intro unused), own] at taken
                simp only [list] at taken
                cases taken
                apply sound.receive found running list unused
                cases path with
                | true => exact ⟨running, List.mem_append_right _ List.mem_cons_self⟩
                | false => exact fun _ => List.mem_append_right _ List.mem_cons_self
              · rw [if_pos unused] at taken
                cases taken
      | rejected =>
          simp only [here] at taken
          cases taken
      | filling =>
          simp only [here] at taken
          cases taken
      | ready =>
          simp only [here] at taken
          cases taken

theorem sound_fill {state state' : Hooks} {id index : Nat} (sound : Sound state)
    (taken : state.fill id index = some state') : Sound state' := by
  unfold Hooks.fill at taken
  rcases found : state.call id with _ | call
  · simp only [found] at taken
    cases taken
  · simp only [found] at taken
    have fits := sound.fits id call found
    rcases here : call.slots[index]? with _ | slot
    · simp only [here] at taken
      cases taken
    · have tidy := fits.tidy slot (List.mem_of_getElem? here)
      cases slot with
      | filling pointer =>
          have owned := decide_eq_true ((fits.pointers pointer).mpr tidy.2)
          simp only [here, expect_of owned] at taken
          cases taken
          exact sound.setSlot found (live_of_running tidy.1) fun _ => tidy.2
      | rejected =>
          simp only [here] at taken
          cases taken
      | malloc =>
          simp only [here] at taken
          cases taken
      | ready =>
          simp only [here] at taken
          cases taken

theorem sound_operated {state state' : Hooks} {id : Nat} {ok : Bool} (sound : Sound state)
    (taken : state.operated id ok = some state') : Sound state' := by
  unfold Hooks.operated at taken
  rcases found : state.call id with _ | call
  · simp only [found] at taken
    cases taken
  · simp only [found] at taken
    have fits := sound.fits id call found
    by_cases operating : call.operating = true
    · have running := fits.operates operating
      rw [if_pos operating, expect_of (fits.owns running)] at taken
      cases taken
      refine sound.setCall found (live_of_running running) (by rfl) ?_
      refine fits.with_slots (by rfl) (by rfl) ?_ (by rfl) fun _ => running
      intro slot member
      cases ok with
      | true => exact fits.tidy slot member
      | false =>
          rcases List.mem_append.mp member with old | new
          · exact fits.tidy slot old
          · rw [List.mem_singleton.mp new]
            trivial
    · rw [if_neg operating] at taken
      cases taken

/-- The deletion of the objects of one call. -/
theorem deleteObjects {id : Nat} (objs : List Nat) (state : Hooks)
    (wellFormed : state.objectIds.WellFormed) (nodup : objs.Nodup)
    (owned : ∀ objId ∈ objs, state.objectOwner objId = some id)
    (used : ∀ objId id', state.objectOwner objId = some id' → state.objectIds.Used objId) :
    ∃ pool owner, objs.foldl (Hooks.deleteObject id) state =
        { state with objectIds := pool, objectOwner := owner } ∧
      pool.WellFormed ∧ (∀ objId id', owner objId = some id' → pool.Used objId) ∧
      ∀ objId id', owner objId = some id' ↔ state.objectOwner objId = some id' ∧ objId ∉ objs := by
  induction objs generalizing state with
  | nil =>
      refine ⟨state.objectIds, state.objectOwner, rfl, wellFormed, used, ?_⟩
      intro objId id'
      exact (and_iff_left List.not_mem_nil).symm
  | cons first rest ih =>
      obtain ⟨new, nodup⟩ := List.nodup_cons.mp nodup
      have mine := owned first List.mem_cons_self
      have firstUsed := used first id mine
      have next : Hooks.deleteObject id state first =
          { state with
            objectIds := state.objectIds.releaseId first
            objectOwner := Function.update state.objectOwner first none } := by
        unfold Hooks.deleteObject
        rw [expect_of (decide_eq_true mine)]
      obtain ⟨pool, owner, same, pools, users, owners⟩ := ih (Hooks.deleteObject id state first)
        (by rw [next]; exact wellFormed.releaseId firstUsed) nodup
        (by
          intro objId member
          rw [next]
          exact (update_owner_none_iff objId).mpr
            ⟨owned objId (List.mem_cons_of_mem _ member), fun same => new (same ▸ member)⟩)
        (by
          intro objId id' still
          rw [next] at still ⊢
          obtain ⟨still, other⟩ := (update_owner_none_iff objId).mp still
          exact (IdPool.used_releaseId_iff _ _ _).mpr ⟨used objId id' still, other⟩)
      refine ⟨pool, owner, ?_, pools, users, ?_⟩
      · rw [List.foldl_cons, same, next]
      · intro objId id'
        rw [owners objId id', next, List.mem_cons, not_or]
        change Function.update _ _ _ _ = _ ∧ _ ↔ _
        rw [update_owner_none_iff, and_assoc]

/-- The `finally` block of a call whose hooks have all returned. -/
theorem Sound.cleanUp {state : Hooks} (sound : Sound state) {id : Nat} {call : HookedCall}
    (found : state.call id = some call) (running : call.phase = .running)
    (idle : call.operating = false) (whole : call.pending = false) :
    Sound (state.cleanUp id call) := by
  have live := live_of_running running
  have fits := sound.fits id call found
  obtain ⟨addrs, memAddrs⟩ := Option.isSome_iff_exists.mp (fits.lists live).1
  obtain ⟨objs, objIds⟩ := Option.isSome_iff_exists.mp (fits.lists live).2
  have pointers := held_of_running running memAddrs
  have objects := heldObjects_of_running running objIds
  have owned (objId : Nat) : state.objectOwner objId = some id ↔ objId ∈ objs := by
    rw [← objects]
    exact fits.objects objId
  have nodup := fits.nodupObjects
  rw [objects] at nodup
  obtain ⟨pool, owner, deleted, wellFormed, used, owners⟩ := deleteObjects objs state
    sound.objectIds nodup (fun objId => (owned objId).mpr)
    fun objId id' owned => (sound.objectOwner objId id' owned).2
  unfold Hooks.cleanUp
  simp only [objIds, memAddrs, deleted]
  refine sound.of_live found live ?_ ?_ sound.noFaults (call_setCall _ _ _) ?_ ?_ wellFormed used
  · rfl
  · constructor
    · intro id' other
      exact Function.update_of_ne other _ _
    · exact fun _ _ => rfl
    · exact fun _ _ => rfl
    · exact fun _ _ _ => Iff.rfl
    · intro objId id' other
      change owner objId = some id' ↔ _
      rw [owners objId id']
      apply and_iff_left_of_imp
      intro mine member
      rw [(owned objId).mpr member] at mine
      exact other (Option.some.inj mine).symm
  · constructor
    · intro _
      exact fits.lists live
    · have nodup := fits.nodup
      rw [pointers] at nodup
      exact nodup
    · intro pointer
      change _ ↔ pointer ∈ addrs
      rw [← pointers]
      exact fits.pointers pointer
    · exact List.nodup_nil
    · intro objId
      change owner objId = some id ↔ objId ∈ []
      rw [owners objId id, owned objId]
      simp
    · intro slot member
      have calm := List.any_eq_false.mp whole slot member
      cases slot with
      | rejected => trivial
      | malloc => exact absurd rfl calm
      | filling => exact absurd rfl calm
      | ready => exact fun bad => nomatch bad
    · exact fun bad => nomatch bad
    · intro operating
      rw [show _ = false from idle] at operating
      cases operating
  · rfl

theorem sound_resume {state state' : Hooks} {id : Nat} (sound : Sound state)
    (undisturbed : Undisturbed state (.resume id)) (taken : state.resume id = some state') :
    Sound state' := by
  unfold Hooks.resume at taken
  rcases found : state.call id with _ | call
  · simp only [found] at taken
    cases taken
  · simp only [found] at taken
    by_cases away : call.phase ≠ .running ∨ call.operating = true
    · rw [if_pos away] at taken
      cases taken
    · rw [if_neg away] at taken
      have running : call.phase = .running := not_not.mp fun bad => away (.inl bad)
      have idle : call.operating = false := Bool.eq_false_iff.mpr fun bad => away (.inr bad)
      by_cases failed : call.failed = true
      · rw [if_pos failed] at taken
        cases taken
        exact sound.cleanUp found running idle (undisturbed.whole id call rfl found failed)
      · rw [if_neg failed] at taken
        by_cases pending : call.pending = true
        · rw [if_pos pending] at taken
          cases taken
        · rw [if_neg pending] at taken
          by_cases ended : call.body = []
          · rw [if_pos ended] at taken
            cases taken
            exact sound.cleanUp found running idle (Bool.eq_false_iff.mpr pending)
          · rw [if_neg ended] at taken
            cases taken
            exact sound.advance found running
              (undisturbed.own id call rfl found (Bool.eq_false_iff.mpr failed))

/-- The hooks of a call whose body is over stay as they are. -/
theorem tidy_of_over {call call' : HookedCall} {addrs addrs' : List Nat} {slot : Slot}
    (tidy : Tidy call addrs slot) (ended : call.phase ≠ .running) (ended' : call'.phase ≠ .running) :
    Tidy call' addrs' slot := by
  cases slot with
  | rejected => trivial
  | malloc => exact absurd tidy.1 ended
  | filling => exact absurd tidy.1 ended
  | ready => exact fun running => absurd running ended'

theorem sound_freed {state state' : Hooks} {id : Nat} (sound : Sound state)
    (taken : state.freed id = some state') : Sound state' := by
  unfold Hooks.freed at taken
  rcases found : state.call id with _ | call
  · simp only [found] at taken
    cases taken
  · simp only [found] at taken
    have fits := sound.fits id call found
    rcases phase : call.phase with _ | (_ | ⟨pointer, rest⟩) | _
    · simp only [phase] at taken
      cases taken
    · simp only [phase] at taken
      cases taken
    · obtain ⟨ended, live⟩ := over_of_freeing phase
      have left : held state call = pointer :: rest := by
        unfold held
        rw [phase]
      have nodup := fits.nodup
      rw [left] at nodup
      obtain ⟨absent, nodup⟩ := List.nodup_cons.mp nodup
      have mine : state.pointerOwner pointer = some id :=
        (fits.pointers pointer).mpr (by rw [left]; exact List.mem_cons_self)
      simp only [phase, expect_of (decide_eq_true mine)] at taken
      cases taken
      refine sound.of_live found live ?_ ?_ sound.noFaults (call_setCall _ _ _) ?_ ?_
        sound.objectIds ?_
      · rfl
      · constructor
        · intro id' other
          exact Function.update_of_ne other _ _
        · exact fun _ _ => rfl
        · exact fun _ _ => rfl
        · intro pointer' id' other
          apply update_owner_iff
          · rw [mine]
            exact fun same => other (Option.some.inj same).symm
          · exact fun bad => nomatch bad
        · exact fun _ _ _ => Iff.rfl
      · constructor
        · intro _
          exact fits.lists live
        · exact nodup
        · intro pointer'
          change Function.update _ _ _ _ = _ ↔ pointer' ∈ rest
          rw [update_owner_none_iff, fits.pointers pointer', left, List.mem_cons]
          apply Iff.intro
          · intro both
            exact both.1.resolve_left both.2
          · intro member
            exact ⟨.inr member, fun same => absent (same ▸ member)⟩
        · exact List.nodup_nil
        · intro objId
          have same := fits.objects objId
          unfold heldObjects at same
          rw [phase] at same
          exact same
        · intro slot member
          exact tidy_of_over (fits.tidy slot member) ended fun bad => nomatch bad
        · exact fun bad => nomatch bad
        · intro operating
          exact absurd (fits.operates operating) ended
      · rfl
      · intro objId id' owned
        exact (sound.objectOwner objId id' owned).2
    · simp only [phase] at taken
      cases taken

theorem sound_finish {state state' : Hooks} {id : Nat} (sound : Sound state)
    (taken : state.finish id = some state') : Sound state' := by
  unfold Hooks.finish at taken
  rcases found : state.call id with _ | call
  · simp only [found] at taken
    cases taken
  · simp only [found] at taken
    have fits := sound.fits id call found
    rcases phase : call.phase with _ | (_ | ⟨pointer, rest⟩) | _
    · simp only [phase] at taken
      cases taken
    · obtain ⟨ended, live⟩ := over_of_freeing phase
      simp only [phase] at taken
      cases taken
      have used := sound.used id call found live
      refine sound.of_framed ?_ sound.noFaults (call_setCall _ _ _) ?_ ?_ (sound.hookIds.releaseId used)
        ?_ ?_ sound.objectIds ?_
      · exact framed_lists rfl rfl rfl rfl rfl
      · have pointers := fits.pointers
        have objects := fits.objects
        unfold held at pointers
        unfold heldObjects at objects
        rw [phase] at pointers objects
        constructor
        · intro bad
          exact absurd rfl bad
        · exact List.nodup_nil
        · exact pointers
        · exact List.nodup_nil
        · exact objects
        · intro slot member
          exact tidy_of_over (fits.tidy slot member) ended fun bad => nomatch bad
        · exact fun bad => nomatch bad
        · intro operating
          exact absurd (fits.operates operating) ended
      · intro id' call' other found' live' same
        exact other (sound.apart id' call' id call found' found live' live same)
      · intro bad
        exact absurd rfl bad
      · intro hook other before
        exact (IdPool.used_releaseId_iff _ _ _).mpr ⟨before, other⟩
      · intro objId id' owned
        exact (sound.objectOwner objId id' owned).2
    · simp only [phase] at taken
      cases taken
    · simp only [phase] at taken
      cases taken

theorem setCall_setCall (state : Hooks) (id : Nat) (call call' : HookedCall) :
    (state.setCall id call).setCall id call' = state.setCall id call' := by
  simp only [Hooks.setCall, Function.update_idem]

theorem expect_setCall (state : Hooks) (id : Nat) (call : HookedCall) (test : Bool)
    (fault : HookFault) :
    (state.setCall id call).expect test fault = (state.expect test fault).setCall id call := by
  cases test with
  | true => rfl
  | false => rfl

/-- The body writes the record of its call in any case. -/
theorem advance_setCall (state : Hooks) (id : Nat) (call : HookedCall) :
    (state.setCall id call).advance id call = state.advance id call := by
  unfold Hooks.advance
  cases call.body with
  | nil => exact setCall_setCall state id call call
  | cons stage rest =>
      cases stage with
      | paths nuls =>
          simp only [expect_setCall, setCall_setCall]
          rfl
      | buffer =>
          simp only [expect_setCall, setCall_setCall]
          rfl
      | object => exact useObject_setCall state id call _
      | operate => exact setCall_setCall state id call _
      | copyOut =>
          simp only [expect_setCall, setCall_setCall]
          rfl

/-- A new call gets a hook id that no call in flight has. -/
theorem sound_start {state : Hooks} {id : Nat} {function : HookedFunction} {early : Bool}
    (sound : Sound state) (new : state.call id = none) : Sound (state.start id function early) := by
  have unused := @IdPool.not_used_getId state.hookIds
  unfold Hooks.start
  rw [← advance_setCall]
  apply Sound.advance
  · refine sound.of_framed ?_ sound.noFaults (call_setCall _ _ _) ?_ ?_ sound.hookIds.getId ?_ ?_
      sound.objectIds ?_
    · exact framed_lists rfl rfl rfl rfl rfl
    · constructor
      · intro _
        exact ⟨by simp [Hooks.setCall], by simp [Hooks.setCall]⟩
      · rw [held_of_running rfl (Function.update_self _ _ _)]
        exact List.nodup_nil
      · intro pointer
        rw [held_of_running rfl (Function.update_self _ _ _)]
        apply iff_of_false
        · intro owned
          have known := sound.pointerOwner pointer id owned
          rw [new] at known
          cases known
        · exact List.not_mem_nil
      · rw [heldObjects_of_running rfl (Function.update_self _ _ _)]
        exact List.nodup_nil
      · intro objId
        rw [heldObjects_of_running rfl (Function.update_self _ _ _)]
        apply iff_of_false
        · intro owned
          have known := (sound.objectOwner objId id owned).1
          rw [new] at known
          cases known
        · exact List.not_mem_nil
      · intro slot member
        cases member
      · intro _ objId member
        cases member
      · intro operating
        cases operating
    · intro id' call' other found live same
      have used := sound.used id' call' found live
      rw [same] at used
      exact unused used
    · intro _
      exact (IdPool.used_getId_iff sound.hookIds _).mpr (.inl rfl)
    · intro hook _ used
      exact (IdPool.used_getId_iff sound.hookIds hook).mpr (.inr used)
    · intro objId id' owned
      exact (sound.objectOwner objId id' owned).2
  · exact call_setCall _ _ _
  · rfl
  · intro _
    rfl

theorem sound_step (state : Hooks) (label : HookLabel) (state' : Hooks) (sound : Sound state)
    (undisturbed : Undisturbed state label) (taken : state.step label = some state') :
    Sound state' := by
  cases label with
  | start id function early =>
      by_cases new : state.call id = none
      · simp only [Hooks.step, new] at taken
        cases taken
        exact sound_start sound new
      · simp [Hooks.step, new] at taken
  | answer id index pointer? => exact sound_answer sound taken
  | fill id index => exact sound_fill sound taken
  | resume id => exact sound_resume sound undisturbed taken
  | operated id ok => exact sound_operated sound taken
  | freed id => exact sound_freed sound taken
  | finish id => exact sound_finish sound taken

/-- In a run in which every call finds its own hook id when it goes on to a further hook, and is not
rejected while a hook of its own is pending, memory and objects stay with their calls. -/
theorem safe_of_undisturbed {state : Hooks} (reached : Reaches Hooks.step Undisturbed .empty state) :
    Safe state :=
  (reached.invariant sound_empty sound_step).safe

/-- A step that does not resume a body meets the condition. -/
theorem undisturbed_of_other {state : Hooks} {label : HookLabel} (other : ∀ id, label ≠ .resume id) :
    Undisturbed state label := by
  constructor
  · intro id call resumed
    exact absurd resumed (other id)
  · intro id call resumed
    exact absurd resumed (other id)

/-- A body that was not rejected and asks for no further hook meets the condition. -/
theorem undisturbed_resume {state : Hooks} {id : Nat} {call : HookedCall}
    (found : state.call id = some call) (fine : call.failed = false)
    (own : asks call = true → state.hookId = some call.hook) : Undisturbed state (.resume id) := by
  constructor
  · intro id' call' same found' _ asking
    cases same
    cases found.symm.trans found'
    exact own asking
  · intro id' call' same found' failed
    cases same
    cases found.symm.trans found'
    rw [fine] at failed
    cases failed

/-- A rename that gets its two pointers while an unlink is in flight. -/
theorem safe_rename_unlink : ∃ state, follow Hooks.step .empty
    [.start 0 (.unlink false) false, .start 1 (.rename false false) false, .answer 0 0 (some 8),
      .answer 1 0 (some 16), .fill 1 0, .resume 1] = some state ∧ Safe state := by
  refine ⟨_, rfl, safe_of_undisturbed (@reaches_of_follow _ _ _ _ _ _ _
    [.start 0 (.unlink false) false, .start 1 (.rename false false) false, .answer 0 0 (some 8),
      .answer 1 0 (some 16), .fill 1 0, .resume 1] .first ?_ rfl)⟩
  refine ⟨undisturbed_of_other (by simp), ?_⟩
  rintro _ ⟨⟩
  refine ⟨undisturbed_of_other (by simp), ?_⟩
  rintro _ ⟨⟩
  refine ⟨undisturbed_of_other (by simp), ?_⟩
  rintro _ ⟨⟩
  refine ⟨undisturbed_of_other (by simp), ?_⟩
  rintro _ ⟨⟩
  refine ⟨undisturbed_of_other (by simp), ?_⟩
  rintro _ ⟨⟩
  exact ⟨undisturbed_resume rfl rfl fun _ => rfl, fun _ _ => trivial⟩

/-- The first path of a link whose second path has a null byte is copied to freed memory. -/
theorem link_with_null_byte :
    ¬∀ state, Reaches Hooks.step (fun _ _ => True) .empty state → Safe state := by
  intro safe
  have reached := safe _ (reaches_of_follow .first
    (along_of_forall (fun _ _ => trivial) _
      [.start 0 (.link false true) false, .answer 0 0 (some 8), .resume 0, .freed 0, .fill 0 0]) rfl)
  exact absurd reached.noFaults (by decide)

end NodeExt2fs.Hooking
