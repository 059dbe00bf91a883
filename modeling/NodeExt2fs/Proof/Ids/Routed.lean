import NodeExt2fs.Construction.Js.Mounting
import NodeExt2fs.Proof.Ids.Unshared

/-!
This file proves that each request of the C code reaches the disk of its filesystem, and each name the
array of its call.
-/

namespace NodeExt2fs.Ids
open Programs Structures Glue Js

variable {Object : Type} {state state' : ObjectUsers Object}

/-- A number below 2^31 is the same for the C code. -/
theorem toInt_ofNat {id : Nat} (small : id < 2 ^ 31) : (BitVec.ofNat 32 id).toInt = id := by
  have same : (BitVec.ofNat 32 id).toNat = id := by
    rw [BitVec.toNat_ofNat]
    omega
  rw [BitVec.toInt_eq_toNat_of_lt (by omega), same]

/-- The text of such a number fits into the buffer. -/
theorem diskName_some {id : Nat} (small : id < 2 ^ 31) :
    diskName (BitVec.ofNat 32 id) = some (Decimals.write id) := by
  have short : (Decimals.write id).length ≤ 10 := by
    rw [Decimals.write, if_neg (by omega), Decimals.length_digits_le (by decide)]
    exact lt_of_lt_of_le small (by decide)
  rw [diskName, toInt_ofNat small]
  exact if_pos (Nat.succ_le_succ short)

/-- The channel gets back the number that was written. -/
theorem jsOpenEntry_write (number : BitVec 32) :
    jsOpenEntry (Decimals.write number.toInt) = number := by
  rw [jsOpenEntry, Decimals.read_write]
  exact BitVec.ofInt_toInt

/-- The number that the C code has is that of the user. -/
def Faithful (user : ObjectUser Object) : Prop :=
  ∀ number, user.asks = some number → number = (BitVec.ofNat 32 user.id).toInt

/-- The record of the numbers agrees with the users, none of which share a number. -/
structure Routed (state : ObjectUsers Object) (record : Tenancy (SharedObjects Object) Object) : Prop where
  kept : Kept record
  pool : record.pool = state.shared
  held : ∀ name user, state.users name = some user → (user.id, user.object) ∈ record.held
  apart : ∀ name name' user user', state.users name = some user → state.users name' = some user' →
    user.id = user'.id → name = name'
  faithful : ∀ name user, state.users name = some user → Faithful user

/-- No more numbers were handed out than an `int` counts. -/
def Numbered (state : ObjectUsers Object) (_ : UserEvent Object) : Prop :=
  state.shared.nextId + 1 < 2 ^ 31

theorem Routed.small {record : Tenancy (SharedObjects Object) Object} (routed : Routed state record)
    (bounded : state.shared.nextId < 2 ^ 31) {name : Nat} {user : ObjectUser Object}
    (present : state.users name = some user) : user.id < 2 ^ 31 := by
  have accounted := routed.kept.accounted
  have listed : user.id ∈ record.ids :=
    List.mem_map.mpr ⟨(user.id, user.object), routed.held name user present, rfl⟩
  have issued := accounted.shared.mem_iff.mp (List.mem_append_left _ listed)
  have next : record.pool.nextId + 1 = 1 + record.peak := accounted.next
  rw [routed.pool] at next
  have last := (List.mem_range'_1.mp issued).2
  omega

theorem update_eq_some {users : Nat → Option (ObjectUser Object)} {name name' : Nat}
    {value : Option (ObjectUser Object)} {user : ObjectUser Object}
    (present : Function.update users name value name' = some user) :
    name' = name ∧ value = some user ∨ name' ≠ name ∧ users name' = some user := by
  by_cases same : name' = name
  · rw [same, Function.update_self] at present
    exact .inl ⟨same, present⟩
  · rw [Function.update_of_ne same] at present
    exact .inr ⟨same, present⟩

section Steps

variable {record : Tenancy (SharedObjects Object) Object} (routed : Routed state record) {name : Nat}
include routed

/-- A user comes with a number that nobody has. -/
theorem routed_enter {obj : Object} {holding : Nat → ObjectUser Object}
    (named : ∀ id, (holding id).id = id ∧ (holding id).object = obj ∧ Faithful (holding id))
    (taken : state.enter name obj holding = some state') : ∃ record', Routed state' record' := by
  rw [ObjectUsers.enter] at taken
  cases there : state.users name with
  | some user =>
      rw [there] at taken
      cases taken
  | none =>
      rw [there] at taken
      generalize given : state.shared.setObject obj = answer at taken
      obtain rfl := Option.some.inj taken
      have acquired : record.step (objectIssuer Object) (.acquire obj) = some
          { pool := answer.2
            held := (answer.1, obj) :: record.held
            issued := answer.1 :: record.issued
            peak := max record.peak (record.held.length + 1) } := by
        rw [← given, ← routed.pool]
        rfl
      have kept := kept_step record (.acquire obj) _ routed.kept trivial acquired
      have fresh := (List.nodup_cons.mp kept.accounted.unshared.distinct).1
      obtain ⟨sameId, sameObject, faithful⟩ := named answer.1
      have other {name' : Nat} {user : ObjectUser Object} (present : state.users name' = some user) :
          user.id ≠ answer.1 := by
        intro same
        have listed : user.id ∈ record.ids :=
          List.mem_map.mpr ⟨(user.id, user.object), routed.held name' user present, rfl⟩
        exact fresh (same ▸ listed)
      refine ⟨_, kept, rfl, ?_, ?_, ?_⟩
      · intro name' user present
        rcases update_eq_some present with ⟨_, new⟩ | ⟨_, old⟩
        · rw [← Option.some.inj new, sameId, sameObject]
          exact List.mem_cons_self
        · exact List.mem_cons_of_mem _ (routed.held name' user old)
      · intro name' name'' user user' present present' equal
        rcases update_eq_some present with ⟨here, new⟩ | ⟨_, old⟩
        · rcases update_eq_some present' with ⟨here', _⟩ | ⟨_, old'⟩
          · exact here.trans here'.symm
          · rw [← Option.some.inj new, sameId] at equal
            exact absurd equal.symm (other old')
        · rcases update_eq_some present' with ⟨_, new'⟩ | ⟨_, old'⟩
          · rw [← Option.some.inj new', sameId] at equal
            exact absurd equal (other old)
          · exact routed.apart name' name'' user user' old old' equal
      · intro name' user present
        rcases update_eq_some present with ⟨_, new⟩ | ⟨_, old⟩
        · exact Option.some.inj new ▸ faithful
        · exact routed.faithful name' user old

/-- A user leaves with its own number. -/
theorem routed_dismiss {user : ObjectUser Object} (present : state.users name = some user) :
    ∃ record', Routed (state.dismiss name user.id) record' := by
  have listed : user.id ∈ record.ids :=
    List.mem_map.mpr ⟨(user.id, user.object), routed.held name user present, rfl⟩
  have released : record.step (objectIssuer Object) (.release user.id) = some { record with
      pool := state.shared.deleteObject user.id
      held := record.held.eraseP fun entry => entry.1 = user.id } := by
    rw [← routed.pool]
    rfl
  have left {name' : Nat} {other : ObjectUser Object}
      (there : (state.dismiss name user.id).users name' = some other) :
      name' ≠ name ∧ state.users name' = some other := by
    rcases update_eq_some there with ⟨_, gone⟩ | left
    · cases gone
    · exact left
  refine ⟨_, kept_step record (.release user.id) _ routed.kept listed released, rfl, ?_, ?_, ?_⟩
  · intro name' other there
    obtain ⟨different, before⟩ := left there
    rw [List.mem_eraseP_of_neg]
    · exact routed.held name' other before
    · intro same
      exact different (routed.apart name' name other user before present (of_decide_eq_true same))
  · intro name' name'' other other' there there' equal
    exact routed.apart name' name'' other other' (left there).2 (left there').2 equal
  · intro name' other there
    exact routed.faithful name' other (left there).2

/-- A user goes on with the same number. -/
theorem routed_become {user next : ObjectUser Object} (present : state.users name = some user)
    (same : next.id = user.id ∧ next.object = user.object) (faithful : Faithful next) :
    ∃ record', Routed (state.become name next) record' := by
  have before {name' : Nat} {other : ObjectUser Object}
      (there : (state.become name next).users name' = some other) :
      ∃ old, state.users name' = some old ∧ other.id = old.id ∧ other.object = old.object := by
    rcases update_eq_some there with ⟨here, new⟩ | ⟨_, old⟩
    · rw [here, ← Option.some.inj new]
      exact ⟨user, present, same⟩
    · exact ⟨other, old, rfl, rfl⟩
  refine ⟨record, routed.kept, routed.pool, ?_, ?_, ?_⟩
  · intro name' other there
    obtain ⟨old, present', sameId, sameObject⟩ := before there
    rw [sameId, sameObject]
    exact routed.held name' old present'
  · intro name' name'' other other' there there' equal
    obtain ⟨old, present, sameId, _⟩ := before there
    obtain ⟨old', present', sameId', _⟩ := before there'
    rw [sameId, sameId'] at equal
    exact routed.apart name' name'' old old' present present' equal
  · intro name' other there
    rcases update_eq_some there with ⟨_, new⟩ | ⟨_, old⟩
    · exact Option.some.inj new ▸ faithful
    · exact routed.faithful name' other old

end Steps

theorem nextId_setObject (shared : SharedObjects Object) (obj : Object) :
    (shared.setObject obj).2.nextId ≤ shared.nextId + 1 := by
  by_cases empty : shared.idPool.length = 0
  · simp [SharedObjects.setObject, SharedObjects.reserveId, empty]
  · simp [SharedObjects.setObject, SharedObjects.reserveId, empty]

theorem nextId_enter {name : Nat} {obj : Object} {holding : Nat → ObjectUser Object}
    (taken : state.enter name obj holding = some state') :
    state'.shared.nextId ≤ state.shared.nextId + 1 := by
  rw [ObjectUsers.enter] at taken
  cases there : state.users name with
  | some user =>
      rw [there] at taken
      cases taken
  | none =>
      rw [there] at taken
      rw [← Option.some.inj taken]
      exact nextId_setObject state.shared obj

/-- An event hands out at most one new number. -/
theorem nextId_step {event : UserEvent Object} (taken : state.step event = some state') :
    state'.shared.nextId ≤ state.shared.nextId + 1 := by
  have same {next : ObjectUsers Object} (became : some next = some state')
      (kept : next.shared.nextId = state.shared.nextId) : state'.shared.nextId ≤ state.shared.nextId + 1 := by
    rw [← Option.some.inj became, kept]
    exact Nat.le_succ _
  cases event with
  | useObject name array => exact @nextId_enter _ _ _ name array (fun id => .lent id array) taken
  | mount name wrapper => exact @nextId_enter _ _ _ name wrapper (fun id => .opening id wrapper none) taken
  | openChannel name =>
      simp only [ObjectUsers.step] at taken
      split at taken
      · obtain ⟨text, _, became⟩ := Option.map_eq_some_iff.mp taken
        exact same (congrArg some became) rfl
      · cases taken
  | deleteLent name | deleteDisk name | closeChannel name =>
      simp only [ObjectUsers.step] at taken
      split at taken
      · exact same taken rfl
      · cases taken
  | mountReturns name fine | umountReturns name fine =>
      simp only [ObjectUsers.step] at taken
      split at taken
      · exact same taken rfl
      · exact same taken rfl
      · cases taken

/-- A run of fewer than 2^31 events hands out no number that is too large. -/
theorem along_numbered {events : List (UserEvent Object)}
    (short : state.shared.nextId + events.length < 2 ^ 31) :
    Along ObjectUsers.step Numbered state events := by
  induction events generalizing state with
  | nil => trivial
  | cons event rest ih =>
      rw [List.length_cons] at short
      refine ⟨?_, fun state' taken => ih ?_⟩
      · unfold Numbered
        omega
      · have next := nextId_step taken
        omega

theorem faithful_lent (id : Nat) (array : Object) : Faithful (.lent id array) :=
  fun _ asks => (Option.some.inj asks).symm

theorem faithful_unopened (id : Nat) (wrapper : Object) : Faithful (.opening id wrapper none) :=
  fun _ asks => by cases asks

theorem faithful_leaving (id : Nat) (wrapper : Object) : Faithful (.leaving id wrapper) :=
  fun _ asks => by cases asks

/-- What an event does: a user comes, leaves or goes on under its number, or nothing changes. -/
inductive Turn (state state' : ObjectUsers Object) : Prop where
  | comes (name : Nat) (obj : Object) (holding : Nat → ObjectUser Object)
      (named : ∀ id, (holding id).id = id ∧ (holding id).object = obj ∧ Faithful (holding id))
      (entered : state.enter name obj holding = some state')
  | leaves (name : Nat) (user : ObjectUser Object) (present : state.users name = some user)
      (left : state' = state.dismiss name user.id)
  | goesOn (name : Nat) (user next : ObjectUser Object) (present : state.users name = some user)
      (same : next.id = user.id ∧ next.object = user.object) (faithful : Faithful next)
      (went : state' = state.become name next)
  | stays (stayed : state' = state)

theorem turn_of_step {event : UserEvent Object} (taken : state.step event = some state')
    (small : ∀ name user, state.users name = some user → user.id < 2 ^ 31)
    (faithful : ∀ name user, state.users name = some user → Faithful user) : Turn state state' := by
  cases event with
  | useObject name array =>
      exact .comes name array (fun id => .lent id array)
        (fun id => ⟨rfl, rfl, faithful_lent id array⟩) taken
  | mount name wrapper =>
      exact .comes name wrapper (fun id => .opening id wrapper none)
        (fun id => ⟨rfl, rfl, faithful_unopened id wrapper⟩) taken
  | deleteLent name =>
      simp only [ObjectUsers.step] at taken
      split at taken
      · rename_i id array present
        exact .leaves name (.lent id array) present (Option.some.inj taken).symm
      · cases taken
  | deleteDisk name =>
      simp only [ObjectUsers.step] at taken
      split at taken
      · rename_i id wrapper present
        exact .leaves name (.leaving id wrapper) present (Option.some.inj taken).symm
      · cases taken
  | openChannel name =>
      simp only [ObjectUsers.step] at taken
      split at taken
      · rename_i id wrapper present
        have below : id < 2 ^ 31 := small name _ present
        rw [diskName_some below] at taken
        refine .goesOn name (.opening id wrapper none)
          (.opening id wrapper (some (jsOpenEntry (Decimals.write id)))) present ⟨rfl, rfl⟩ ?_
          (Option.some.inj taken).symm
        -- The channel has the number that the name was written for.
        intro number asks
        rw [← Option.some.inj asks, ← toInt_ofNat below]
        exact congrArg BitVec.toInt (jsOpenEntry_write _)
      · cases taken
  | closeChannel name =>
      simp only [ObjectUsers.step] at taken
      split at taken
      · rename_i id wrapper channel present
        exact .goesOn name (.opening id wrapper (some channel)) (.opening id wrapper none) present
          ⟨rfl, rfl⟩ (faithful_unopened id wrapper) (Option.some.inj taken).symm
      · cases taken
  | mountReturns name fine =>
      simp only [ObjectUsers.step] at taken
      split at taken
      · rename_i id wrapper channel present
        exact .goesOn name (.opening id wrapper (some channel)) (.mounted id wrapper channel) present
          ⟨rfl, rfl⟩ (fun number asks => faithful name _ present number asks) (Option.some.inj taken).symm
      · rename_i id wrapper channel present
        exact .goesOn name (.opening id wrapper channel) (.leaving id wrapper) present ⟨rfl, rfl⟩
          (faithful_leaving id wrapper) (Option.some.inj taken).symm
      · cases taken
  | umountReturns name fine =>
      simp only [ObjectUsers.step] at taken
      split at taken
      · rename_i id wrapper channel present
        exact .goesOn name (.mounted id wrapper channel) (.leaving id wrapper) present ⟨rfl, rfl⟩
          (faithful_leaving id wrapper) (Option.some.inj taken).symm
      · exact .stays (Option.some.inj taken).symm
      · cases taken

/-- Every event keeps the numbers of the users apart and their channels right. -/
theorem routed_step (state : ObjectUsers Object) (event : UserEvent Object) (state' : ObjectUsers Object)
    (routed : state.shared.nextId < 2 ^ 31 ∧ ∃ record, Routed state record)
    (numbered : Numbered state event) (taken : state.step event = some state') :
    state'.shared.nextId < 2 ^ 31 ∧ ∃ record, Routed state' record := by
  obtain ⟨bounded, record, routed⟩ := routed
  refine ⟨lt_of_le_of_lt (nextId_step taken) numbered, ?_⟩
  cases turn_of_step taken (fun name user => routed.small bounded) routed.faithful with
  | comes name obj holding named entered => exact routed_enter routed named entered
  | leaves name user present left =>
      rw [left]
      exact routed_dismiss routed present
  | goesOn name user next present same faithful went =>
      rw [went]
      exact routed_become routed present same faithful
  | stays stayed =>
      rw [stayed]
      exact ⟨record, routed⟩

/-- However filesystems are mounted and unmounted and arrays are lent, every number that the C code asks
with finds the object of its own user, which no other user asks for, and the name of a disk fits into
its buffer. -/
theorem requests_routed (reached : Reaches ObjectUsers.step Numbered (.start : ObjectUsers Object) state)
    {name : Nat} {user : ObjectUser Object} (present : state.users name = some user) :
    (∀ number, user.asks = some number → state.find number = some user.object ∧
      ∀ name' user', state.users name' = some user' → user'.asks = some number → name' = name) ∧
    diskName (BitVec.ofNat 32 user.id) ≠ none := by
  obtain ⟨bounded, record, routed⟩ : state.shared.nextId < 2 ^ 31 ∧ ∃ record, Routed state record := by
    apply @Reaches.invariant _ _ _ _ _
      (fun state => state.shared.nextId < 2 ^ 31 ∧ ∃ record, Routed state record) _ routed_step _ reached
    · refine ⟨Nat.two_pow_pos 31, .start .empty, ⟨⟨List.Perm.refl _, rfl, fun id => Iff.rfl⟩, ?_⟩, rfl, ?_, ?_, ?_⟩
      · intro id obj member
        cases member
      · intro name user present
        cases present
      · intro name name' user user' present
        cases present
      · intro name user present
        cases present
  have small := routed.small bounded present
  have number_eq {name' : Nat} {user' : ObjectUser Object} (present' : state.users name' = some user')
      {number : Int} (asks : user'.asks = some number) : number = user'.id :=
    (routed.faithful name' user' present' number asks).trans (toInt_ofNat (routed.small bounded present'))
  constructor
  · intro number asks
    have same := number_eq present asks
    constructor
    · rw [same, ObjectUsers.find, if_neg (by omega), ← routed.pool]
      exact routed.kept.stored user.id user.object (routed.held name user present)
    · intro name' user' present' asks'
      apply routed.apart name' name user' user present' present
      have same' := number_eq present' asks'
      omega
  · rw [diskName_some small]
    exact Option.some_ne_none _

/-- The number of a disk that could not be mounted goes to another disk. -/
def remounted : List (UserEvent String) :=
  [.mount 0 "broken", .openChannel 0, .mountReturns 0 false, .deleteDisk 0, .mount 1 "disk",
    .openChannel 1, .mountReturns 1 true]

theorem requests_routed_remounted : ∃ state, follow ObjectUsers.step .start remounted = some state ∧
    state.find 1 = some "disk" := by
  have along : Along ObjectUsers.step Numbered .start remounted := along_numbered (by decide)
  have reached := reaches_of_follow .first along rfl
  exact ⟨_, rfl, ((@requests_routed _ _ reached 1 (.mounted 1 "disk" 1) rfl).1 1 rfl).1⟩

end NodeExt2fs.Ids
