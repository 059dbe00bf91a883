import NodeExt2fs.Construction.Js.Descriptors

/-!
This file keeps closed descriptors away from the operations of the binding.
-/

namespace NodeExt2fs.Handles
open Programs Structures Js

/-- No operation was executed on a closed descriptor, and `openFiles` has forgotten every descriptor
whose close has settled. -/
structure Safe (state : Descriptors) : Prop where
  noFaults : state.faults = []
  forgotten : ∀ fd ∈ state.settled, state.openFiles.has fd = false

/-- An operation that is queued now will find the descriptor open. -/
structure Usable (state : Descriptors) (fd : Nat) : Prop where
  unclosed : fd ∉ state.closed
  noClose : ∀ entry ∈ state.queue, entry.op ≠ .close fd

/-- The descriptor of a call that has passed `checkFd` and will queue further operations. -/
def between : Frame → Option Nat
  | .readBuffer fd => some fd
  | .writeBuffer fd => some fd
  | .statCtime fd => some fd
  | _ => none

/-- No call on the descriptor is between `checkFd` and its last operation. -/
def Idle (state : Descriptors) (fd : Nat) : Prop :=
  ∀ id task, state.task id = some task → between task.frame ≠ some fd

/-- The method and the descriptor of a call that passes `checkFd` in a step. -/
def entering (state : Descriptors) : DescriptorLabel → Option (Method × Nat)
  | .start _ (.open _) => none
  | .start _ (.onFd method fd) =>
      if method.checks ∧ state.openFiles.has fd then some (method, fd) else none
  | .start _ (.closeAll _) => state.openFiles.keys.head?.map fun fd => (.close, fd)
  | .onHandle _ handle method =>
      (state.kFd handle).bind fun fd =>
        if method.checks ∧ state.openFiles.has fd then some (method, fd) else none
  | .execute _ _ => none
  | .resume id =>
      match (state.task id).map Task.frame with
      | some (.closeAllNext _) => state.openFiles.keys.head?.map fun fd => (.close, fd)
      | _ => none

/-- A call begins only while no close of its descriptor is queued or executed, a close begins only
while no call on its descriptor has operations left to queue, and no close fails. -/
structure Apart (state : Descriptors) (label : DescriptorLabel) : Prop where
  usable : ∀ method fd, entering state label = some (method, fd) → Usable state fd
  idle : ∀ fd, entering state label = some (.close, fd) → Idle state fd
  flushed : ∀ value id fd rest, label = .execute false value →
    state.queue ≠ { task := id, op := .close fd } :: rest

/-- The frames of calls whose only operations are closes. -/
def onlyCloses : Frame → Bool
  | .closeFile _ => true
  | .closeAllFile _ _ => true
  | .closeAllNext _ => true
  | _ => false

/-- The operations in the queue will find their descriptors open. -/
structure Ready (closed : List Nat) (queue : List Queued) : Prop where
  unclosed : ∀ entry ∈ queue, ∀ fd, entry.op.fd? = some fd → fd ∉ closed
  ordered : queue.Pairwise fun earlier later =>
    ∀ fd, earlier.op = .close fd → later.op.fd? ≠ some fd

/-- The queued operations of a call belong to its frame. -/
def Owned (task : Nat → Option Task) (entry : Queued) : Prop :=
  ∃ owner, task entry.task = some owner ∧
    (onlyCloses owner.frame = true → ∃ fd, entry.op = .close fd)

/-- The invariant of the calls on descriptors. -/
structure Sound (state : Descriptors) : Prop where
  safe : Safe state
  ready : Ready state.closed state.queue
  owned : ∀ entry ∈ state.queue, Owned state.task entry
  waiting : ∀ id task fd, state.task id = some task → between task.frame = some fd → Usable state fd
  succeeded : ∀ id task, state.task id = some task → onlyCloses task.frame = true →
    task.failed = false

theorem sound_empty : Sound .empty := by
  constructor
  · constructor
    · rfl
    · intro fd member
      cases member
  · constructor
    · intro entry member
      cases member
    · exact List.Pairwise.nil
  · intro entry member
    cases member
  · intro id task fd found
    cases found
  · intro id task found
    cases found

/-- Operations may be queued for descriptors that are usable, a close only alone. -/
structure Queueable (state : Descriptors) (ops : List BindingOp) : Prop where
  usable : ∀ op ∈ ops, ∀ fd, op.fd? = some fd → Usable state fd
  alone : ∀ fd, .close fd ∈ ops → ops = [.close fd] ∧ Idle state fd

theorem queueable_nil (state : Descriptors) : Queueable state [] := by
  constructor
  · intro op member
    cases member
  · intro fd member
    cases member

/-- Operations other than closes may be queued on a usable descriptor. -/
theorem queueable_of_usable {state : Descriptors} {ops : List BindingOp} {fd : Nat}
    (usable : Usable state fd) (on : ∀ op ∈ ops, op.fd? = some fd)
    (other : ∀ op ∈ ops, ∀ fd', op ≠ .close fd') : Queueable state ops := by
  constructor
  · intro op member fd' used
    have same : fd = fd' := Option.some.inj ((on op member).symm.trans used)
    rw [← same]
    exact usable
  · intro fd' member
    exact absurd rfl (other _ member fd')

theorem queueable_single {state : Descriptors} {op : BindingOp} {fd : Nat}
    (usable : Usable state fd) (on : op.fd? = some fd) (other : ∀ fd', op ≠ .close fd') :
    Queueable state [op] := by
  apply queueable_of_usable usable
  · intro op' member
    rw [List.mem_singleton.mp member]
    exact on
  · intro op' member
    rw [List.mem_singleton.mp member]
    exact other

theorem queueable_of_free {state : Descriptors} {op : BindingOp} (free : op.fd? = none) :
    Queueable state [op] := by
  constructor
  · intro op' member fd used
    rw [List.mem_singleton.mp member, free] at used
    cases used
  · intro fd member
    rw [← List.mem_singleton.mp member] at free
    cases free

theorem queueable_close {state : Descriptors} {fd : Nat} (usable : Usable state fd)
    (idle : Idle state fd) : Queueable state [.close fd] := by
  constructor
  · intro op member fd' used
    rw [List.mem_singleton.mp member] at used
    cases used
    exact usable
  · intro fd' member
    cases List.mem_singleton.mp member
    exact ⟨rfl, idle⟩

/-- The entries that a request adds to the queue. -/
def entries (id : Nat) (ops : List BindingOp) : List Queued :=
  ops.map fun op => { task := id, op := op }

theorem mem_entries {id : Nat} {ops : List BindingOp} {entry : Queued}
    (member : entry ∈ entries id ops) : entry.task = id ∧ entry.op ∈ ops := by
  obtain ⟨op, there, same⟩ := List.mem_map.mp member
  rw [← same]
  exact ⟨rfl, there⟩

/-- Queued together, the operations do not hinder each other. -/
theorem Queueable.pairwise {state : Descriptors} {ops : List BindingOp}
    (queueable : Queueable state ops) (id : Nat) :
    (entries id ops).Pairwise fun earlier later =>
      ∀ fd, earlier.op = .close fd → later.op.fd? ≠ some fd := by
  by_cases closing : ∃ fd, .close fd ∈ ops
  · obtain ⟨fd, member⟩ := closing
    rw [(queueable.alone fd member).1]
    exact List.pairwise_singleton _ _
  · apply List.pairwise_of_forall_mem_list
    intro earlier here later _ fd close
    have there := (mem_entries here).2
    rw [close] at there
    exact absurd ⟨fd, there⟩ closing

/-- A descriptor stays usable when no close of it is queued. -/
theorem Usable.request {state : Descriptors} {fd id : Nat} {frame : Frame} {ops : List BindingOp}
    (usable : Usable state fd) (spared : .close fd ∉ ops) : Usable (state.request id frame ops) fd := by
  constructor
  · exact usable.unclosed
  · intro entry member close
    rcases List.mem_append.mp member with old | new
    · exact usable.noClose entry old close
    · have there := (mem_entries new).2
      rw [close] at there
      exact spared there

/-- A queue stays ready when operations on usable descriptors join it. -/
theorem Ready.append {state : Descriptors} (ready : Ready state.closed state.queue)
    {ops : List BindingOp} (queueable : Queueable state ops) (id : Nat) :
    Ready state.closed (state.queue ++ entries id ops) := by
  constructor
  · intro entry member fd used
    rcases List.mem_append.mp member with old | new
    · exact ready.unclosed entry old fd used
    · exact (queueable.usable entry.op (mem_entries new).2 fd used).unclosed
  · apply List.pairwise_append.mpr
    refine ⟨ready.ordered, queueable.pairwise id, ?_⟩
    intro earlier old later new fd closing used
    have usable := queueable.usable later.op (mem_entries new).2 fd used
    exact usable.noClose earlier old closing

/-- A request keeps the invariant when its operations and its frame fit. -/
theorem Sound.request {state : Descriptors} (sound : Sound state) {id : Nat} {frame : Frame}
    {ops : List BindingOp} (queueable : Queueable state ops)
    (kept : ∀ fd, between frame = some fd → Usable state fd ∧ .close fd ∉ ops)
    (closes : onlyCloses frame = true → (∀ op ∈ ops, ∃ fd, op = .close fd) ∧
      ∀ entry ∈ state.queue, entry.task = id → ∃ fd, entry.op = .close fd) :
    Sound (state.request id frame ops) := by
  constructor
  · exact ⟨sound.safe.noFaults, sound.safe.forgotten⟩
  · exact sound.ready.append queueable id
  · intro entry member
    rcases List.mem_append.mp member with old | new
    · obtain ⟨owner, found, close⟩ := sound.owned entry old
      by_cases same : entry.task = id
      · refine ⟨_, by rw [same]; exact Function.update_self _ _ _, ?_⟩
        intro only
        exact (closes only).2 entry old same
      · exact ⟨owner, by rw [← found]; exact Function.update_of_ne same _ _, close⟩
    · obtain ⟨same, there⟩ := mem_entries new
      refine ⟨_, by rw [same]; exact Function.update_self _ _ _, ?_⟩
      intro only
      exact (closes only).1 entry.op there
  · intro id' task fd found here
    by_cases same : id' = id
    · rw [same] at found
      cases (Function.update_self _ _ _).symm.trans found
      exact (kept fd here).1.request (kept fd here).2
    · have found : state.task id' = some task := (Function.update_of_ne same _ _).symm.trans found
      apply (sound.waiting id' task fd found here).request
      intro member
      exact (queueable.alone fd member).2 id' task found here
  · intro id' task found only
    by_cases same : id' = id
    · rw [same] at found
      cases (Function.update_self _ _ _).symm.trans found
      rfl
    · exact sound.succeeded id' task ((Function.update_of_ne same _ _).symm.trans found) only

theorem Sound.finish {state : Descriptors} (sound : Sound state) (id : Nat) (ok : Bool) :
    Sound (state.finish id ok) := by
  apply sound.request (queueable_nil state)
  · intro fd here
    cases here
  · intro only
    cases only

/-- The first request of a new call. -/
theorem Sound.begin {state : Descriptors} (sound : Sound state) {id : Nat}
    (fresh : state.task id = none) {frame : Frame} {ops : List BindingOp}
    (queueable : Queueable state ops)
    (kept : ∀ fd, between frame = some fd → Usable state fd ∧ .close fd ∉ ops)
    (closes : onlyCloses frame = true → ∀ op ∈ ops, ∃ fd, op = .close fd) :
    Sound (state.request id frame ops) := by
  apply sound.request queueable kept
  intro only
  refine ⟨closes only, ?_⟩
  intro entry member mine
  obtain ⟨owner, found, _⟩ := sound.owned entry member
  rw [mine, fresh] at found
  cases found

/-- A call that queues operations other than closes. -/
theorem Sound.plain {state : Descriptors} (sound : Sound state) {id : Nat} {frame : Frame}
    {ops : List BindingOp} (queueable : Queueable state ops)
    (kept : ∀ fd, between frame = some fd → Usable state fd ∧ .close fd ∉ ops)
    (plain : onlyCloses frame = false) : Sound (state.request id frame ops) := by
  apply sound.request queueable kept
  intro only
  rw [plain] at only
  cases only

/-- Only the safety depends on what is left of the state. -/
theorem Sound.of_same {state state' : Descriptors} (sound : Sound state) (safe : Safe state')
    (queue : state'.queue = state.queue) (task : state'.task = state.task)
    (closed : state'.closed = state.closed) : Sound state' := by
  constructor
  · exact safe
  · rw [queue, closed]
    exact sound.ready
  · rw [queue, task]
    exact sound.owned
  · rw [task]
    intro id here fd found between
    have usable := sound.waiting id here fd found between
    constructor
    · rw [closed]
      exact usable.unclosed
    · rw [queue]
      exact usable.noClose
  · rw [task]
    exact sound.succeeded

/-- A close that `checkFd` rejects has settled. -/
theorem Sound.settle {state : Descriptors} (sound : Sound state) {fds : List Nat}
    (missing : ∀ fd ∈ fds, state.openFiles.has fd = false) : Sound (state.settle fds) := by
  refine sound.of_same ⟨sound.safe.noFaults, ?_⟩ rfl rfl rfl
  intro fd member
  rcases List.mem_append.mp member with new | old
  · exact missing fd new
  · exact sound.safe.forgotten fd old

theorem has_eq_false_iff (map : InsertionMap Nat Nat) (fd : Nat) :
    map.has fd = false ↔ fd ∉ map.keys :=
  decide_eq_false_iff_not

theorem Sound.closeFile {state : Descriptors} (sound : Sound state) (fd : Nat) :
    Sound (state.closeFile fd) := by
  refine sound.of_same ⟨sound.safe.noFaults, ?_⟩ rfl rfl rfl
  intro fd' member
  apply (has_eq_false_iff _ _).mpr
  intro there
  have kept := (InsertionMap.mem_keys_delete _ _ _).mp there
  rcases List.mem_cons.mp member with same | old
  · exact kept.2 same
  · exact (has_eq_false_iff _ _).mp (sound.safe.forgotten fd' old) kept.1

theorem Sound.openFile {state : Descriptors} (sound : Sound state) (id fd flags : Nat) :
    Sound (state.openFile id fd flags) := by
  refine sound.of_same ⟨sound.safe.noFaults, ?_⟩ rfl rfl rfl
  intro fd' member
  obtain ⟨old, other⟩ := List.mem_filter.mp member
  apply (has_eq_false_iff _ _).mpr
  intro there
  rcases (InsertionMap.mem_keys_set _ _ _ _).mp there with same | kept
  · exact of_decide_eq_true other same
  · exact (has_eq_false_iff _ _).mp (sound.safe.forgotten fd' old) kept

/-- A call up to its first await keeps the invariant. -/
theorem Sound.callFd {state : Descriptors} (sound : Sound state) {id fd : Nat} {method : Method}
    (fresh : state.task id = none)
    (usable : method.checks = true ∧ state.openFiles.has fd = true → Usable state fd)
    (idle : method.checks = true ∧ state.openFiles.has fd = true → method = .close → Idle state fd) :
    Sound (state.callFd id method fd) := by
  unfold Descriptors.callFd
  by_cases checks : method.checks = true
  · rw [if_neg (not_not_intro checks)]
    by_cases there : state.openFiles.has fd = true
    · rw [if_neg (not_not_intro there)]
      have ready := usable ⟨checks, there⟩
      have quiet := idle ⟨checks, there⟩
      have kept (frame : Frame) (here : between frame = some fd) (op : BindingOp)
          (other : ∀ fd', op ≠ .close fd') (fd' : Nat) (waits : between frame = some fd') :
          Usable state fd' ∧ .close fd' ∉ [op] := by
        cases here.symm.trans waits
        refine ⟨ready, ?_⟩
        intro member
        exact other fd (List.mem_singleton.mp member).symm
      cases method with
      | close =>
          apply sound.begin fresh (queueable_close ready (quiet rfl))
          · intro fd' here
            cases here
          · intro _ op member
            exact ⟨fd, List.mem_singleton.mp member⟩
      | read length =>
          apply sound.plain (queueable_of_free rfl) _ rfl
          exact kept (.readBuffer fd) rfl _ (by simp)
      | write =>
          apply sound.plain (queueable_of_free rfl) _ rfl
          exact kept (.writeBuffer fd) rfl _ (by simp)
      | fstat =>
          apply sound.plain (queueable_single ready rfl (by simp)) _ rfl
          exact kept (.statCtime fd) rfl _ (by simp)
      | fchmod =>
          apply sound.plain (queueable_single ready rfl (by simp)) _ rfl
          intro fd' here
          cases here
      | fchown =>
          apply sound.plain (queueable_single ready rfl (by simp)) _ rfl
          intro fd' here
          cases here
    · rw [if_pos there]
      apply Sound.finish
      apply sound.settle
      intro fd' member
      by_cases closing : method = .close
      · rw [if_pos closing] at member
        rw [List.mem_singleton.mp member]
        exact Bool.eq_false_iff.mpr there
      · rw [if_neg closing] at member
        cases member
  · rw [if_pos checks]
    exact sound.finish id true

/-- The next round of `closeAllFileDescriptors` keeps the invariant. -/
theorem Sound.closeNext {state : Descriptors} (sound : Sound state) {id : Nat} {unmounting : Bool}
    (usable : ∀ fd, state.openFiles.keys.head? = some fd → Usable state fd ∧ Idle state fd)
    (mine : ∀ entry ∈ state.queue, entry.task = id → ∃ fd, entry.op = .close fd) :
    Sound (state.closeNext id unmounting) := by
  unfold Descriptors.closeNext
  rcases next : state.openFiles.keys.head? with _ | fd
  · by_cases more : unmounting = true
    · simp only [if_pos more]
      apply sound.plain (queueable_nil state) _ rfl
      intro fd here
      cases here
    · simp only [if_neg more]
      exact sound.finish id true
  · have ready := usable fd next
    apply sound.request (queueable_close ready.1 ready.2)
    · intro fd' here
      cases here
    · intro _
      refine ⟨?_, mine⟩
      intro op member
      exact ⟨fd, List.mem_singleton.mp member⟩

/-- An operation closes at most the descriptor that it is a close of. -/
theorem mem_closedAfter {op : BindingOp} {ok : Bool} {value fd : Nat} {closed : List Nat}
    (member : fd ∈ op.closedAfter ok value closed) : fd ∈ closed ∨ op = .close fd := by
  cases op with
  | close fd' =>
      rcases List.mem_cons.mp member with same | old
      · exact .inr (by rw [same])
      · exact .inl old
  | «open» =>
      by_cases opened : ok = true
      · simp only [BindingOp.closedAfter, if_pos opened] at member
        exact .inl (List.mem_filter.mp member).1
      · simp only [BindingOp.closedAfter, if_neg opened] at member
        exact .inl member
  | malloc => exact .inl member
  | read => exact .inl member
  | write => exact .inl member
  | stat => exact .inl member
  | chmod => exact .inl member
  | chown => exact .inl member
  | umount => exact .inl member

theorem Ready.execute {closed : List Nat} {entry : Queued} {rest : List Queued}
    (ready : Ready closed (entry :: rest)) (ok : Bool) (value : Nat) :
    Ready (entry.op.closedAfter ok value closed) rest := by
  obtain ⟨before, ordered⟩ := List.pairwise_cons.mp ready.ordered
  constructor
  · intro later member fd used bad
    have unclosed := ready.unclosed later (List.mem_cons_of_mem _ member) fd used
    rcases mem_closedAfter bad with old | close
    · exact unclosed old
    · exact before later member fd close used
  · exact ordered

/-- The head of the queue is executed on a descriptor that is open. -/
theorem sound_execute {state state' : Descriptors} {ok : Bool} {value : Nat} (sound : Sound state)
    (flushed : ok = false → ∀ id fd rest, state.queue ≠ { task := id, op := .close fd } :: rest)
    (taken : state.execute ok value = some state') : Sound state' := by
  unfold Descriptors.execute at taken
  rcases here : state.queue with _ | ⟨⟨id, op⟩, rest⟩
  · simp only [here] at taken
    cases taken
  · simp only [here] at taken
    cases taken
    have ready := sound.ready
    rw [here] at ready
    have first : { task := id, op := op } ∈ state.queue := by
      rw [here]
      exact List.mem_cons_self
    have later (entry : Queued) (member : entry ∈ rest) : entry ∈ state.queue := by
      rw [here]
      exact List.mem_cons_of_mem _ member
    obtain ⟨owner, found, close⟩ := sound.owned _ first
    have answered (id' : Nat) (task : Task)
        (same : Function.update state.task id
          ((state.task id).map fun task => task.answered ok value) id' = some task) :
        ∃ task', state.task id' = some task' ∧ task'.frame = task.frame ∧
          (task.failed = true → task'.failed = true ∨ id' = id ∧ ok = false) := by
      by_cases own : id' = id
      · rw [own, Function.update_self] at same
        obtain ⟨task', found', same⟩ := Option.map_eq_some_iff.mp same
        rw [own]
        refine ⟨task', found', by rw [← same]; rfl, ?_⟩
        intro failed
        rw [← same] at failed
        simpa [Task.answered] using failed
      · rw [Function.update_of_ne own] at same
        exact ⟨task, same, rfl, Or.inl⟩
    constructor
    · refine ⟨?_, sound.safe.forgotten⟩
      have calm : (op.fd?.any fun fd => decide (fd ∈ state.closed)) = false := by
        rcases used : op.fd? with _ | fd
        · rfl
        · exact decide_eq_false (sound.ready.unclosed _ first fd used)
      simp only [calm]
      exact sound.safe.noFaults
    · exact ready.execute ok value
    · intro entry member
      obtain ⟨owner', found', close'⟩ := sound.owned entry (later entry member)
      by_cases own : entry.task = id
      · refine ⟨owner'.answered ok value, ?_, close'⟩
        rw [own] at found'
        simp only [own, Function.update_self, found']
        rfl
      · exact ⟨owner', by rw [← found']; exact Function.update_of_ne own _ _, close'⟩
    · intro id' task fd same waits
      obtain ⟨task', found', frame, _⟩ := answered id' task same
      have usable := sound.waiting id' task' fd found' (by rw [frame]; exact waits)
      constructor
      · intro bad
        rcases mem_closedAfter bad with old | closing
        · exact usable.unclosed old
        · exact usable.noClose _ first closing
      · intro entry member
        exact usable.noClose entry (later entry member)
    · intro id' task same only
      obtain ⟨task', found', frame, failed⟩ := answered id' task same
      rw [← frame] at only
      apply Bool.eq_false_iff.mpr
      intro bad
      rcases failed bad with old | ⟨own, rejected⟩
      · rw [sound.succeeded id' task' found' only] at old
        cases old
      · rw [own, found] at found'
        cases found'
        obtain ⟨fd, closing⟩ := close only
        change op = _ at closing
        rw [closing] at here
        exact flushed rejected id fd rest here

theorem closing_eq_nil {frame : Frame} (plain : onlyCloses frame = false) : frame.closing = [] := by
  cases frame with
  | closeFile => cases plain
  | closeAllFile => cases plain
  | _ => rfl

/-- The operations that a call queues after its first await keep the invariant. -/
theorem sound_proceed {state state' : Descriptors} {id : Nat} {task : Task} (sound : Sound state)
    (found : state.task id = some task)
    (next : ∀ unmounting, task.frame = .closeAllNext unmounting →
      ∀ fd, state.openFiles.keys.head? = some fd → Usable state fd ∧ Idle state fd)
    (taken : state.proceed id task.value task.frame = some state') : Sound state' := by
  have mine (only : onlyCloses task.frame = true) (entry : Queued) (member : entry ∈ state.queue)
      (own : entry.task = id) : ∃ fd, entry.op = .close fd := by
    obtain ⟨owner, found', close⟩ := sound.owned entry member
    rw [own, found] at found'
    cases found'
    exact close only
  have waits (fd : Nat) (here : between task.frame = some fd) : Usable state fd :=
    sound.waiting id task fd found here
  have kept (fd : Nat) (ops : List BindingOp) (here : between .last = some fd) :
      Usable state fd ∧ .close fd ∉ ops := by
    cases here
  cases frame : task.frame with
  | openPath flags =>
      rw [frame] at taken
      cases taken
      apply sound.plain (queueable_of_free rfl) _ rfl
      intro fd here
      cases here
  | openFile flags =>
      rw [frame] at taken
      cases taken
      exact (sound.openFile id task.value flags).finish id true
  | closeFile fd =>
      rw [frame] at taken
      cases taken
      exact (sound.closeFile fd).finish id true
  | readBuffer fd =>
      rw [frame] at taken waits
      cases taken
      refine sound.plain ?_ (fun fd' => kept fd' _) rfl
      exact queueable_single (waits fd rfl) rfl fun _ => BindingOp.noConfusion
  | writeBuffer fd =>
      rw [frame] at taken waits
      cases taken
      refine sound.plain ?_ (fun fd' => kept fd' _) rfl
      exact queueable_single (waits fd rfl) rfl fun _ => BindingOp.noConfusion
  | statCtime fd =>
      rw [frame] at taken waits
      cases taken
      refine sound.plain ?_ (fun fd' => kept fd' _) rfl
      apply queueable_of_usable (waits fd rfl)
      · intro op member
        obtain ⟨field, _, same⟩ := List.mem_map.mp member
        rw [← same]
        rfl
      · intro op member
        obtain ⟨field, _, same⟩ := List.mem_map.mp member
        rw [← same]
        simp
  | closeAllFile fd unmounting =>
      rw [frame] at taken mine
      cases taken
      apply (sound.closeFile fd).request (queueable_nil _)
      · intro fd' here
        cases here
      · intro _
        refine ⟨?_, mine rfl⟩
        intro op member
        cases member
  | closeAllNext unmounting =>
      rw [frame] at taken mine
      cases taken
      exact sound.closeNext (next unmounting frame) (mine rfl)
  | closedAll =>
      rw [frame] at taken
      cases taken
      exact sound.plain (queueable_of_free rfl) (fun fd' => kept fd' _) rfl
  | last =>
      rw [frame] at taken
      cases taken
      exact sound.finish id true
  | done ok =>
      rw [frame] at taken
      cases taken

theorem sound_resume {state state' : Descriptors} {id : Nat} (sound : Sound state)
    (next : ∀ task unmounting, state.task id = some task → task.frame = .closeAllNext unmounting →
      ∀ fd, state.openFiles.keys.head? = some fd → Usable state fd ∧ Idle state fd)
    (taken : state.resume id = some state') : Sound state' := by
  unfold Descriptors.resume at taken
  rcases found : state.task id with _ | task
  · simp only [found] at taken
    cases taken
  · simp only [found] at taken
    by_cases ended : task.frame.isDone = true
    · rw [if_pos ended] at taken
      cases taken
    · rw [if_neg ended] at taken
      by_cases failed : task.failed = true
      · rw [if_pos failed] at taken
        cases taken
        have plain : onlyCloses task.frame = false := by
          apply Bool.eq_false_iff.mpr
          intro only
          rw [sound.succeeded id task found only] at failed
          cases failed
        apply Sound.finish
        apply sound.settle
        rw [closing_eq_nil plain]
        intro fd member
        cases member
      · rw [if_neg failed] at taken
        by_cases answered : task.waiting = 0
        · rw [if_pos answered] at taken
          exact sound_proceed sound found (fun unmounting => next task unmounting found) taken
        · rw [if_neg answered] at taken
          cases taken

theorem sound_start {state : Descriptors} {id : Nat} {call : FsCall} (sound : Sound state)
    (apart : Apart state (.start id call)) (fresh : state.task id = none) :
    Sound (state.start id call) := by
  cases call with
  | «open» flags =>
      apply sound.plain (queueable_of_free rfl) _ rfl
      intro fd here
      cases here
  | onFd method fd =>
      apply sound.callFd fresh
      · intro passes
        exact apart.usable method fd (if_pos passes)
      · intro passes closing
        rw [closing] at passes apart
        exact apart.idle fd (if_pos passes)
  | closeAll unmounting =>
      apply sound.closeNext
      · intro fd first
        have enters : entering state (.start id (.closeAll unmounting)) = some (.close, fd) := by
          change Option.map _ _ = _
          rw [first]
          rfl
        exact ⟨apart.usable _ fd enters, apart.idle fd enters⟩
      · intro entry member own
        obtain ⟨owner, found, _⟩ := sound.owned entry member
        rw [own, fresh] at found
        cases found

theorem sound_onHandle {state : Descriptors} {id handle : Nat} {method : Method}
    (sound : Sound state) (apart : Apart state (.onHandle id handle method))
    (fresh : state.task id = none) : Sound (state.onHandle id handle method) := by
  unfold Descriptors.onHandle
  rcases held : state.kFd handle with _ | fd
  · exact sound.finish id false
  · have enters (method' : Method) (same : method' = method)
        (passes : method'.checks = true ∧ state.openFiles.has fd = true) :
        entering state (.onHandle id handle method) = some (method', fd) := by
      change Option.bind _ _ = _
      rw [held, ← same]
      exact if_pos passes
    have called : Sound (state.callFd id method fd) := by
      apply sound.callFd fresh
      · intro passes
        exact apart.usable method fd (enters method rfl passes)
      · intro passes closing
        rw [closing] at passes
        exact apart.idle fd (enters .close closing.symm passes)
    by_cases closing : method = .close
    · simp only [if_pos closing]
      exact called.of_same ⟨called.safe.noFaults, called.safe.forgotten⟩ rfl rfl rfl
    · simp only [if_neg closing]
      exact called

theorem sound_step (state : Descriptors) (label : DescriptorLabel) (state' : Descriptors)
    (sound : Sound state) (apart : Apart state label) (taken : state.step label = some state') :
    Sound state' := by
  cases label with
  | start id call =>
      by_cases fresh : state.task id = none
      · simp only [Descriptors.step, fresh] at taken
        cases taken
        exact sound_start sound apart fresh
      · simp [Descriptors.step, fresh] at taken
  | onHandle id handle method =>
      by_cases fresh : state.task id = none
      · simp only [Descriptors.step, fresh] at taken
        cases taken
        exact sound_onHandle sound apart fresh
      · simp [Descriptors.step, fresh] at taken
  | execute ok value =>
      refine sound_execute sound ?_ taken
      intro rejected id fd rest
      rw [rejected] at apart
      exact apart.flushed value id fd rest rfl
  | resume id =>
      refine sound_resume sound ?_ taken
      intro task unmounting found frame fd first
      have enters : entering state (.resume id) = some (.close, fd) := by
        simp only [entering, found, Option.map_some, frame, first]
      exact ⟨apart.usable _ fd enters, apart.idle fd enters⟩

/-- In a run in which calls on one descriptor do not overlap its close and no close fails, no
operation is executed on a closed descriptor, and `openFiles` forgets each descriptor with its
close. -/
theorem safe_of_apart {state : Descriptors}
    (reached : Reaches Descriptors.step Apart .empty state) : Safe state :=
  (reached.invariant sound_empty sound_step).safe

/-- A step in which no call passes `checkFd` and no operation fails meets the condition. -/
theorem apart_of_outside {state : Descriptors} {label : DescriptorLabel}
    (outside : entering state label = none) (fine : ∀ value, label ≠ .execute false value) :
    Apart state label := by
  constructor
  · intro method fd enters
    rw [outside] at enters
    cases enters
  · intro fd enters
    rw [outside] at enters
    cases enters
  · intro value id fd rest failing
    exact absurd failing (fine value)

/-- An open and a close that do not overlap. -/
theorem safe_open_close : ∃ state, follow Descriptors.step .empty
    [.start 0 (.open 0), .execute true 0, .resume 0, .execute true 7, .resume 0,
      .start 1 (.onFd .close 7), .execute true 0, .resume 1] = some state ∧ Safe state := by
  refine ⟨_, rfl, safe_of_apart (@reaches_of_follow _ _ _ _ _ _ _
    [.start 0 (.open 0), .execute true 0, .resume 0, .execute true 7, .resume 0,
      .start 1 (.onFd .close 7), .execute true 0, .resume 1] .first ?_ rfl)⟩
  refine ⟨apart_of_outside rfl (by simp), ?_⟩
  rintro _ ⟨⟩
  refine ⟨apart_of_outside rfl (by simp), ?_⟩
  rintro _ ⟨⟩
  refine ⟨apart_of_outside rfl (by simp), ?_⟩
  rintro _ ⟨⟩
  refine ⟨apart_of_outside rfl (by simp), ?_⟩
  rintro _ ⟨⟩
  refine ⟨apart_of_outside rfl (by simp), ?_⟩
  rintro _ ⟨⟩
  refine ⟨?_, ?_⟩
  · constructor
    · rintro _ _ ⟨⟩
      refine ⟨List.not_mem_nil, ?_⟩
      intro entry member
      cases member
    · rintro _ ⟨⟩ id task found
      rcases id with _ | id
      · cases found
        simp [between]
      · cases found
    · intro value id fd rest failing
      cases failing
  · rintro _ ⟨⟩
    refine ⟨apart_of_outside rfl (by simp), ?_⟩
    rintro _ ⟨⟩
    refine ⟨apart_of_outside rfl (by simp), fun _ _ => trivial⟩

/-- Two closes of one descriptor that both pass `checkFd`. -/
theorem two_closes_fault :
    ¬∀ state, Reaches Descriptors.step (fun _ _ => True) .empty state → Safe state := by
  intro safe
  have reached := safe _ (reaches_of_follow .first
    (along_of_forall (fun _ _ => trivial) _
      [.start 0 (.open 0), .execute true 0, .resume 0, .execute true 7, .resume 0,
        .start 1 (.onFd .close 7), .start 2 (.onFd .close 7), .execute true 0, .execute true 0]) rfl)
  have fault := reached.noFaults
  exact absurd fault (by decide)

end NodeExt2fs.Handles
