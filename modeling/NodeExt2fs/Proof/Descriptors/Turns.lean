import NodeExt2fs.Construction.Js.LiveHandles
import NodeExt2fs.Proof.Descriptors.Closed

/-!
This file tells what one step does to `openFiles`, to the queue and to the awaits of the calls.
-/

namespace NodeExt2fs.Handles
open Programs Structures Js

variable {calls calls' middle : Descriptors} {label : DescriptorLabel} {id : Nat} {frame : Frame}
variable {ops : List BindingOp}

section Requests

/-- The operations of a request are those of its frame. A change is requested alone, and a close only
by a call that passes `checkFd` in this step. -/
structure Requests (calls : Descriptors) (label : DescriptorLabel) (frame : Frame)
    (ops : List BindingOp) : Prop where
  changes : ∀ op ∈ ops, op.change? = frame.change?
  alone : frame.change? ≠ none → ops.length = 1
  enters : ∀ fd, frame.change? = some (.closes fd) → entering calls label = some (.close, fd)

theorem requests_plain (plain : frame.change? = none) (none_changes : ∀ op ∈ ops, op.change? = none) :
    Requests calls label frame ops := by
  refine ⟨fun op member => (none_changes op member).trans plain.symm, ?_, ?_⟩
  · intro changing
    exact absurd plain changing
  · intro fd closing
    rw [plain] at closing
    cases closing

theorem requests_open (flags : Nat) : Requests calls label (.openFile flags) [.open] := by
  refine ⟨?_, fun _ => rfl, ?_⟩
  · intro op member
    rw [List.mem_singleton.mp member]
    rfl
  · intro fd closing
    cases closing

theorem requests_close {fd : Nat} (closing : frame.change? = some (.closes fd))
    (enters : entering calls label = some (.close, fd)) :
    Requests calls label frame [.close fd] := by
  refine ⟨?_, fun _ => rfl, ?_⟩
  · intro op member
    rw [List.mem_singleton.mp member, closing]
    rfl
  · intro fd' closing'
    cases closing.symm.trans closing'
    exact enters

theorem change?_of_isDone (ended : frame.isDone = true) : frame.change? = none := by
  cases frame with
  | done ok => rfl
  | _ => cases ended

end Requests

section Turns

/-- The map after a call has gone on. -/
def mapAfter (before : Option Task) (openFiles : InsertionMap Nat Nat) : InsertionMap Nat Nat :=
  match before with
  | none => openFiles
  | some task =>
      if task.failed then openFiles
      else
        match task.frame with
        | .openFile flags => openFiles.set task.value flags
        | .closeFile fd | .closeAllFile fd _ => openFiles.delete fd
        | _ => openFiles

/-- The call is new, or it has been answered. A rejected one ends. -/
def Due (calls : Descriptors) (label : DescriptorLabel) (id : Nat) (frame : Frame) : Prop :=
  ∀ task, calls.task id = some task → label = .resume id ∧ task.frame.isDone = false ∧
    (task.failed = true ∧ frame.isDone = true ∨ task.failed = false ∧ task.waiting = 0)

/-- A call goes on up to its next await. -/
structure Turns (calls : Descriptors) (label : DescriptorLabel) (id : Nat) (frame : Frame)
    (ops : List BindingOp) (calls' : Descriptors) : Prop where
  due : Due calls label id frame
  requests : Requests calls label frame ops
  openFiles : calls'.openFiles = mapAfter (calls.task id) calls.openFiles
  queue : calls'.queue = calls.queue ++ entries id ops
  task : calls'.task = Function.update calls.task id
    (some { frame := frame, waiting := ops.length, failed := false, value := 0 })

theorem due_of_new (fresh : calls.task id = none) : Due calls label id frame := by
  intro task found
  rw [fresh] at found
  cases found

theorem turns_first (fresh : calls.task id = none) (requests : Requests calls label frame ops)
    (openFiles : middle.openFiles = calls.openFiles) (queue : middle.queue = calls.queue)
    (task : middle.task = calls.task) :
    Turns calls label id frame ops (middle.request id frame ops) := by
  refine ⟨due_of_new fresh, requests, ?_, ?_, ?_⟩
  · rw [fresh]
    exact openFiles
  · rw [← queue]
    rfl
  · rw [← task]
    rfl

/-- The keys of the map decide whether a call gets past `checkFd`. -/
theorem turns_callFd (label : DescriptorLabel) (fresh : calls.task id = none) (method : Method)
    (fd : Nat) (enters : method.checks ∧ calls.openFiles.has fd →
      entering calls label = some (method, fd)) :
    ∃ frame ops, Turns calls label id frame ops (calls.callFd id method fd) := by
  unfold Descriptors.callFd
  by_cases checks : method.checks = true
  · rw [if_neg (not_not_intro checks)]
    by_cases there : calls.openFiles.has fd = true
    · rw [if_neg (not_not_intro there)]
      have plain {frame : Frame} {op : BindingOp} (frame_plain : frame.change? = none)
          (op_plain : op.change? = none) : Turns calls label id frame [op] (calls.request id frame [op]) := by
        refine turns_first fresh (requests_plain frame_plain ?_) rfl rfl rfl
        intro op' member
        rw [List.mem_singleton.mp member]
        exact op_plain
      cases method with
      | close =>
          exact ⟨.closeFile fd, [.close fd],
            turns_first fresh (requests_close rfl (enters ⟨checks, there⟩)) rfl rfl rfl⟩
      | read length => exact ⟨_, _, plain rfl rfl⟩
      | write => exact ⟨_, _, plain rfl rfl⟩
      | fstat => exact ⟨_, _, plain rfl rfl⟩
      | fchmod => exact ⟨_, _, plain rfl rfl⟩
      | fchown => exact ⟨_, _, plain rfl rfl⟩
    · rw [if_pos there]
      exact ⟨_, _, turns_first fresh (requests_plain rfl (by simp)) rfl rfl rfl⟩
  · rw [if_pos checks]
    exact ⟨_, _, turns_first fresh (requests_plain rfl (by simp)) rfl rfl rfl⟩

/-- The loop of `closeAllFileDescriptors` asks for the close of the first key. -/
theorem closeNext_requests (calls : Descriptors) (label : DescriptorLabel) (id : Nat)
    (unmounting : Bool) (enters : ∀ fd, calls.openFiles.keys.head? = some fd →
      entering calls label = some (.close, fd)) :
    ∃ frame ops, calls.closeNext id unmounting = calls.request id frame ops ∧
      Requests calls label frame ops := by
  unfold Descriptors.closeNext
  rcases next : calls.openFiles.keys.head? with _ | fd
  · by_cases more : unmounting = true
    · simp only [if_pos more]
      exact ⟨_, _, rfl, requests_plain rfl (by simp)⟩
    · simp only [if_neg more]
      exact ⟨.done true, [], rfl, requests_plain rfl (by simp)⟩
  · exact ⟨_, _, rfl, requests_close rfl (enters fd next)⟩

theorem turns_start (fresh : calls.task id = none) (call : FsCall) :
    ∃ frame ops, Turns calls (.start id call) id frame ops (calls.start id call) := by
  cases call with
  | «open» flags =>
      exact ⟨_, _, turns_first fresh (requests_plain rfl (by simp [BindingOp.change?])) rfl rfl rfl⟩
  | onFd method fd => exact turns_callFd _ fresh method fd fun passes => if_pos passes
  | closeAll unmounting =>
      obtain ⟨frame, ops, same, requests⟩ := closeNext_requests calls (.start id (.closeAll unmounting)) id
        unmounting fun fd first => by simp [entering, first]
      rw [Descriptors.start, same]
      exact ⟨frame, ops, turns_first fresh requests rfl rfl rfl⟩

theorem turns_onHandle (fresh : calls.task id = none) (handle : Nat) (method : Method) :
    ∃ frame ops,
      Turns calls (.onHandle id handle method) id frame ops (calls.onHandle id handle method) := by
  unfold Descriptors.onHandle
  rcases held : calls.kFd handle with _ | fd
  · exact ⟨_, _, turns_first fresh (requests_plain rfl (by simp)) rfl rfl rfl⟩
  · obtain ⟨frame, ops, turns⟩ := turns_callFd (.onHandle id handle method) fresh method fd
      fun passes => by
        simp only [entering, held, Option.bind_some]
        exact if_pos passes
    refine ⟨frame, ops, ?_⟩
    by_cases closing : method = .close
    · simp only [if_pos closing]
      exact ⟨turns.due, turns.requests, turns.openFiles, turns.queue, turns.task⟩
    · simp only [if_neg closing]
      exact turns

/-- A call that was answered makes its next request. -/
theorem turns_next {task : Task} (found : calls.task id = some task)
    (awaiting : task.frame.isDone = false) (fine : task.failed = false) (answered : task.waiting = 0)
    (requests : Requests calls (.resume id) frame ops)
    (openFiles : middle.openFiles = mapAfter (some task) calls.openFiles)
    (queue : middle.queue = calls.queue) (tasks : middle.task = calls.task) :
    Turns calls (.resume id) id frame ops (middle.request id frame ops) := by
  refine ⟨?_, requests, ?_, ?_, ?_⟩
  · intro task' found'
    cases found.symm.trans found'
    exact ⟨rfl, awaiting, .inr ⟨fine, answered⟩⟩
  · rw [found]
    exact openFiles
  · rw [← queue]
    rfl
  · rw [← tasks]
    rfl

/-- By its frame, a call that was answered changes the map and makes its next request. -/
theorem turns_proceed {task : Task} (found : calls.task id = some task) (fine : task.failed = false)
    (answered : task.waiting = 0) (taken : calls.proceed id task.value task.frame = some calls') :
    ∃ frame ops, Turns calls (.resume id) id frame ops calls' := by
  have mapped : mapAfter (some task) calls.openFiles =
      match task.frame with
      | .openFile flags => calls.openFiles.set task.value flags
      | .closeFile fd | .closeAllFile fd _ => calls.openFiles.delete fd
      | _ => calls.openFiles := by
    rw [mapAfter, if_neg (Bool.eq_false_iff.mp fine)]
  have awaiting : task.frame.isDone = false := by
    cases frame : task.frame with
    | done ok =>
        rw [frame] at taken
        cases taken
    | _ => rfl
  have next {middle : Descriptors} {frame : Frame} {ops : List BindingOp}
      (requests : Requests calls (.resume id) frame ops)
      (openFiles : middle.openFiles = mapAfter (some task) calls.openFiles)
      (queue : middle.queue = calls.queue) (tasks : middle.task = calls.task) :
      ∃ frame' ops', Turns calls (.resume id) id frame' ops' (middle.request id frame ops) :=
    ⟨_, _, turns_next found awaiting fine answered requests openFiles queue tasks⟩
  cases frame : task.frame with
  | openPath flags =>
      rw [frame] at taken mapped
      cases taken
      exact next (requests_open flags) mapped.symm rfl rfl
  | openFile flags =>
      rw [frame] at taken mapped
      cases taken
      exact next (requests_plain rfl (by simp)) mapped.symm rfl rfl
  | closeFile fd =>
      rw [frame] at taken mapped
      cases taken
      exact next (requests_plain rfl (by simp)) mapped.symm rfl rfl
  | readBuffer fd =>
      rw [frame] at taken mapped
      cases taken
      exact next (requests_plain rfl (by simp [BindingOp.change?])) mapped.symm rfl rfl
  | writeBuffer fd =>
      rw [frame] at taken mapped
      cases taken
      exact next (requests_plain rfl (by simp [BindingOp.change?])) mapped.symm rfl rfl
  | statCtime fd =>
      rw [frame] at taken mapped
      cases taken
      exact next (requests_plain rfl (by simp [statFields, BindingOp.change?])) mapped.symm rfl rfl
  | closeAllFile fd unmounting =>
      rw [frame] at taken mapped
      cases taken
      exact next (requests_plain rfl (by simp)) mapped.symm rfl rfl
  | closeAllNext unmounting =>
      rw [frame] at taken mapped
      cases taken
      obtain ⟨frame', ops, same, requests⟩ := closeNext_requests calls (.resume id) id unmounting
        fun fd first => by simp [entering, found, frame, first]
      rw [same]
      exact next requests mapped.symm rfl rfl
  | closedAll =>
      rw [frame] at taken mapped
      cases taken
      exact next (requests_plain rfl (by simp [BindingOp.change?])) mapped.symm rfl rfl
  | last =>
      rw [frame] at taken mapped
      cases taken
      exact next (requests_plain rfl (by simp)) mapped.symm rfl rfl
  | done ok =>
      rw [frame] at awaiting
      cases awaiting

theorem turns_resume (taken : calls.resume id = some calls') :
    ∃ frame ops, Turns calls (.resume id) id frame ops calls' := by
  unfold Descriptors.resume at taken
  rcases found : calls.task id with _ | task
  · simp only [found] at taken
    cases taken
  · simp only [found] at taken
    by_cases ended : task.frame.isDone = true
    · rw [if_pos ended] at taken
      cases taken
    rw [if_neg ended] at taken
    by_cases failed : task.failed = true
    · rw [if_pos failed] at taken
      cases taken
      refine ⟨.done false, [], ?_, requests_plain rfl (by simp), ?_, rfl, rfl⟩
      · intro task' found'
        cases found.symm.trans found'
        exact ⟨rfl, Bool.eq_false_iff.mpr ended, .inl ⟨failed, rfl⟩⟩
      · rw [found, mapAfter, if_pos failed]
        rfl
    rw [if_neg failed] at taken
    by_cases answered : task.waiting = 0
    · rw [if_pos answered] at taken
      exact turns_proceed found (Bool.eq_false_iff.mpr failed) answered taken
    · rw [if_neg answered] at taken
      cases taken

end Turns

section Cases

/-- The first operation of the queue is executed, with a result. -/
structure Executes (calls : Descriptors) (ok : Bool) (value id : Nat) (op : BindingOp)
    (calls' : Descriptors) : Prop where
  queue : calls.queue = { task := id, op := op } :: calls'.queue
  openFiles : calls'.openFiles = calls.openFiles
  task : calls'.task = Function.update calls.task id
    ((calls.task id).map fun task => task.answered ok value)

/-- A step lets a call go on, or executes an operation. -/
theorem LiveHandles.step_cases {state state' : LiveHandles} (taken : state.step label = some state') :
    (∃ id frame ops, Turns state.calls label id frame ops state'.calls ∧ state'.live = state.live) ∨
      ∃ ok value id op, label = .execute ok value ∧
        Executes state.calls ok value id op state'.calls ∧
        state'.live = op.liveAfter ok value state.live := by
  obtain ⟨calls', stepped, same⟩ := Option.map_eq_some_iff.mp taken
  cases label with
  | start id call =>
      obtain ⟨fresh, begun⟩ := Option.ite_none_right_eq_some.mp stepped
      cases begun
      obtain ⟨frame, ops, turns⟩ := turns_start (Option.isNone_iff_eq_none.mp fresh) call
      rw [← same]
      exact .inl ⟨id, frame, ops, turns, rfl⟩
  | onHandle id handle method =>
      obtain ⟨fresh, begun⟩ := Option.ite_none_right_eq_some.mp stepped
      cases begun
      obtain ⟨frame, ops, turns⟩ := turns_onHandle (Option.isNone_iff_eq_none.mp fresh) handle method
      rw [← same]
      exact .inl ⟨id, frame, ops, turns, rfl⟩
  | execute ok value =>
      rcases queue : state.calls.queue with _ | ⟨⟨id, op⟩, rest⟩
      · simp [Descriptors.step, Descriptors.execute, queue] at stepped
      · simp only [Descriptors.step, Descriptors.execute, queue] at stepped
        cases stepped
        rw [← same, queue]
        exact .inr ⟨ok, value, id, op, rfl, ⟨queue, rfl, rfl⟩, rfl⟩
  | resume id =>
      obtain ⟨frame, ops, turns⟩ := turns_resume stepped
      rw [← same]
      exact .inl ⟨id, frame, ops, turns, rfl⟩

end Cases

section Waiting

variable {ok : Bool} {value : Nat} {op : BindingOp}

/-- The queued operations belong to the awaits. A call that awaits a change awaits nothing else. -/
structure Waits (calls : Descriptors) : Prop where
  owned : ∀ entry ∈ calls.queue, ∃ task, calls.task entry.task = some task ∧
    entry.op.change? = task.frame.change?
  counted : ∀ id task, calls.task id = some task → task.frame.isDone = false →
    calls.queue.countP (fun entry => entry.task = id) = task.waiting
  single : ∀ id task, calls.task id = some task → task.frame.change? ≠ none →
    task.waiting = 1 ∧ task.failed = false ∨ task.waiting = 0

theorem waits_empty : Waits .empty := by
  refine ⟨?_, ?_, ?_⟩
  · intro entry member
    cases member
  · intro id task found
    cases found
  · intro id task found
    cases found

/-- A call has an operation in the queue if it still waits. -/
theorem Waits.waiting (waits : Waits calls) {entry : Queued} (member : entry ∈ calls.queue) {task : Task}
    (found : calls.task entry.task = some task) (awaiting : task.frame.isDone = false) :
    task.waiting ≠ 0 := by
  rw [← waits.counted _ _ found awaiting, ← Nat.pos_iff_ne_zero, List.countP_pos_iff]
  exact ⟨entry, member, decide_eq_true rfl⟩

theorem not_isDone (changing : frame.change? ≠ none) : frame.isDone = false :=
  Bool.eq_false_iff.mpr fun ended => changing (change?_of_isDone ended)

/-- Before a call goes on, none of its queued operations is a change. -/
theorem Waits.plain (waits : Waits calls) (due : Due calls label id frame) {entry : Queued}
    (member : entry ∈ calls.queue) (own : entry.task = id) :
    frame.isDone = true ∧ entry.op.change? = none := by
  obtain ⟨task, found, same⟩ := waits.owned entry member
  have waiting := waits.waiting member found
  rw [own] at found
  obtain ⟨_, awaiting, ⟨failed, ended⟩ | ⟨_, answered⟩⟩ := due task found
  · refine ⟨ended, ?_⟩
    rw [same]
    by_contra changing
    rcases waits.single id task found changing with ⟨_, fine⟩ | none_left
    · rw [failed] at fine
      cases fine
    · exact waiting awaiting none_left
  · exact absurd answered (waiting awaiting)

theorem countP_entries (id id' : Nat) (ops : List BindingOp) :
    (entries id ops).countP (fun entry => entry.task = id') = if id = id' then ops.length else 0 := by
  rw [entries, List.countP_map]
  by_cases same : id = id'
  · rw [if_pos same, List.countP_eq_length.mpr]
    intro op _
    exact decide_eq_true same
  · rw [if_neg same, List.countP_eq_zero.mpr]
    intro op _ counted
    exact same (of_decide_eq_true counted)

theorem Waits.turns (waits : Waits calls) (turns : Turns calls label id frame ops calls') :
    Waits calls' := by
  have self : calls'.task id =
      some { frame := frame, waiting := ops.length, failed := false, value := 0 } := by
    rw [turns.task, Function.update_self]
  have other {id' : Nat} (apart : id' ≠ id) : calls'.task id' = calls.task id' := by
    rw [turns.task, Function.update_of_ne apart]
  refine ⟨?_, ?_, ?_⟩
  · intro entry member
    rw [turns.queue] at member
    rcases List.mem_append.mp member with old | new
    · by_cases own : entry.task = id
      · obtain ⟨ended, none_changes⟩ := waits.plain turns.due old own
        rw [own, self]
        exact ⟨_, rfl, none_changes.trans (change?_of_isDone ended).symm⟩
      · rw [other own]
        exact waits.owned entry old
    · obtain ⟨own, requested⟩ := mem_entries new
      rw [own, self]
      exact ⟨_, rfl, turns.requests.changes _ requested⟩
  · intro id' task found awaiting
    rw [turns.queue, List.countP_append, countP_entries]
    by_cases own : id' = id
    · rw [own, self] at found
      cases found
      have none_left : calls.queue.countP (fun entry => entry.task = id') = 0 := by
        rw [List.countP_eq_zero]
        intro entry member counted
        have ended := (waits.plain turns.due member ((of_decide_eq_true counted).trans own)).1
        rw [ended] at awaiting
        cases awaiting
      rw [none_left, if_pos own.symm, Nat.zero_add]
    · rw [other own] at found
      rw [if_neg (Ne.symm own), Nat.add_zero]
      exact waits.counted id' task found awaiting
  · intro id' task found changing
    by_cases own : id' = id
    · rw [own, self] at found
      cases found
      exact .inl ⟨turns.requests.alone changing, rfl⟩
    · rw [other own] at found
      exact waits.single id' task found changing

theorem Executes.first (executes : Executes calls ok value id op calls') :
    { task := id, op := op } ∈ calls.queue := by
  rw [executes.queue]
  exact List.mem_cons_self

/-- A call after the execution of an operation, which may have been its own. -/
theorem Executes.before (executes : Executes calls ok value id op calls') {id' : Nat} {task' : Task}
    (found : calls'.task id' = some task') : ∃ task, calls.task id' = some task ∧
      task' = if id' = id then task.answered ok value else task := by
  rw [executes.task] at found
  by_cases own : id' = id
  · rw [own, Function.update_self] at found
    obtain ⟨task, found, same⟩ := Option.map_eq_some_iff.mp found
    exact ⟨task, own ▸ found, by rw [if_pos own, same]⟩
  · rw [Function.update_of_ne own] at found
    exact ⟨task', found, by rw [if_neg own]⟩

theorem Executes.after (executes : Executes calls ok value id op calls') {id' : Nat} {task : Task}
    (found : calls.task id' = some task) :
    calls'.task id' = some (if id' = id then task.answered ok value else task) := by
  rw [executes.task]
  by_cases own : id' = id
  · rw [own, Function.update_self, if_pos rfl, ← own, found]
    rfl
  · rw [Function.update_of_ne own, if_neg own, found]

theorem frame_answered (own : Prop) [Decidable own] (task : Task) (ok : Bool) (value : Nat) :
    (if own then task.answered ok value else task).frame = task.frame := by
  split
  · rfl
  · rfl

theorem Waits.executes (waits : Waits calls) (executes : Executes calls ok value id op calls') :
    Waits calls' := by
  refine ⟨?_, ?_, ?_⟩
  · intro entry member
    obtain ⟨task, found, same⟩ :=
      waits.owned entry (executes.queue ▸ List.mem_cons_of_mem _ member)
    exact ⟨_, executes.after found, same.trans (by rw [frame_answered])⟩
  · intro id' task' found awaiting
    obtain ⟨task, found, same⟩ := executes.before found
    rw [same, frame_answered] at awaiting
    have counted := waits.counted id' task found awaiting
    rw [executes.queue, List.countP_cons] at counted
    rw [same]
    by_cases own : id' = id
    · rw [if_pos (decide_eq_true own.symm)] at counted
      rw [if_pos own]
      exact Nat.eq_sub_of_add_eq counted
    · rw [if_neg (by simpa using Ne.symm own), Nat.add_zero] at counted
      rw [if_neg own]
      exact counted
  · intro id' task' found changing
    obtain ⟨task, found, same⟩ := executes.before found
    rw [same, frame_answered] at changing
    rw [same]
    by_cases own : id' = id
    · rw [if_pos own]
      refine .inr ?_
      rcases waits.single id' task found changing with ⟨one, _⟩ | none_left
      · rw [Task.answered, one]
      · rw [Task.answered, none_left]
    · rw [if_neg own]
      exact waits.single id' task found changing

end Waiting

end NodeExt2fs.Handles
