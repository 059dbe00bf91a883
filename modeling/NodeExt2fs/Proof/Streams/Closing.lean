import NodeExt2fs.Construction.Js.StreamClosing

/-!
This file proves how often a stream closes its descriptor, and which callbacks of `close` are called.
-/

namespace NodeExt2fs.Streams
open Programs Js Js.StreamClosing

variable {state state' : StreamClosing} {events : List ClosingEvent} {fd : Nat}

/-- The calls that ask a stream to close. Of those of `destroy` only the first one does. -/
def closings : Bool → List ClosingEvent → Nat
  | _, [] => 0
  | destroyed, .close _ :: rest => closings destroyed rest + 1
  | destroyed, .destroy :: rest => closings true rest + if destroyed then 0 else 1
  | destroyed, _ :: rest => closings destroyed rest

/-- The events before the first `fs.close` has dropped the descriptor. -/
def untilCleared (events : List ClosingEvent) : List ClosingEvent :=
  events.takeWhile fun event => event ≠ .cleared

theorem close_absent (absent : state.fd = none) (cb : Option Nat) :
    state.close cb = { state with
      closeListeners := state.closeListeners ++ cb.toList
      openListeners := state.openListeners + 1 } := by
  simp [close, absent]

theorem close_present (present : state.fd = some fd) (cb : Option Nat) :
    state.close cb = { state with
      closeListeners := state.closeListeners ++ cb.toList
      isClosed := true
      ticks := state.ticks + if state.isClosed then 1 else 0
      closing := state.closing + if state.isClosed then 0 else 1
      requested := state.requested ++ if state.isClosed then [] else [fd] } := by
  cases ended : state.isClosed <;> simp [close, request, present, ended]

theorem destroy_absent (absent : state.fd = none) :
    state.destroy = { state with
      destroyed := true
      openListeners := state.openListeners + if state.destroyed then 0 else 1 } := by
  cases before : state.destroyed
  · simp [destroy, before, close, absent]
  · simp [destroy, ← before]

theorem destroy_present (present : state.fd = some fd) :
    state.destroy = { state with
      destroyed := true
      isClosed := state.isClosed || !state.destroyed
      ticks := state.ticks + if state.isClosed && !state.destroyed then 1 else 0
      closing := state.closing + if state.isClosed || state.destroyed then 0 else 1
      requested := state.requested ++ if state.isClosed || state.destroyed then [] else [fd] } := by
  cases before : state.destroyed
  · cases ended : state.isClosed <;> simp [destroy, close, request, before, present, ended]
  · cases state
    simp_all [destroy]

@[simp] theorem step_opened : state.step (.opened fd) = some state' ↔
    state.opening = true ∧ state' = state.opened fd := by
  by_cases opening : state.opening <;> simp [step, opening, eq_comm]

@[simp] theorem step_openFailed : state.step .openFailed = some state' ↔
    state.opening = true ∧ state' = state.openFailed := by
  by_cases opening : state.opening <;> simp [step, opening, eq_comm]

@[simp] theorem step_ended {ok : Bool} : state.step (.ended ok) = some state' ↔
    state.closing ≠ 0 ∧ state' = state.ended ok := by
  by_cases none : state.closing = 0 <;> simp [step, none, eq_comm]

@[simp] theorem step_cleared : state.step .cleared = some state' ↔
    state.clearing ≠ 0 ∧ state' = { state with clearing := state.clearing - 1, fd := none } := by
  by_cases none : state.clearing = 0 <;> simp [step, none, eq_comm]

@[simp] theorem step_tick : state.step .tick = some state' ↔
    state.ticks ≠ 0 ∧ state' = { state with ticks := state.ticks - 1 }.emitClose := by
  by_cases none : state.ticks = 0 <;> simp [step, none, eq_comm]

/-- What an end of `fs.close` leaves as it is. -/
theorem ended_keeps (state : StreamClosing) (ok : Bool) :
    (state.ended ok).opening = state.opening ∧ (state.ended ok).fd = state.fd ∧
      (state.ended ok).isClosed = state.isClosed ∧ (state.ended ok).destroyed = state.destroyed ∧
      (state.ended ok).openListeners = state.openListeners ∧
      (state.ended ok).requested = state.requested := by
  cases ok <;> simp [ended, emitClose]

/-- A stream closes without opening its file again. -/
theorem close_keeps (state : StreamClosing) (cb : Option Nat) :
    (state.close cb).opening = state.opening ∧ (state.close cb).fd = state.fd ∧
      (state.close cb).destroyed = state.destroyed := by
  cases held : state.fd with
  | none => simp [close_absent held, held]
  | some fd => simp [close_present held, held]

theorem destroy_keeps (state : StreamClosing) :
    state.destroy.opening = state.opening ∧ state.destroy.fd = state.fd := by
  by_cases before : state.destroyed
  · simp [destroy, before]
  · simp [destroy, before, close_keeps]

@[simp] theorem openFailed_opening (state : StreamClosing) : state.openFailed.opening = false := by
  by_cases auto : state.autoClose <;> simp [openFailed, auto, destroy_keeps]

/-- A file is opened once. -/
theorem opening_step {event : ClosingEvent} (taken : state.step event = some state')
    (opened : state.opening = false) : state'.opening = false := by
  cases event with
  | close cb =>
      obtain rfl := Option.some.inj taken
      rw [(close_keeps state cb).1, opened]
  | destroy =>
      obtain rfl := Option.some.inj taken
      rw [(destroy_keeps state).1, opened]
  | opened fd => simp [opened] at taken
  | openFailed => simp [opened] at taken
  | ended ok =>
      obtain ⟨-, rfl⟩ := step_ended.mp taken
      rw [(ended_keeps state ok).1, opened]
  | cleared =>
      obtain ⟨-, rfl⟩ := step_cleared.mp taken
      exact opened
  | tick =>
      obtain ⟨-, rfl⟩ := step_tick.mp taken
      exact opened

theorem opening_run (followed : follow step state events = some state')
    (opened : state.opening = false) : state'.opening = false := by
  induction events generalizing state with
  | nil =>
      obtain rfl := Option.some.inj followed
      exact opened
  | cons event rest ih =>
      obtain ⟨middle, taken, later⟩ := Option.bind_eq_some_iff.mp followed
      exact ih later (opening_step taken opened)

theorem openFailed_absent (absent : state.fd = none) :
    state.openFailed.fd = none ∧ state.openFailed.requested = state.requested := by
  by_cases auto : state.autoClose <;> simp [openFailed, auto, destroy, close, absent, apply_ite]

/-- Only the opening gives a descriptor, and nothing is closed without one. -/
theorem requested_absent {event : ClosingEvent} (taken : state.step event = some state')
    (absent : state.fd = none) (never : ∀ fd, event ≠ .opened fd) :
    state'.fd = none ∧ state'.requested = state.requested := by
  cases event with
  | close cb =>
      obtain rfl := Option.some.inj taken
      simp [close_absent absent, absent]
  | destroy =>
      obtain rfl := Option.some.inj taken
      simp [destroy_absent absent, absent]
  | opened fd => exact absurd rfl (never fd)
  | openFailed =>
      obtain ⟨-, rfl⟩ := step_openFailed.mp taken
      exact openFailed_absent absent
  | ended ok =>
      obtain ⟨-, rfl⟩ := step_ended.mp taken
      simp [ended_keeps, absent]
  | cleared =>
      obtain ⟨-, rfl⟩ := step_cleared.mp taken
      simp
  | tick =>
      obtain ⟨-, rfl⟩ := step_tick.mp taken
      simp [emitClose, absent]

/-- A run in which no `open` succeeds closes nothing. -/
theorem requested_unopened (followed : follow step state events = some state')
    (never : ∀ fd, .opened fd ∉ events) (absent : state.fd = none) :
    state'.requested = state.requested := by
  induction events generalizing state with
  | nil =>
      obtain rfl := Option.some.inj followed
      rfl
  | cons event rest ih =>
      obtain ⟨middle, taken, later⟩ := Option.bind_eq_some_iff.mp followed
      obtain ⟨gone, same⟩ := requested_absent taken absent fun fd here =>
        never fd (here ▸ List.mem_cons_self)
      rw [ih later (fun fd member => never fd (List.mem_cons_of_mem _ member)) gone, same]

theorem unopened_of_opened (followed : follow step state events = some state')
    (opened : state.opening = false) (fd : Nat) : .opened fd ∉ events := by
  induction events generalizing state with
  | nil => exact List.not_mem_nil
  | cons event rest ih =>
      obtain ⟨middle, taken, later⟩ := Option.bind_eq_some_iff.mp followed
      rw [List.mem_cons, not_or]
      refine ⟨?_, ih later (opening_step taken opened)⟩
      rintro rfl
      simp [opened] at taken

/-- While a stream is opening, each closing call waits for the descriptor. -/
theorem waits_opening (followed : follow step state events = some state')
    (opening : state'.opening = true) (absent : state.fd = none) :
    state'.fd = none ∧ state'.isClosed = state.isClosed ∧ state'.requested = state.requested ∧
      state'.openListeners = state.openListeners + closings state.destroyed events ∧
      state'.destroyed = (state.destroyed || decide (.destroy ∈ events)) := by
  induction events generalizing state with
  | nil =>
      obtain rfl := Option.some.inj followed
      simp [closings, absent]
  | cons event rest ih =>
      obtain ⟨middle, taken, later⟩ := Option.bind_eq_some_iff.mp followed
      have still : middle.opening = true := by
        cases ended : middle.opening with
        | true => rfl
        | false =>
            rw [opening_run later ended] at opening
            cases opening
      cases event with
      | close cb =>
          obtain rfl := Option.some.inj taken
          obtain ⟨gone, closed, same, waiting, destroyed⟩ := ih later (by simp [close_keeps, absent])
          simp only [close_absent absent] at closed same waiting destroyed
          refine ⟨gone, closed, same, ?_, by simpa using destroyed⟩
          rw [waiting, closings]
          omega
      | destroy =>
          obtain rfl := Option.some.inj taken
          obtain ⟨gone, closed, same, waiting, destroyed⟩ := ih later (by simp [destroy_keeps, absent])
          simp only [destroy_absent absent] at closed same waiting destroyed
          refine ⟨gone, closed, same, ?_, by simpa using destroyed⟩
          rw [waiting, closings]
          omega
      | opened fd =>
          obtain ⟨-, rfl⟩ := step_opened.mp taken
          cases still
      | openFailed =>
          obtain ⟨-, rfl⟩ := step_openFailed.mp taken
          rw [openFailed_opening] at still
          cases still
      | ended ok =>
          obtain ⟨-, rfl⟩ := step_ended.mp taken
          simpa [ended_keeps, closings] using ih later (by simp [ended_keeps, absent])
      | cleared =>
          obtain ⟨-, rfl⟩ := step_cleared.mp taken
          simpa [closings] using ih later rfl
      | tick =>
          obtain ⟨-, rfl⟩ := step_tick.mp taken
          simpa [emitClose, closings] using ih later absent

/-- The calls that a stream makes of `fs.close` once it has its descriptor: one, if it is asked to close
before the descriptor has been dropped, and if it has not made one for the same reason. -/
def requests (isClosed destroyed : Bool) (events : List ClosingEvent) : Nat :=
  if isClosed = false ∧ 0 < closings destroyed (untilCleared events) then 1 else 0

/-- With its descriptor, a stream closes it at most once more. -/
theorem requested_open (followed : follow step state events = some state')
    (opened : state.opening = false) (present : state.fd = some fd) :
    state'.requested =
      state.requested ++ List.replicate (requests state.isClosed state.destroyed events) fd := by
  induction events generalizing state with
  | nil =>
      obtain rfl := Option.some.inj followed
      simp [requests, untilCleared, closings]
  | cons event rest ih =>
      obtain ⟨middle, taken, later⟩ := Option.bind_eq_some_iff.mp followed
      have opened' := opening_step taken opened
      cases event with
      | close cb =>
          obtain rfl := Option.some.inj taken
          rw [ih later opened' (by simp [close_keeps, present]), close_present present]
          cases ended : state.isClosed <;> simp [requests, untilCleared, closings]
      | destroy =>
          obtain rfl := Option.some.inj taken
          rw [ih later opened' (by simp [destroy_keeps, present]), destroy_present present]
          cases ended : state.isClosed <;> cases before : state.destroyed <;>
            simp [requests, untilCleared, closings]
      | opened fd => simp [opened] at taken
      | openFailed => simp [opened] at taken
      | ended ok =>
          obtain ⟨-, rfl⟩ := step_ended.mp taken
          rw [ih later opened' (by simp [ended_keeps, present])]
          simp [ended_keeps, requests, untilCleared, closings]
      | cleared =>
          obtain ⟨-, rfl⟩ := step_cleared.mp taken
          rw [requested_unopened later (unopened_of_opened later opened) rfl]
          simp [requests, untilCleared, closings]
      | tick =>
          obtain ⟨-, rfl⟩ := step_tick.mp taken
          rw [ih later opened' present]
          simp [emitClose, requests, untilCleared, closings]

/-- How often a stream calls `fs.close`, and with which descriptor. One that opens its file makes a call
for each time that it was asked to close while it was opening, and one more if it is asked again. One
that has failed to open makes none. -/
def Requested (given : Option Nat) (events : List ClosingEvent) (requested : List Nat) : Prop :=
  match given with
  | some fd => requested = List.replicate (requests false false events) fd
  | none =>
      (∀ fd, .opened fd ∉ events) ∧ requested = [] ∨
        ∃ early fd late, events = early ++ .opened fd :: late ∧
          requested = List.replicate (closings false early +
            requests false (decide (.destroy ∈ early)) late) fd

/-- A stream closes its descriptor as often as it was asked to before it had one, and once more at
most. -/
theorem closes_counted {given : Option Nat} {autoClose : Bool}
    (followed : follow step (create given autoClose) events = some state) :
    Requested given events state.requested := by
  cases given with
  | some fd => exact requested_open followed rfl rfl
  | none =>
      by_cases never : ∀ fd, .opened fd ∉ events
      · exact .inl ⟨never, requested_unopened followed never rfl⟩
      · obtain ⟨fd, member⟩ := Classical.not_forall.mp never
        obtain ⟨early, late, rfl⟩ := List.append_of_mem (Classical.not_not.mp member)
        obtain ⟨middle, before, rest⟩ := follow_append followed
        obtain ⟨next, taken, after⟩ := Option.bind_eq_some_iff.mp rest
        obtain ⟨opening, rfl⟩ := step_opened.mp taken
        obtain ⟨-, closed, none, waiting, destroyed⟩ := waits_opening before opening rfl
        refine .inr ⟨early, fd, late, rfl, ?_⟩
        rw [requested_open after rfl rfl]
        simp only [StreamClosing.opened, request, none, closed, waiting, destroyed]
        simp [create, List.replicate_append_replicate]

/-- A stream that is closed twice while it is opening closes its descriptor twice. -/
theorem closes_counted_twice : ∃ state,
    follow step (create none true) [.close (some 0), .destroy, .opened 3, .ended true, .cleared,
      .ended false, .cleared, .close (some 1)] = some state ∧ state.requested = [3, 3] ∧
      Requested none [.close (some 0), .destroy, .opened 3, .ended true, .cleared, .ended false, .cleared,
        .close (some 1)] state.requested := by
  exact ⟨_, rfl, rfl, @closes_counted _ _ none true rfl⟩

section Callbacks

variable {cb : Nat}

/-- An 'open' or a 'close' event may come, and the descriptor may be there. -/
def Live (state : StreamClosing) : Prop :=
  state.opening = true ∨ state.fd.isSome = true ∨ state.closing ≠ 0 ∨ state.ticks ≠ 0

/-- Nothing that the stream waits for is in flight. -/
def Resting (state : StreamClosing) : Prop :=
  state.opening = false ∧ state.closing = 0 ∧ state.ticks = 0

/-- The callback has been called, or it waits for an event that will come. -/
def Awaited (cb : Nat) (state : StreamClosing) : Prop :=
  cb ∈ state.called ∨ cb ∈ state.closeListeners ∧
    (state.opening = true ∧ state.openListeners ≠ 0 ∨ state.closing ≠ 0 ∨ state.ticks ≠ 0)

/-- A call to close forgets nothing that the stream waits for. -/
theorem awaited_close (awaited : Awaited cb state) (cb' : Option Nat) : Awaited cb (state.close cb') := by
  rcases awaited with called | ⟨waits, pending⟩
  · left
    cases held : state.fd with
    | none => simpa [close_absent held] using called
    | some fd => simpa [close_present held] using called
  · right
    cases held : state.fd with
    | none =>
        rw [close_absent held]
        exact ⟨List.mem_append_left _ waits, by grind⟩
    | some fd =>
        rw [close_present held]
        exact ⟨List.mem_append_left _ waits, by grind⟩

theorem awaited_destroy (awaited : Awaited cb state) : Awaited cb state.destroy := by
  by_cases before : state.destroyed
  · simpa [destroy, before] using awaited
  · rw [destroy, if_neg before]
    exact @awaited_close { state with destroyed := true } cb awaited none

/-- Each event that comes calls the callback or leaves it waiting for another one. -/
theorem awaited_step {event : ClosingEvent} (taken : state.step event = some state')
    (fine : event ≠ .openFailed ∧ event ≠ .ended false) (awaited : Awaited cb state) :
    Awaited cb state' := by
  cases event with
  | close cb' =>
      obtain rfl := Option.some.inj taken
      exact awaited_close awaited cb'
  | destroy =>
      obtain rfl := Option.some.inj taken
      exact awaited_destroy awaited
  | opened fd =>
      obtain ⟨-, rfl⟩ := step_opened.mp taken
      rcases awaited with called | ⟨waits, pending⟩
      · exact .inl called
      · refine .inr ⟨waits, ?_⟩
        simp only [StreamClosing.opened, request, List.length_replicate]
        grind
  | openFailed => exact absurd rfl fine.1
  | ended ok =>
      obtain ⟨-, rfl⟩ := step_ended.mp taken
      cases ok with
      | true => exact .inl (List.mem_append.mpr (awaited.imp_right And.left))
      | false => exact absurd rfl fine.2
  | cleared =>
      obtain ⟨-, rfl⟩ := step_cleared.mp taken
      exact awaited
  | tick =>
      obtain ⟨-, rfl⟩ := step_tick.mp taken
      exact .inl (List.mem_append.mpr (awaited.imp_right And.left))

theorem awaited_run (followed : follow step state events = some state')
    (fine : ∀ event ∈ events, event ≠ .openFailed ∧ event ≠ .ended false) (awaited : Awaited cb state) :
    Awaited cb state' := by
  induction events generalizing state with
  | nil =>
      obtain rfl := Option.some.inj followed
      exact awaited
  | cons event rest ih =>
      obtain ⟨middle, taken, later⟩ := Option.bind_eq_some_iff.mp followed
      have awaited' := awaited_step taken (fine event List.mem_cons_self) awaited
      exact ih later (fun event' member => fine event' (List.mem_cons_of_mem _ member)) awaited'

/-- Once nothing is live any more, no callback is called. -/
theorem called_ended {event : ClosingEvent} (taken : state.step event = some state')
    (dead : ¬Live state) : ¬Live state' ∧ state'.called = state.called := by
  simp only [Live, not_or, Bool.not_eq_true, Option.isSome_eq_false_iff, Option.isNone_iff_eq_none,
    Decidable.not_not] at dead
  obtain ⟨opened, absent, none, still⟩ := dead
  cases event with
  | close cb' =>
      obtain rfl := Option.some.inj taken
      simp [Live, close_absent absent, opened, absent, none, still]
  | destroy =>
      obtain rfl := Option.some.inj taken
      simp [Live, destroy_absent absent, opened, absent, none, still]
  | opened fd => simp [opened] at taken
  | openFailed => simp [opened] at taken
  | ended ok => simp [none] at taken
  | cleared =>
      obtain ⟨-, rfl⟩ := step_cleared.mp taken
      simp [Live, opened, none, still]
  | tick => simp [still] at taken

theorem called_ended_run (followed : follow step state events = some state') (dead : ¬Live state) :
    state'.called = state.called := by
  induction events generalizing state with
  | nil =>
      obtain rfl := Option.some.inj followed
      rfl
  | cons event rest ih =>
      obtain ⟨middle, taken, later⟩ := Option.bind_eq_some_iff.mp followed
      obtain ⟨dead', same⟩ := called_ended taken dead
      rw [ih later dead', same]

/-- The call of a live stream waits for an event. -/
theorem awaited_live (live : Live state) :
    Awaited cb (state.close (some cb)) := by
  right
  cases held : state.fd with
  | none =>
      rw [close_absent held]
      refine ⟨List.mem_append_right _ List.mem_cons_self, ?_⟩
      rcases live with opening | there | pending
      · exact .inl ⟨opening, Nat.succ_ne_zero _⟩
      · rw [held] at there
        cases there
      · exact .inr pending
  | some fd =>
      rw [close_present held]
      refine ⟨List.mem_append_right _ List.mem_cons_self, .inr ?_⟩
      cases ended : state.isClosed <;> simp

/-- When nothing fails, a callback of `close` is called exactly if the stream was still live. -/
theorem called_back_iff (fresh : cb ∉ state.called)
    (followed : follow step state (.close (some cb) :: events) = some state')
    (fine : ∀ event ∈ events, event ≠ .openFailed ∧ event ≠ .ended false) (resting : Resting state') :
    cb ∈ state'.called ↔ Live state := by
  apply Iff.intro
  · intro called
    by_cases live : Live state
    · exact live
    · rw [called_ended_run followed live] at called
      exact absurd called fresh
  · intro live
    have later : follow step (state.close (some cb)) events = some state' := followed
    rcases awaited_run later fine (awaited_live live) with called | ⟨-, opening | closing | ticking⟩
    · exact called
    · rw [resting.1] at opening
      cases opening.1
    · exact absurd resting.2.1 closing
    · exact absurd resting.2.2 ticking

/-- The callback of the second call waits for ever, since the stream has dropped its descriptor. -/
theorem called_back_iff_closed : ∃ state state',
    follow step (create none true) [.opened 3, .close (some 0), .ended true, .cleared] = some state ∧
      follow step state [.close (some 1), .destroy] = some state' ∧
      (1 ∈ state'.called ↔ Live state) ∧ 1 ∉ state'.called := by
  exact ⟨_, _, rfl, rfl, @called_back_iff _ _ [.destroy] 1 (by decide) rfl (by decide) ⟨rfl, rfl, rfl⟩,
    by decide⟩

end Callbacks

end NodeExt2fs.Streams
