import NodeExt2fs.Programs.Sequence
import NodeExt2fs.Proof.Queue.Snapshots

/-!
This file proves that the C functions in the queue have the effects and the results that they have one
after another.
-/

namespace NodeExt2fs.Queue
open Programs Glue Js Library Inspection Js.OperationQueue

variable {Hidden : Type} {fd : Ptr} {library : Handler Call Answer Hidden} {first : Hidden}
  {state state' : Interleaving Hidden} {queue' : ModuleQueue}

/-- Functions that are called one at a time, each after the end of the one before. -/
def sequential (fd : Ptr) (library : Handler Call Answer Hidden) (calls : List ModuleCall)
    (first : Hidden) : List (Except Failure Int) × Hidden :=
  runAll library (ModuleCall.routine fd) (fun call value => call.result fd value) calls first

/-- The functions of a list of operations. -/
def functions (operations : List (ModuleCall × Unit)) : List ModuleCall := operations.map Prod.fst

/-- The functions that have ended have run one after another, and the function in flight will end as
it would after them. -/
structure OneByOne (fd : Ptr) (library : Handler Call Answer Hidden) (first : Hidden)
    (state : Interleaving Hidden) : Prop where
  steady : Steady state.queue
  settled : state.queue.settled.map Prod.snd =
    (sequential fd library ((functions state.queue.calls).take state.queue.settled.length) first).1
  idle : state.code = none → state.queue.calls.length = state.queue.settled.length ∧
    state.hidden =
      (sequential fd library ((functions state.queue.calls).take state.queue.settled.length) first).2
  running : ∀ code, state.code = some code → ∃ ended call,
    functions state.queue.calls = ended ++ [call] ∧ ended.length = state.queue.settled.length ∧
      code.run library state.hidden =
        (call.routine fd).run library (sequential fd library ended first).2

/-- The queue may call a function when the one before has ended. -/
theorem oneByOne_withQueue (steady : Steady queue') (before : state.queue.calls <+: queue'.calls)
    (none : state.code = none) (all : queue'.settled.length = state.queue.calls.length)
    (settled : queue'.settled.map Prod.snd =
      (sequential fd library (functions state.queue.calls) first).1)
    (hidden : state.hidden = (sequential fd library (functions state.queue.calls) first).2) :
    OneByOne fd library first (state.withQueue fd queue') := by
  obtain ⟨more, whole⟩ := before
  have taken : (functions queue'.calls).take queue'.settled.length = functions state.queue.calls := by
    rw [all, ← whole, functions, List.map_append, List.take_left' (by rw [List.length_map])]
    rfl
  by_cases same : queue'.calls.length = state.queue.calls.length
  · have kept : (state.withQueue fd queue').code = state.code := if_pos same
    refine ⟨steady, ?_, ?_, ?_⟩
    · exact settled.trans (congrArg (fun calls => (sequential fd library calls first).1) taken.symm)
    · intro _
      exact ⟨same.trans all.symm,
        hidden.trans (congrArg (fun calls => (sequential fd library calls first).2) taken.symm)⟩
    · intro code found
      rw [kept, none] at found
      cases found
  · have started : (state.withQueue fd queue').code =
        queue'.calls.getLast?.map fun call => call.1.routine fd := if_neg same
    have upper := steady.calls_le
    have sizes := congrArg List.length whole
    rw [List.length_append] at sizes
    obtain ⟨operation, rfl⟩ := List.length_eq_one_iff.mp (show more.length = 1 by omega)
    rw [← whole, List.getLast?_append, List.getLast?_singleton, Option.some_or, Option.map_some] at started
    refine ⟨steady, ?_, ?_, ?_⟩
    · exact settled.trans (congrArg (fun calls => (sequential fd library calls first).1) taken.symm)
    · intro absent
      rw [started] at absent
      cases absent
    · intro code found
      obtain rfl := Option.some.inj (started.symm.trans found)
      refine ⟨functions state.queue.calls, operation.1, ?_, ?_, ?_⟩
      · change functions queue'.calls = _
        rw [← whole, functions, List.map_append]
        rfl
      · rw [functions, List.length_map]
        exact all.symm
      · exact congrArg ((operation.1.routine fd).run library) hidden

/-- Calls that are made later leave the calls that were made before. -/
theorem calls_prefix_of_advances (steady : Steady state.queue) (steady' : Steady queue')
    (advances : Advances state.queue queue') : state.queue.calls <+: queue'.calls :=
  List.prefix_of_prefix_length_le (steady.calls_prefix.trans advances.added) steady'.calls_prefix
    advances.calls

/-- A queue that has called no more functions goes on with the one in flight. -/
theorem OneByOne.same_calls (oneByOne : OneByOne fd library first state) (steady : Steady queue')
    (calls : queue'.calls = state.queue.calls) (settled : queue'.settled = state.queue.settled) :
    OneByOne fd library first (state.withQueue fd queue') := by
  have kept : (state.withQueue fd queue').code = state.code := if_pos (congrArg List.length calls)
  refine ⟨steady, ?_, ?_, ?_⟩
  · change queue'.settled.map _ =
      (sequential fd library ((functions queue'.calls).take queue'.settled.length) first).1
    rw [calls, settled]
    exact oneByOne.settled
  · change _ → queue'.calls.length = queue'.settled.length ∧
      state.hidden = (sequential fd library ((functions queue'.calls).take queue'.settled.length) first).2
    rw [kept, calls, settled]
    exact oneByOne.idle
  · change ∀ code, _ → ∃ ended call, functions queue'.calls = _ ∧ _ = queue'.settled.length ∧ _
    rw [kept, calls, settled]
    exact oneByOne.running

theorem OneByOne.enqueue (oneByOne : OneByOne fd library first state) (call : ModuleCall) :
    OneByOne fd library first (state.enqueue fd call) := by
  obtain ⟨advances, -, settled⟩ := addOperation_advances state.queue call ()
  have taken : state.queue.step (.addOperation call ()) = some (state.queue.addOperation call ()) := rfl
  have steady := steady_step oneByOne.steady taken
  have before := calls_prefix_of_advances oneByOne.steady steady advances
  cases code : state.code with
  | none =>
      obtain ⟨all, hidden⟩ := oneByOne.idle code
      have whole : (functions state.queue.calls).take state.queue.settled.length =
          functions state.queue.calls :=
        List.take_of_length_le (by rw [functions, List.length_map, all])
      have known := oneByOne.settled
      rw [whole] at known hidden
      apply oneByOne_withQueue steady before code
      · rw [settled, all]
      · rw [settled, known]
      · exact hidden
  | some running =>
      obtain ⟨ended, last, calls, number, -⟩ := oneByOne.running running code
      have busy := congrArg List.length calls
      rw [functions, List.length_map, List.length_append, List.length_singleton, number] at busy
      have upper := steady.calls_le
      rw [settled] at upper
      exact oneByOne.same_calls steady (before.eq_of_length_le (by omega)).symm settled

/-- Several operations that are added at once. -/
theorem OneByOne.enqueueAll (oneByOne : OneByOne fd library first state) (calls : List ModuleCall) :
    OneByOne fd library first (state.enqueueAll fd calls) := by
  induction calls generalizing state with
  | nil => exact oneByOne
  | cons call rest ih => exact ih (oneByOne.enqueue call)

/-- A request of the function in flight is one that it makes after the others. -/
theorem OneByOne.advance (oneByOne : OneByOne fd library first state)
    (taken : state.advance library = some state') : OneByOne fd library first state' := by
  rw [Interleaving.advance] at taken
  split at taken
  · next request next code =>
      obtain rfl := Option.some.inj taken
      obtain ⟨ended, call, calls, number, same⟩ := oneByOne.running _ code
      refine ⟨oneByOne.steady, oneByOne.settled, ?_, ?_⟩
      · intro absent
        cases absent
      · intro rest found
        obtain rfl := Option.some.inj found
        exact ⟨ended, call, calls, number, same⟩
  · cases taken

/-- The end of the function in flight settles its promise, and the queue may call the next one. -/
theorem OneByOne.settle (oneByOne : OneByOne fd library first state)
    (taken : state.settle fd = some state') : OneByOne fd library first state' := by
  rw [Interleaving.settle] at taken
  split at taken
  · next value call _ code last =>
      obtain ⟨queue', moved, rfl⟩ := Option.map_eq_some_iff.mp taken
      obtain ⟨ended, call', calls, number, same⟩ := oneByOne.running _ code
      obtain ⟨advances, below, settled⟩ := resumes_advances oneByOne.steady moved
      have steady := steady_step oneByOne.steady moved
      have here : call' = call := by
        have final := congrArg List.getLast? calls
        rw [functions, List.getLast?_map, last, List.getLast?_append, List.getLast?_singleton,
          Option.some_or] at final
        exact (Option.some.inj final).symm
      subst here
      have count := congrArg List.length calls
      rw [functions, List.length_map, List.length_append, List.length_singleton, number] at count
      have known := oneByOne.settled
      rw [← number, calls, List.take_left] at known
      have ran : sequential fd library (functions state.queue.calls) first =
          ((sequential fd library ended first).1 ++ [call'.result fd value], state.hidden) := by
        rw [calls, sequential, runAll_append]
        change (_ ++ [call'.result fd ((call'.routine fd).run library _).1],
          ((call'.routine fd).run library _).2) = _
        rw [sequential] at same
        rw [← same]
        rfl
      apply @oneByOne_withQueue _ _ _ _ { state with code := none }
      · exact steady
      · exact calls_prefix_of_advances oneByOne.steady steady advances
      · rfl
      · rw [settled, List.length_append, List.length_singleton, count]
      · rw [settled, List.map_append, known]
        exact (congrArg Prod.fst ran).symm
      · exact (congrArg Prod.snd ran).symm
  · cases taken

theorem oneByOne_step {label : InterleavingLabel} (oneByOne : OneByOne fd library first state)
    (taken : state.step fd library label = some state') : OneByOne fd library first state' := by
  cases label with
  | call =>
      rw [Interleaving.step] at taken
      split at taken
      · obtain rfl := Option.some.inj taken
        apply OneByOne.enqueue
        exact ⟨oneByOne.steady, oneByOne.settled, oneByOne.idle, oneByOne.running⟩
      · cases taken
  | others name args routine =>
      obtain rfl := Option.some.inj taken
      exact oneByOne.enqueue _
  | returns =>
      obtain ⟨queue', moved, rfl⟩ := Option.map_eq_some_iff.mp taken
      obtain ⟨-, calls, settled⟩ := returns_advances moved
      exact oneByOne.same_calls (steady_step oneByOne.steady moved) calls settled
  | advance => exact oneByOne.advance taken
  | settle => exact oneByOne.settle taken
  | resume =>
      change state.resume fd = some state' at taken
      rw [Interleaving.resume] at taken
      split at taken
      · split at taken
        · cases taken
        · obtain rfl := Option.some.inj taken
          exact ⟨oneByOne.steady, oneByOne.settled, oneByOne.idle, oneByOne.running⟩
        · obtain rfl := Option.some.inj taken
          have more := oneByOne.enqueueAll (allFields.map .stat)
          exact ⟨more.steady, more.settled, more.idle, more.running⟩
      · obtain ⟨result, -, rfl⟩ := Option.map_eq_some_iff.mp taken
        exact ⟨oneByOne.steady, oneByOne.settled, oneByOne.idle, oneByOne.running⟩
      · cases taken

theorem oneByOne_initial (first : Hidden) : OneByOne fd library first (.initial first) where
  steady := steady_initial
  settled := rfl
  idle _ := ⟨rfl, rfl⟩
  running code found := by cases found

/-- What the promises of a queue are settled with, and what its functions leave behind, is what they
give when each of them is called after the end of the one that was added before it. -/
def Linearized (fd : Ptr) (library : Handler Call Answer Hidden) (first : Hidden)
    (state : Interleaving Hidden) : Prop :=
  let (results, hidden) := sequential fd library (functions state.queue.added) first
  (∀ promise result, (promise, result) ∈ state.queue.settled → results[promise]? = some result) ∧
    (state.queue.inFlight = [] →
      state.hidden = hidden ∧ state.queue.settled.length = state.queue.added.length)

theorem linearized_reached (reached : Reaches (Interleaving.step fd library) (fun _ _ => True) (.initial first)
    state) : Linearized fd library first state := by
  have oneByOne : OneByOne fd library first state :=
    reached.invariant (oneByOne_initial first) fun _ _ _ before _ taken => oneByOne_step before taken
  have recorded := oneByOne.steady.recorded
  have started : functions state.queue.calls <+: functions state.queue.added :=
    oneByOne.steady.calls_prefix.map Prod.fst
  constructor
  · intro promise result member
    have early : (sequential fd library ((functions state.queue.calls).take state.queue.settled.length)
        first).1 <+: (sequential fd library (functions state.queue.added) first).1 :=
      runAll_prefix ((List.take_prefix _ _).trans started) first
    obtain ⟨index, found⟩ := List.mem_iff_getElem?.mp member
    obtain ⟨inside, -⟩ := List.getElem?_eq_some_iff.mp found
    have number := congrArg (fun numbers => numbers[index]?) recorded.settled
    simp only [List.getElem?_map, found, List.getElem?_range inside, Option.map_some] at number
    obtain rfl := Option.some.inj number
    apply prefix_getElem? early
    rw [← oneByOne.settled, List.getElem?_map, found]
    rfl
  · intro none
    rcases oneByOne.steady with ⟨resting, -, empty⟩ | busy
    · have whole := recorded.inOrder
      rw [empty, List.map_nil, List.append_nil] at whole
      have ended : state.code = .none := by
        cases code : state.code with
        | none => rfl
        | some running =>
            obtain ⟨before, call, calls, number, -⟩ := oneByOne.running running code
            have count := congrArg List.length calls
            rw [functions, List.length_map, List.length_append, number, resting.all] at count
            exact absurd count (by simp)
      obtain ⟨all, hidden⟩ := oneByOne.idle ended
      rw [← all, List.take_of_length_le (by rw [functions, List.length_map]), whole] at hidden
      exact ⟨hidden, by rw [← all, whole]⟩
    · rw [busy.last] at none
      cases none

/-- However the calls of any C functions overlap, their effects are those of a sequence. -/
theorem linearized (reached : Reaches (Interleaving.step fd library) (fun _ _ => True) (.initial first)
    state) : Linearized fd library first state :=
  linearized_reached reached

/-- An accessor that is called while a write through the same handle is in flight returns what is there
after the write. -/
theorem linearized_write : ∃ state : Interleaving Viewed,
    follow (Interleaving.step 4 (oneHandle 4 ⟨7, 0⟩)) (.initial freshHandle)
      (.others "node_ext2fs_write" [] (nodeExt2fsWrite 4 (O_WRONLY ||| O_CREAT) 8 1 0) :: .returns ::
        .others "node_ext2fs_stat_i_mtime" [4] (InodeStat.iMtime.routine 4) ::
        List.replicate 8 .advance ++ [.settle] ++ runsThrough 2) = some state ∧
    state.queue.inFlight = [] ∧ Linearized 4 (oneHandle 4 ⟨7, 0⟩) freshHandle state := by
  have ran : (follow (Interleaving.step 4 (oneHandle 4 ⟨7, 0⟩)) (.initial freshHandle)
      (.others "node_ext2fs_write" [] (nodeExt2fsWrite 4 (O_WRONLY ||| O_CREAT) 8 1 0) :: .returns ::
        .others "node_ext2fs_stat_i_mtime" [4] (InodeStat.iMtime.routine 4) ::
        List.replicate 8 .advance ++ [.settle] ++ runsThrough 2)).any
      (fun state => state.queue.inFlight = []) = true := by decide +kernel
  obtain ⟨state, followed, none⟩ := (Option.any_eq_true _ _).mp ran
  exact ⟨state, followed, of_decide_eq_true none,
    linearized (reaches_of_follow .first (along_of_forall (fun _ _ => trivial) _ _) followed)⟩

end NodeExt2fs.Queue
