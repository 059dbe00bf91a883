import NodeExt2fs.Construction.Js.Snapshots
import NodeExt2fs.Construction.Library.Viewing
import NodeExt2fs.Proof.Queue.Serialized
import NodeExt2fs.Proof.Stats.Fields
import NodeExt2fs.Proof.Library.Requests

/-!
This file proves when the fields that `fstat` collects are those of one moment.
-/

namespace NodeExt2fs.Queue
open Programs Glue Js Library Inspection Js.OperationQueue
open Program (Only wp wp_bind)

section Steps

variable {Fn Arguments Value Error : Type} {queue queue' : OperationQueue Fn Arguments Value Error}

/-- A run calls at most one more function. -/
theorem run_records (queue : OperationQueue Fn Arguments Value Error) :
    queue.run.added = queue.added ∧ queue.run.settled = queue.settled ∧
      queue.calls.length ≤ queue.run.calls.length := by
  rw [run]
  dsimp only
  split
  · exact ⟨rfl, rfl, Nat.le_refl _⟩
  · refine ⟨rfl, rfl, ?_⟩
    change _ ≤ (queue.calls ++ [_]).length
    rw [List.length_append]
    exact Nat.le_add_right ..

/-- What an event does to the records: operations are added and called, and at most one promise is
settled. -/
structure Advances (queue queue' : OperationQueue Fn Arguments Value Error) : Prop where
  added : queue.added <+: queue'.added
  calls : queue.calls.length ≤ queue'.calls.length

theorem addOperation_advances (queue : OperationQueue Fn Arguments Value Error) (fn : Fn)
    (args : Arguments) :
    Advances queue (queue.addOperation fn args) ∧
      (queue.addOperation fn args).added = queue.added ++ [(fn, args)] ∧
      (queue.addOperation fn args).settled = queue.settled := by
  rw [addOperation]
  dsimp only
  split
  · exact ⟨⟨List.prefix_append .., Nat.le_refl _⟩, rfl, rfl⟩
  · obtain ⟨added, settled, calls⟩ := run_records { queue with
      queue := queue.queue ++ [⟨fn, args, queue.added.length⟩]
      added := queue.added ++ [(fn, args)] }
    refine ⟨⟨?_, calls⟩, added, settled⟩
    rw [added]
    exact List.prefix_append ..

theorem returns_advances (taken : queue.step .returns = some queue') :
    Advances queue queue' ∧ queue'.calls = queue.calls ∧ queue'.settled = queue.settled := by
  rw [step] at taken
  split at taken
  · cases taken
  · obtain rfl := Option.some.inj taken
    exact ⟨⟨List.prefix_refl _, Nat.le_refl _⟩, rfl, rfl⟩

/-- A result settles the promise of the call in flight. -/
theorem resumes_advances (steady : Steady queue) {index : Nat} {result : Except Error Value}
    (taken : queue.step (.resumes index result) = some queue') :
    Advances queue queue' ∧ queue.settled.length < queue.calls.length ∧
      queue'.settled = queue.settled ++ [(queue.settled.length, result)] := by
  rw [step] at taken
  split at taken
  · cases taken
  · next activation found =>
      obtain rfl := Option.some.inj taken
      have member : activation ∈ queue.inFlight :=
        List.mem_append_right _ (List.mem_of_getElem? found)
      have busy := steady.busy member
      rw [busy.last, List.mem_singleton] at member
      obtain ⟨added, settled, calls⟩ := run_records { queue with
        awaiting := queue.awaiting.eraseIdx index
        ended := queue.ended ++ [(activation.call, result)]
        settled := queue.settled ++ [(activation.promise, result)] }
      refine ⟨⟨?_, calls⟩, ?_, ?_⟩
      · rw [settle, added]
      · rw [busy.all]
        exact Nat.lt_succ_self _
      · rw [settle, settled, member]

theorem Steady.settled_le (steady : Steady queue) : queue.settled.length ≤ queue.calls.length := by
  rcases steady with ⟨resting, -, -⟩ | busy
  · exact Nat.le_of_eq resting.all.symm
  · rw [busy.all]
    exact Nat.le_succ _

theorem Steady.calls_le (steady : Steady queue) :
    queue.calls.length ≤ queue.settled.length + 1 := by
  rcases steady with ⟨resting, -, -⟩ | busy
  · rw [resting.all]
    exact Nat.le_succ _
  · exact Nat.le_of_eq busy.all

theorem Steady.calls_prefix (steady : Steady queue) : queue.calls <+: queue.added := by
  rw [← steady.recorded.inOrder]
  exact List.prefix_append ..

/-- The call in flight has the number of the next promise to be settled. -/
theorem Steady.lastCall (steady : Steady queue) (busy : queue.settled.length < queue.calls.length) :
    queue.calls.getLast? = queue.added[queue.settled.length]? := by
  have last : queue.calls.length - 1 = queue.settled.length := by
    have upper := steady.calls_le
    omega
  rw [List.getLast?_eq_getElem?, last]
  obtain ⟨waiting, whole⟩ := steady.calls_prefix
  rw [← whole, List.getElem?_append_left busy]

/-- Only promises with the numbers of ended calls are settled. -/
theorem Recorded.lt_of_lookup (recorded : Recorded queue) {promise : Nat} {result : Except Error Value}
    (found : queue.settled.lookup promise = some result) : promise < queue.settled.length := by
  have member : promise ∈ queue.settled.map Prod.fst := by
    obtain ⟨before, after, whole, -⟩ := List.lookup_eq_some_iff.mp found
    rw [whole, List.map_append, List.map_cons]
    exact List.mem_append_right _ List.mem_cons_self
  rw [recorded.settled] at member
  exact List.mem_range.mp member

/-- A new settlement is found under its own number only. -/
theorem lookup_concat {promise : Nat}
    {result result' : Except Error Value}
    (found : (queue.settled ++ [(queue.settled.length, result)]).lookup promise = some result') :
    queue.settled.lookup promise = some result' ∨
      (promise = queue.settled.length ∧ result' = result) := by
  rw [List.lookup_append] at found
  cases old : queue.settled.lookup promise with
  | some known =>
      rw [old] at found
      exact .inl found
  | none =>
      rw [old, Option.none_or, List.lookup_cons] at found
      split at found
      · next same => exact .inr ⟨beq_iff_eq.mp same, (Option.some.inj found).symm⟩
      · cases found

end Steps

section Call

variable {Hidden : Type} {fd : Ptr} {library : Handler Call Answer Hidden} {view : Hidden → Viewed}
  {state state' : Interleaving Hidden} {queue' : ModuleQueue}

/-- The requests of an accessor. -/
def Loads (fd : Ptr) : Call → Prop
  | .loadFile target => target = fd
  | .loadBlocksize => True
  | _ => False

/-- The rest of an accessor loads memory and returns the field. -/
structure Reading (fd : Ptr) (field : InodeStat) (viewed : Viewed) (code : Routine Int) : Prop where
  only : code.Only (Loads fd)
  ends : wp (viewing fd) code (fun value _ => value = viewed.read field) viewed

theorem routine_reading (fd : Ptr) (field : InodeStat) (viewed : Viewed) :
    Reading fd field viewed (field.routine fd) where
  only := ⟨rfl, fun _ => ⟨trivial, fun _ => trivial⟩⟩
  ends := by
    rw [InodeStat.routine, wp_bind]
    refine ⟨trivial, ?_⟩
    rintro file viewed' ⟨same, loaded⟩
    rw [same]
    refine ⟨trivial, ?_⟩
    rintro blocksize viewed'' ⟨-, loaded'⟩
    change field.read file blocksize = _
    rw [loaded rfl, loaded']
    rfl

/-- A request of an accessor leaves what it reads. -/
theorem Reading.next {field : InodeStat} {viewed viewed' : Viewed} {request : Call}
    {rest : Answer request → Routine Int} (reading : Reading fd field viewed (.call request rest))
    {answer : Answer request} (allowed : (viewing fd).allows viewed request answer viewed') :
    viewed' = viewed ∧ Reading fd field viewed (rest answer) := by
  have same : viewed' = viewed := by
    have loads := reading.only.1
    cases request <;> first | exact allowed.1 | exact absurd loads id
  refine ⟨same, reading.only.2 answer, ?_⟩
  have after := reading.ends.2 answer viewed' allowed
  rwa [same] at after

/-- What the C function in flight is, if it is an accessor of the call of `fstat`. -/
structure CodeFits (fd : Ptr) (view : Hidden → Viewed) (state : Interleaving Hidden) : Prop where
  steady : Steady state.queue
  busy : state.code ≠ none → state.queue.settled.length < state.queue.calls.length
  reading : ∀ code, state.code = some code → ∀ field,
    state.queue.calls.getLast? = some (.stat field, ()) → Reading fd field (view state.hidden) code

theorem CodeFits.withQueue (fits : CodeFits fd view state) (steady : Steady queue')
    (advances : Advances state.queue queue') (below : queue'.settled.length ≤ state.queue.calls.length)
    (idle : state.code ≠ none → queue'.settled.length < state.queue.calls.length) :
    CodeFits fd view (state.withQueue fd queue') := by
  by_cases same : queue'.calls.length = state.queue.calls.length
  · have kept : (state.withQueue fd queue').code = state.code := if_pos same
    have calls : queue'.calls = state.queue.calls := by
      have old : state.queue.calls <+: queue'.added := fits.steady.calls_prefix.trans advances.added
      have both := List.prefix_of_prefix_length_le old steady.calls_prefix (Nat.le_of_eq same.symm)
      exact (both.eq_of_length same.symm).symm
    refine ⟨steady, fun some => ?_, fun code found field last => ?_⟩
    · change queue'.settled.length < queue'.calls.length
      rw [same]
      exact idle (kept ▸ some)
    · change queue'.calls.getLast? = _ at last
      rw [calls] at last
      exact fits.reading code (kept ▸ found) field last
  · have started : (state.withQueue fd queue').code =
        queue'.calls.getLast?.map fun call => call.1.routine fd := if_neg same
    have more := advances.calls
    refine ⟨steady, fun _ => ?_, fun code found field last => ?_⟩
    · change queue'.settled.length < queue'.calls.length
      omega
    · change queue'.calls.getLast? = _ at last
      rw [started, last] at found
      obtain rfl := Option.some.inj found
      exact routine_reading fd field (view state.hidden)

theorem CodeFits.enqueue (fits : CodeFits fd view state) (call : ModuleCall) :
    CodeFits fd view (state.enqueue fd call) := by
  obtain ⟨advances, -, settled⟩ := addOperation_advances state.queue call ()
  have taken : state.queue.step (.addOperation call ()) = some (state.queue.addOperation call ()) := rfl
  apply fits.withQueue (steady_step fits.steady taken) advances
  · rw [settled]
    exact fits.steady.settled_le
  · rw [settled]
    exact fits.busy

/-- Several operations that are added at once. -/
theorem CodeFits.enqueueAll (fits : CodeFits fd view state) (calls : List ModuleCall) :
    CodeFits fd view (state.enqueueAll fd calls) ∧
      (state.enqueueAll fd calls).queue.added = state.queue.added ++ calls.map (fun call => (call, ())) ∧
      (state.enqueueAll fd calls).queue.settled = state.queue.settled ∧
      (state.enqueueAll fd calls).hidden = state.hidden ∧
      (state.enqueueAll fd calls).seen = state.seen := by
  induction calls generalizing state with
  | nil => exact ⟨fits, (List.append_nil _).symm, rfl, rfl, rfl⟩
  | cons call calls ih =>
      obtain ⟨-, added, settled⟩ := addOperation_advances state.queue call ()
      obtain ⟨fits', added', settled', hidden, seen⟩ := ih (fits.enqueue call)
      refine ⟨fits', added'.trans ?_, settled'.trans settled, hidden, seen⟩
      change (state.queue.addOperation call ()).added ++ _ = _
      rw [added, List.append_assoc]
      rfl

/-- What an accessor's promise is settled with at a moment. -/
abbrev settledWith (fd : Ptr) (viewed : Viewed) (field : InodeStat) : Except Failure Int :=
  fieldResult fd viewed.file viewed.blocksize field

/-- At a moment since the call, the module held the ctime and the other fields that are viewed. -/
def SeenTogether (view : Hidden → Viewed) (ctime : Int) (viewed : Viewed) (seen : List Hidden) : Prop :=
  ∃ hidden ∈ seen, (view hidden).read .iCtime = ctime ∧ 0 ≤ ctime ∧
    ∀ field ∈ allFields, (view hidden).read field = viewed.read field

theorem SeenTogether.later {ctime : Int} {viewed : Viewed} {seen : List Hidden}
    (together : SeenTogether view ctime viewed seen) (hidden : Hidden) :
    SeenTogether view ctime viewed (hidden :: seen) := by
  obtain ⟨moment, member, holds⟩ := together
  exact ⟨moment, List.mem_cons_of_mem _ member, holds⟩

/-- Two views without a difference in the other fields. -/
def SameOthers (viewed viewed' : Viewed) : Prop :=
  ∀ field ∈ allFields, viewed'.read field = viewed.read field

theorem SeenTogether.other {ctime : Int} {viewed viewed' : Viewed} {seen : List Hidden}
    (together : SeenTogether view ctime viewed seen) (same : SameOthers viewed viewed') :
    SeenTogether view ctime viewed' seen := by
  obtain ⟨moment, member, read, nonneg, others⟩ := together
  exact ⟨moment, member, read, nonneg,
    fun field listed => (others field listed).trans (same field listed).symm⟩

/-- The accessors of a call that awaits them: their promises, and the moments that belong to what they
have read so far. -/
structure Collecting (fd : Ptr) (view : Hidden → Viewed) (queue : ModuleQueue) (now : Viewed)
    (seen : List Hidden) (ctime : Int) (first : Nat) : Prop where
  promised : ∀ field ∈ allFields,
    queue.added[first + allFields.idxOf field]? = some (.stat field, ())
  before : queue.calls.length ≤ first → SeenTogether view ctime now seen
  since : first < queue.calls.length → ∃ viewed, SeenTogether view ctime viewed seen ∧
    (queue.settled.length < first + allFields.length → now = viewed) ∧
    ∀ field ∈ allFields, ∀ result, queue.settled.lookup (first + allFields.idxOf field) = some result →
      result = settledWith fd viewed field

/-- What the call of `fstat` knows where it stands. -/
def FrameFits (fd : Ptr) (view : Hidden → Viewed) (state : Interleaving Hidden) : Prop :=
  match state.frame with
  | .uncalled | .settled (.error _) => True
  | .awaitsCtime promise =>
      state.hidden ∈ state.seen ∧ state.queue.added[promise]? = some (.stat .iCtime, ()) ∧
        ∀ ctime, state.queue.settled.lookup promise = some (.ok ctime) →
          SeenTogether view ctime (view state.hidden) state.seen
  | .awaitsAll ctime first =>
      Collecting fd view state.queue (view state.hidden) state.seen ctime first
  | .settled (.ok stats) =>
      ∃ hidden ∈ state.seen, fstatResult fd (view hidden).file (view hidden).blocksize = .ok stats

/-- A promise has the result that it had, or is settled now with what the call in flight returns. -/
def Settles (fd : Ptr) (viewed : Viewed) (queue queue' : ModuleQueue) : Prop :=
  ∀ promise result, queue'.settled.lookup promise = some result →
    queue.settled.lookup promise = some result ∨
      (promise = queue.settled.length ∧ queue.settled.length < queue.calls.length ∧
        ∀ field, queue.added[promise]? = some (.stat field, ()) → result = settledWith fd viewed field)

theorem Settles.of_eq {viewed : Viewed} {queue queue' : ModuleQueue}
    (same : queue'.settled = queue.settled) : Settles fd viewed queue queue' := by
  intro promise result found
  rw [same] at found
  exact .inl found

theorem prefix_getElem? {α : Type} {before after : List α} (grown : before <+: after) {index : Nat}
    {value : α} (found : before[index]? = some value) : after[index]? = some value := by
  obtain ⟨rest, rfl⟩ := grown
  obtain ⟨inside, -⟩ := List.getElem?_eq_some_iff.mp found
  rw [List.getElem?_append_left inside, found]

/-- Operations that are added, called and settled leave what the accessors have read. -/
theorem Collecting.queue {queue queue' : ModuleQueue} {now : Viewed} {seen : List Hidden} {ctime : Int}
    {first : Nat} (collecting : Collecting fd view queue now seen ctime first) (steady : Steady queue)
    (advances : Advances queue queue') (longer : queue.settled.length ≤ queue'.settled.length)
    (settles : Settles fd now queue queue') : Collecting fd view queue' now seen ctime first where
  promised field listed := prefix_getElem? advances.added (collecting.promised field listed)
  before early := collecting.before (advances.calls.trans early)
  since _ := by
    by_cases begun : first < queue.calls.length
    · obtain ⟨viewed, together, same, read⟩ := collecting.since begun
      refine ⟨viewed, together, fun early => same (by omega), ?_⟩
      intro field listed result found
      rcases settles _ result found with known | ⟨number, -, value⟩
      · exact read field listed result known
      · have below := List.idxOf_lt_length_iff.mpr listed
        rw [← same (by omega)]
        exact value field (collecting.promised field listed)
    · -- None of the accessors has been called before, so none is settled.
      refine ⟨now, collecting.before (Nat.le_of_not_lt begun), fun _ => rfl, ?_⟩
      intro field listed result found
      have lengths := steady.settled_le
      rcases settles _ result found with known | ⟨number, called, -⟩
      · have small := steady.recorded.lt_of_lookup known
        omega
      · omega

theorem FrameFits.withQueue (fits : FrameFits fd view state) (steady : Steady state.queue)
    (advances : Advances state.queue queue')
    (longer : state.queue.settled.length ≤ queue'.settled.length)
    (settles : Settles fd (view state.hidden) state.queue queue') :
    FrameFits fd view (state.withQueue fd queue') := by
  obtain ⟨queue, code, hidden, frame, seen⟩ := state
  cases frame with
  | uncalled => trivial
  | awaitsCtime promise =>
      obtain ⟨here, promised, read⟩ := fits
      refine ⟨here, prefix_getElem? advances.added promised, fun ctime found => ?_⟩
      rcases settles _ _ found with known | ⟨-, -, value⟩
      · exact read ctime known
      · obtain ⟨same, nonneg⟩ := (fieldResult_eq_ok_iff _ _).mp (value _ promised).symm
        exact ⟨hidden, here, same, nonneg, fun _ _ => rfl⟩
  | awaitsAll ctime first => exact Collecting.queue fits steady advances longer settles
  | settled result => cases result <;> exact fits

/-- `Promise.all` fulfils when all its promises have, and the constructor takes their values. -/
theorem gather_ok {queue : ModuleQueue} {ctime : Int} {first : Nat} {stats : Stats}
    (gathered : Interleaving.gather queue ctime first = some (.ok stats)) :
    (∀ field ∈ allFields, ∃ result, queue.settled.lookup (first + allFields.idxOf field) = some result) ∧
      Stats.ofResults (ctime * 1000) (fun field =>
        (queue.settled.lookup (first + allFields.idxOf field)).getD (.ok 0)) = .ok stats := by
  unfold Interleaving.gather at gathered
  dsimp only at gathered
  split at gathered
  · cases gathered
  · split at gathered
    · next all =>
        refine ⟨fun field listed => ?_, Option.some.inj gathered⟩
        exact Option.isSome_iff_exists.mp (List.all_eq_true.mp all field listed)
    · cases gathered

/-- The constructor of `Stats` uses the listed fields. -/
theorem ofResults_congr {ctime : Int} {value value' : InodeStat → Except Failure Int}
    (same : ∀ field ∈ allFields, value field = value' field) :
    Stats.ofResults ctime value = Stats.ofResults ctime value' := by
  have each (field : InodeStat) (listed : field ∈ allFields := by decide) : value field = value' field :=
    same field listed
  simp only [Stats.ofResults, each .iMode, each .iLinksCount, each .iUid, each .iGid, each .blocksize,
    each .ino, each .iSize, each .iBlocks, each .iAtime, each .iMtime]

/-- The object that a call resolves with has the fields of one moment. -/
theorem Collecting.gathered {queue : ModuleQueue} {now : Viewed} {seen : List Hidden} {ctime : Int}
    {first : Nat} (collecting : Collecting fd view queue now seen ctime first) (steady : Steady queue)
    {stats : Stats} (gathered : Interleaving.gather queue ctime first = some (.ok stats)) :
    ∃ hidden ∈ seen, fstatResult fd (view hidden).file (view hidden).blocksize = .ok stats := by
  obtain ⟨settled, built⟩ := gather_ok gathered
  have begun : first < queue.calls.length := by
    obtain ⟨result, found⟩ := settled .iMode (by decide)
    have below := steady.recorded.lt_of_lookup found
    have called := steady.settled_le
    omega
  obtain ⟨viewed, ⟨hidden, member, read, nonneg, others⟩, -, results⟩ := collecting.since begun
  refine ⟨hidden, member, ?_⟩
  have first : fieldResult fd (view hidden).file (view hidden).blocksize .iCtime = .ok ctime :=
    (fieldResult_eq_ok_iff _ _).mpr ⟨read, nonneg⟩
  rw [fstatResult, first]
  refine Eq.trans (ofResults_congr fun field listed => ?_) built
  obtain ⟨result, found⟩ := settled field listed
  have same : (view hidden).read field = viewed.read field := others field listed
  rw [found, Option.getD_some, results field listed result found, settledWith, fieldResult,
    fieldResult]
  exact congrArg (fun value => (ccallThrowAsync field.name [fd] value).mapError Failure.errno) same

/-- What holds between two events. -/
structure Fits (fd : Ptr) (view : Hidden → Viewed) (state : Interleaving Hidden) : Prop where
  code : CodeFits fd view state
  frame : FrameFits fd view state

theorem Fits.enqueue (fits : Fits fd view state) (call : ModuleCall) :
    Fits fd view (state.enqueue fd call) := by
  obtain ⟨advances, -, settled⟩ := addOperation_advances state.queue call ()
  refine ⟨fits.code.enqueue call, fits.frame.withQueue fits.code.steady advances ?_ (.of_eq settled)⟩
  rw [settled]

/-- A new call has nothing but the moment of its beginning. -/
theorem Fits.call (fits : Fits fd view state) :
    Fits fd view ({ state with
      frame := .awaitsCtime state.queue.added.length
      seen := [state.hidden] }.enqueue fd (.stat .iCtime)) := by
  have code : CodeFits fd view { state with
      frame := .awaitsCtime state.queue.added.length
      seen := [state.hidden] } := ⟨fits.code.steady, fits.code.busy, fits.code.reading⟩
  obtain ⟨-, added, settled⟩ := addOperation_advances state.queue (.stat .iCtime) ()
  refine ⟨code.enqueue _, List.mem_cons_self, ?_, fun ctime found => ?_⟩
  · change (state.queue.addOperation (.stat .iCtime) ()).added[_]? = _
    rw [added]
    exact List.getElem?_concat_length
  · change (state.queue.addOperation (.stat .iCtime) ()).settled.lookup _ = _ at found
    rw [settled] at found
    have below := fits.code.steady.recorded.lt_of_lookup found
    have called := fits.code.steady.settled_le
    have added := fits.code.steady.calls_prefix.length_le
    omega

theorem Fits.returns (fits : Fits fd view state) (taken : state.queue.step .returns = some queue') :
    Fits fd view (state.withQueue fd queue') := by
  obtain ⟨advances, calls, settled⟩ := returns_advances taken
  have steady := steady_step fits.code.steady taken
  refine ⟨fits.code.withQueue steady advances ?_ ?_, fits.frame.withQueue fits.code.steady advances ?_
    (.of_eq settled)⟩
  · rw [settled]
    exact fits.code.steady.settled_le
  · rw [settled]
    exact fits.code.busy
  · rw [settled]

/-- The end of an accessor of the call settles its promise with what it reads now. -/
theorem Fits.settle (fits : Fits fd view state) (taken : state.settle fd = some state') :
    Fits fd view state' := by
  rw [Interleaving.settle] at taken
  split at taken
  · next value call code last =>
      obtain ⟨queue', moved, rfl⟩ := Option.map_eq_some_iff.mp taken
      obtain ⟨advances, busy, settled⟩ := resumes_advances fits.code.steady moved
      have steady := steady_step fits.code.steady moved
      have idle : CodeFits fd view { state with code := none } :=
        ⟨fits.code.steady, fun some => absurd rfl some, fun _ none => by cases none⟩
      have longer : queue'.settled.length = state.queue.settled.length + 1 := by
        rw [settled, List.length_append]
        rfl
      constructor
      · apply idle.withQueue steady advances
        · change queue'.settled.length ≤ state.queue.calls.length
          omega
        · intro some
          exact absurd rfl some
      · have frame : FrameFits fd view { state with code := none } := fits.frame
        apply frame.withQueue fits.code.steady advances
        · change state.queue.settled.length ≤ _
          omega
        · intro promise result found
          rw [settled] at found
          rcases lookup_concat found with known | ⟨number, value⟩
          · exact .inl known
          · refine .inr ⟨number, busy, fun field added => ?_⟩
            rw [number, ← fits.code.steady.lastCall busy, last] at added
            obtain ⟨rfl, -⟩ := Prod.mk.inj (Option.some.inj added)
            have read : _ = _ := (fits.code.reading _ code field last).ends
            rw [value, read]
            rfl
  · cases taken

/-- The ctime that the call has read, as long as none of its other accessors is called. -/
def betweenRounds (state : Interleaving Hidden) : Option Int :=
  match state.frame with
  | .awaitsCtime promise =>
      match state.queue.settled.lookup promise with
      | some (.ok ctime) => some ctime
      | _ => none
  | .awaitsAll ctime first => if state.queue.calls.length ≤ first then some ctime else none
  | _ => none

/-- A request between the two rounds of accessors leads to the ctime that was read, or leaves the other
fields. -/
def Undisturbed (library : Handler Call Answer Hidden) (view : Hidden → Viewed)
    (state : Interleaving Hidden) : InterleavingLabel → Prop
  | .advance => ∀ ctime, betweenRounds state = some ctime →
      ∀ state', state.advance library = some state' →
        (view state'.hidden).read .iCtime = ctime ∨ SameOthers (view state.hidden) (view state'.hidden)
  | _ => True

/-- A request moves what has been seen along. -/
theorem SeenTogether.move {ctime : Int} {hidden hidden' : Hidden} {seen : List Hidden}
    (together : SeenTogether view ctime (view hidden) seen)
    (harmless : (view hidden').read .iCtime = ctime ∨ SameOthers (view hidden) (view hidden')) :
    SeenTogether view ctime (view hidden') (hidden' :: seen) := by
  rcases harmless with same | same
  · obtain ⟨-, -, -, nonneg, -⟩ := together
    exact ⟨hidden', List.mem_cons_self, same, nonneg, fun _ _ => rfl⟩
  · exact (together.other same).later hidden'

/-- Each position among the accessors is that of one of them. -/
theorem exists_idxOf {index : Nat} (inside : index < allFields.length) :
    ∃ field ∈ allFields, allFields.idxOf field = index := by
  revert inside
  revert index
  decide

/-- A request of the function in flight: while that is an accessor, it changes nothing that they read. -/
theorem Collecting.move {queue : ModuleQueue} {hidden hidden' : Hidden} {seen : List Hidden} {ctime : Int}
    {first : Nat} (collecting : Collecting fd view queue (view hidden) seen ctime first)
    (steady : Steady queue) (busy : queue.settled.length < queue.calls.length)
    (still : ∀ field, queue.calls.getLast? = some (.stat field, ()) → view hidden' = view hidden)
    (harmless : queue.calls.length ≤ first →
      (view hidden').read .iCtime = ctime ∨ SameOthers (view hidden) (view hidden')) :
    Collecting fd view queue (view hidden') (hidden' :: seen) ctime first where
  promised := collecting.promised
  before early := (collecting.before early).move (harmless early)
  since begun := by
    obtain ⟨viewed, together, same, results⟩ := collecting.since begun
    refine ⟨viewed, together.later hidden', fun early => ?_, results⟩
    have upper := steady.calls_le
    -- The call in flight is one of the accessors.
    have position : first + (queue.settled.length - first) = queue.settled.length := by omega
    obtain ⟨field, listed, index⟩ := @exists_idxOf (queue.settled.length - first) (by omega)
    have last : queue.calls.getLast? = some (.stat field, ()) := by
      rw [steady.lastCall busy, ← collecting.promised field listed, index, position]
    exact (still field last).trans (same early)

theorem Fits.advance (honoured : (viewing fd).Honoured library view) (fits : Fits fd view state)
    (undisturbed : Undisturbed library view state .advance)
    (taken : state.advance library = some state') : Fits fd view state' := by
  have harmless (ctime : Int) (between : betweenRounds state = some ctime) :=
    undisturbed ctime between state' taken
  rw [Interleaving.advance] at taken
  split at taken
  · next request next code =>
      obtain rfl := Option.some.inj taken
      have allowed := honoured request state.hidden
      have busy : state.queue.settled.length < state.queue.calls.length :=
        fits.code.busy (by rw [code]; exact Option.some_ne_none _)
      have still (field : InodeStat) (last : state.queue.calls.getLast? = some (.stat field, ())) :=
        (fits.code.reading _ code field last).next allowed
      refine ⟨⟨fits.code.steady, fun _ => busy, fun rest same field last => ?_⟩, ?_⟩
      · obtain rfl := Option.some.inj same
        obtain ⟨kept, reading⟩ := still field last
        change Reading fd field (view (library request state.hidden).2) _
        rw [kept]
        exact reading
      · have steady := fits.code.steady
        have known := fits.frame
        obtain ⟨queue, _, hidden, position, seen⟩ := state
        cases position with
        | uncalled => trivial
        | settled result => cases result <;> exact known
        | awaitsCtime promise =>
            obtain ⟨-, promised, read⟩ := known
            refine ⟨List.mem_cons_self, promised, fun ctime found => ?_⟩
            apply (read ctime found).move
            apply harmless ctime
            simp only [betweenRounds, found]
        | awaitsAll ctime first =>
            exact Collecting.move known steady busy (fun field last => (still field last).1)
              fun early => harmless ctime (if_pos early)
  · cases taken

/-- The accessors of the second round are queued behind everything else. -/
theorem Fits.gather (fits : Fits fd view state) {promise : Nat} {ctime : Int}
    (position : state.frame = .awaitsCtime promise)
    (found : state.queue.settled.lookup promise = some (.ok ctime)) :
    Fits fd view { state.enqueueAll fd (allFields.map .stat) with
      frame := .awaitsAll ctime state.queue.added.length } := by
  have known := fits.frame
  rw [FrameFits, position] at known
  obtain ⟨-, -, read⟩ := known
  obtain ⟨code, added, settled, hidden, seen⟩ := fits.code.enqueueAll (allFields.map .stat)
  have together : SeenTogether view ctime (view (state.enqueueAll fd (allFields.map .stat)).hidden)
      (state.enqueueAll fd (allFields.map .stat)).seen := by
    rw [hidden, seen]
    exact read ctime found
  refine ⟨⟨code.steady, code.busy, code.reading⟩, fun field listed => ?_, fun _ => together,
    fun _ => ⟨_, together, fun _ => rfl, fun field listed result known => ?_⟩⟩
  · change (state.enqueueAll fd (allFields.map .stat)).queue.added[_]? = _
    rw [added, List.getElem?_append_right (Nat.le_add_right ..), Nat.add_sub_cancel_left,
      List.map_map, List.getElem?_map, List.getElem?_idxOf listed]
    rfl
  · change (state.enqueueAll fd (allFields.map .stat)).queue.settled.lookup _ = _ at known
    rw [settled] at known
    have below := fits.code.steady.recorded.lt_of_lookup known
    have called := fits.code.steady.settled_le
    have all := fits.code.steady.calls_prefix.length_le
    omega

theorem Fits.resume (fits : Fits fd view state) (taken : state.resume fd = some state') :
    Fits fd view state' := by
  rw [Interleaving.resume] at taken
  split at taken
  · next promise position =>
      split at taken
      · cases taken
      · next failure found =>
          obtain rfl := Option.some.inj taken
          exact ⟨⟨fits.code.steady, fits.code.busy, fits.code.reading⟩, trivial⟩
      · next ctime found =>
          obtain rfl := Option.some.inj taken
          exact fits.gather position found
  · next ctime first position =>
      obtain ⟨result, gathered, rfl⟩ := Option.map_eq_some_iff.mp taken
      refine ⟨⟨fits.code.steady, fits.code.busy, fits.code.reading⟩, ?_⟩
      have known := fits.frame
      rw [FrameFits, position] at known
      cases result with
      | error failure => trivial
      | ok stats => exact known.gathered fits.code.steady gathered
  · cases taken

/-- Every event keeps what is known. -/
theorem step_fits (honoured : (viewing fd).Honoured library view) {label : InterleavingLabel}
    (fits : Fits fd view state) (undisturbed : Undisturbed library view state label)
    (taken : state.step fd library label = some state') : Fits fd view state' := by
  cases label with
  | call =>
      rw [Interleaving.step] at taken
      split at taken
      · obtain rfl := Option.some.inj taken
        exact fits.call
      · cases taken
  | others name args routine =>
      obtain rfl := Option.some.inj taken
      exact fits.enqueue _
  | returns =>
      obtain ⟨queue', moved, rfl⟩ := Option.map_eq_some_iff.mp taken
      exact fits.returns moved
  | advance => exact fits.advance honoured undisturbed taken
  | settle => exact fits.settle taken
  | resume => exact fits.resume taken

theorem initial_fits (hidden : Hidden) : Fits fd view (Interleaving.initial hidden) where
  code := ⟨steady_initial, fun some => absurd rfl some, fun _ none => by cases none⟩
  frame := trivial

/-- In every run in which no request between the two rounds changes the ctime together with another
field, the object that `fstat` resolves with has the fields of one moment of the call. -/
theorem snapshot_of_undisturbed (honoured : (viewing fd).Honoured library view) {hidden : Hidden}
    (reached : Reaches (Interleaving.step fd library) (Undisturbed library view)
      (Interleaving.initial hidden) state)
    {stats : Stats} (resolved : state.frame = .settled (.ok stats)) :
    ∃ moment ∈ state.seen, fstatResult fd (view moment).file (view moment).blocksize = .ok stats := by
  have fits : Fits fd view state :=
    reached.invariant (initial_fits hidden)
      fun _ _ _ fits undisturbed taken => step_fits honoured fits undisturbed taken
  have known := fits.frame
  rw [FrameFits, resolved] at known
  exact known

end Call

/-- A library that changes nothing disturbs nothing. -/
theorem undisturbed_of_still {Hidden : Type} {library : Handler Call Answer Hidden}
    {view : Hidden → Viewed} (still : ∀ request hidden, (library request hidden).2 = hidden)
    (state : Interleaving Hidden) (label : InterleavingLabel) : Undisturbed library view state label := by
  cases label with
  | advance =>
      intro ctime _ state' taken
      rw [Interleaving.advance] at taken
      split at taken
      · obtain rfl := Option.some.inj taken
        refine .inr fun field _ => ?_
        change (view (library _ state.hidden).2).read field = _
        rw [still]
      · cases taken
  | _ => trivial

/-- The object that the call has resolved with. -/
def resolved {Hidden : Type} (state : Interleaving Hidden) : Option Stats :=
  match state.frame with
  | .settled (.ok stats) => some stats
  | _ => none

theorem frame_of_resolved {Hidden : Type} {state : Interleaving Hidden} {stats : Stats}
    (found : resolved state = some stats) : state.frame = .settled (.ok stats) := by
  rw [resolved] at found
  split at found
  · next settled => rw [settled, Option.some.inj found]
  · cases found

/-- The events of one C function that makes the given number of requests. -/
def runsThrough (requests : Nat) : List InterleavingLabel :=
  .returns :: List.replicate requests .advance ++ [.settle]

/-- The events of a call of `fstat` while other operations follow its first accessor. -/
def statRun (between : List InterleavingLabel) : List InterleavingLabel :=
  runsThrough 2 ++ between ++ [.resume] ++ (List.replicate 10 (runsThrough 2)).flatten ++ [.resume]

/-- The handle before any operation. -/
def freshHandle : Viewed where
  file := { ino := 12, inode := Inode.zero }
  blocksize := 1024

/-- A call of `fstat` on a disk that does not change. -/
theorem snapshot_still :
    ∃ (state : Interleaving Viewed) (stats : Stats),
      follow (Interleaving.step 4 (stillHandle 4 ⟨7, 0⟩)) (.initial freshHandle)
        (.call :: statRun []) = some state ∧
      state.frame = .settled (.ok stats) ∧
      ∃ moment ∈ state.seen, fstatResult 4 moment.file moment.blocksize = .ok stats := by
  have ran : (follow (Interleaving.step 4 (stillHandle 4 ⟨7, 0⟩)) (.initial freshHandle)
      (.call :: statRun [])).any (fun state => (resolved state).isSome) = true := by decide +kernel
  obtain ⟨state, followed, resolves⟩ := (Option.any_eq_true _ _).mp ran
  obtain ⟨stats, found⟩ := Option.isSome_iff_exists.mp resolves
  have settled := frame_of_resolved found
  have still : ∀ state label, Undisturbed (stillHandle 4 ⟨7, 0⟩) id state label :=
    undisturbed_of_still fun _ _ => rfl
  have reached : Reaches (Interleaving.step 4 (stillHandle 4 ⟨7, 0⟩)) (Undisturbed _ id)
      (.initial freshHandle) state :=
    reaches_of_follow .first (along_of_forall still _ (.call :: statRun [])) followed
  exact ⟨state, stats, followed, settled,
    snapshot_of_undisturbed (stillHandle_honours 4 ⟨7, 0⟩) reached settled⟩

/-- A write through a handle with `O_CREAT` stamps the file between the two rounds: the object has the
ctime from before and the mtime from afterwards. -/
theorem snapshot_torn :
    ¬∀ (library : Handler Call Answer Viewed), (viewing 4).Honoured library id →
      ∀ (viewed : Viewed) (state : Interleaving Viewed),
        Reaches (Interleaving.step 4 library) (fun _ _ => True) (.initial viewed) state →
          ∀ stats, state.frame = .settled (.ok stats) →
            ∃ moment ∈ state.seen, fstatResult 4 moment.file moment.blocksize = .ok stats := by
  intro every
  let write := nodeExt2fsWrite 4 (O_WRONLY ||| O_CREAT) 8 1 0
  let labels := .call :: .others "node_ext2fs_write" [] write :: statRun (runsThrough 8)
  have ran : (follow (Interleaving.step 4 (oneHandle 4 ⟨7, 0⟩)) (.initial freshHandle) labels).any
      (fun state => (resolved state).any fun stats =>
        state.seen.all fun moment => returnedStats moment.file moment.blocksize ≠ stats) = true := by
    decide +kernel
  obtain ⟨state, followed, torn⟩ := (Option.any_eq_true _ _).mp ran
  obtain ⟨stats, found, torn⟩ := (Option.any_eq_true _ _).mp torn
  have reached := reaches_of_follow .first (along_of_forall (fun _ _ => trivial) _ labels) followed
  obtain ⟨moment, member, same⟩ := every _ (oneHandle_honours 4 ⟨7, 0⟩) freshHandle state reached
    stats (frame_of_resolved found)
  exact of_decide_eq_true (List.all_eq_true.mp torn moment member)
    ((fstatResult_eq_ok_iff stats).mp same).2

end NodeExt2fs.Queue
