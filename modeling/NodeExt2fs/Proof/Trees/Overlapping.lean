import NodeExt2fs.Proof.Queue.Sequential
import NodeExt2fs.Proof.Trees.Refining

/-!
This file proves that overlapping calls do to the names what they would do one after another.
-/

namespace NodeExt2fs.Trees
open Programs Glue Library Js Queue
open Program (wp run_of_wp)

/-- A C function that leaves the names, the modes and the counts as they are. -/
def Neutral (resolver : Resolver) (exact rooted : Prop) (routine : Routine Int) : Prop :=
  ∀ volume : Volume, volume.WellFormed exact rooted →
    wp (libext2fs resolver True) routine
      (fun _ volume' => volume'.WellFormed exact rooted ∧ SameNames volume volume') volume

/-- The function of an orderly call on names, or a function that has nothing to do with names. -/
inductive Suits (resolver : Resolver) (exact rooted : Prop) (fd : Ptr) (volume : Volume) :
    ModuleCall → Prop where
  | named {name : String} {args : List Int} {operation : NameOperation} {routine : Routine Int}
      (called : operation.routine? = some routine)
      (orderly : Orderly resolver exact rooted volume operation) :
      Suits resolver exact rooted fd volume (.other name args routine)
  | neutral {call : ModuleCall} (neutral : Neutral resolver exact rooted (call.routine fd)) :
      Suits resolver exact rooted fd volume call

/-- Each function suits the volume that those before it leave. -/
def AllSuit {Hidden : Type} (resolver : Resolver) (exact rooted : Prop) (fd : Ptr)
    (library : Handler Call Answer Hidden) (view : Hidden → Volume) : List ModuleCall → Hidden → Prop
  | [], _ => True
  | call :: rest, hidden => Suits resolver exact rooted fd (view hidden) call ∧
      AllSuit resolver exact rooted fd library view rest ((call.routine fd).run library hidden).2

/-- What functions that end one after another do to the names, with the results of their promises. -/
inductive Unfolds (resolver : Resolver) (exact rooted : Prop) (fd : Ptr) :
    Volume → List ModuleCall → List (Except Failure Int) → Volume → Prop where
  | done {volume : Volume} : Unfolds resolver exact rooted fd volume [] [] volume
  | named {volume volume' volume'' : Volume} {name : String} {args : List Int} {routine : Routine Int}
      {operation : NameOperation} {ret : Int} {calls : List ModuleCall}
      {results : List (Except Failure Int)} (called : operation.routine? = some routine)
      (refines : Refines resolver volume operation (some ret) volume')
      (rest : Unfolds resolver exact rooted fd volume' calls results volume'') :
      Unfolds resolver exact rooted fd volume (.other name args routine :: calls)
        ((ccallThrowAsync name args ret).mapError .errno :: results) volume''
  | neutral {volume volume' volume'' : Volume} {call : ModuleCall} {calls : List ModuleCall}
      {result : Except Failure Int} {results : List (Except Failure Int)}
      (neutral : Neutral resolver exact rooted (call.routine fd)) (same : SameNames volume volume')
      (rest : Unfolds resolver exact rooted fd volume' calls results volume'') :
      Unfolds resolver exact rooted fd volume (call :: calls) (result :: results) volume''

variable {Hidden : Type} {resolver : Resolver} {exact rooted : Prop} {fd : Ptr}
  {library : Handler Call Answer Hidden} {view : Hidden → Volume}

/-- Functions that suit, run in order from a well-formed volume. -/
theorem unfolds_sequential (closed : resolver.Closed)
    (honoured : (libext2fs resolver True).Honoured library view) {calls : List ModuleCall}
    {hidden : Hidden} (formed : (view hidden).WellFormed exact rooted)
    (suit : AllSuit resolver exact rooted fd library view calls hidden) :
    Unfolds resolver exact rooted fd (view hidden) calls (sequential fd library calls hidden).1
        (view (sequential fd library calls hidden).2) ∧
      (view (sequential fd library calls hidden).2).WellFormed exact rooted := by
  induction calls generalizing hidden with
  | nil => exact ⟨.done, formed⟩
  | cons call rest ih =>
      obtain ⟨suits, later⟩ := suit
      cases suits with
      | named called orderly =>
          have refines := run_of_wp honoured (routine_refines closed formed orderly called)
          have formed' := run_of_wp honoured (routine_formed closed formed orderly called)
          obtain ⟨unfolds, final⟩ := ih formed' later
          exact ⟨.named called refines unfolds, final⟩
      | neutral neutral =>
          obtain ⟨formed', same⟩ := run_of_wp honoured (neutral (view hidden) formed)
          obtain ⟨unfolds, final⟩ := ih formed' later
          exact ⟨.neutral neutral same unfolds, final⟩

/-- The functions in the queue have changed the names one after another in the order in which they were
added, the promises have the results of that order, and the volume at the end is well-formed. -/
def OneAfterAnother (resolver : Resolver) (exact rooted : Prop) (fd : Ptr) (view : Hidden → Volume)
    (first : Hidden) (state : Interleaving Hidden) : Prop :=
  ∃ results volume,
    Unfolds resolver exact rooted fd (view first) (functions state.queue.added) results volume ∧
    volume.WellFormed exact rooted ∧
    (∀ promise result, (promise, result) ∈ state.queue.settled → results[promise]? = some result) ∧
    (state.queue.inFlight = [] → view state.hidden = volume ∧
      state.queue.settled.length = state.queue.added.length)

/-- Calls on names that overlap in any way are atomic. -/
theorem overlaps_refined (closed : resolver.Closed)
    (honoured : (libext2fs resolver True).Honoured library view) {first : Hidden}
    {state : Interleaving Hidden} (initial : (view first).WellFormed exact rooted)
    (reached : Reaches (Interleaving.step fd library) (fun _ _ => True) (.initial first) state)
    (suit : AllSuit resolver exact rooted fd library view (functions state.queue.added) first) :
    OneAfterAnother resolver exact rooted fd view first state := by
  obtain ⟨unfolds, formed⟩ := unfolds_sequential closed honoured initial suit
  obtain ⟨settled, resting⟩ := linearized_reached reached
  refine ⟨_, _, unfolds, formed, settled, fun none => ?_⟩
  obtain ⟨same, all⟩ := resting none
  exact ⟨congrArg view same, all⟩

theorem neutral_pure (resolver : Resolver) (exact rooted : Prop) (value : Int) :
    Neutral resolver exact rooted (pure value) :=
  fun volume formed => ⟨formed, .refl volume⟩

/-- A path is made, a file gets a second name, and it loses the first one. All three functions are in
the queue before the first of them has ended. -/
def linkAndUnlink : List InterleavingLabel :=
  .others "malloc_from_js" [3] (pure 8) ::
    .others "node_ext2fs_link" [] (nodeExt2fsLink [0x2f, 0x61] [0x2f, 0x62]) ::
    .others "node_ext2fs_unlink" [] (nodeExt2fsUnlink [0x2f, 0x61]) ::
    runsThrough 0 ++ runsThrough 10 ++ runsThrough 10

/-- The file has its second name only. -/
theorem overlaps_refined_link : ∃ state : Interleaving Volume,
    follow (Interleaving.step 4 reference) (.initial (Volume.holding [[0x61]])) linkAndUnlink =
      some state ∧
    state.queue.inFlight = [] ∧
    OneAfterAnother linkless True True 4 id (Volume.holding [[0x61]]) state := by
  have ran : ∃ state : Interleaving Volume,
      follow (Interleaving.step 4 reference) (.initial (Volume.holding [[0x61]])) linkAndUnlink =
        some state ∧ state.queue.inFlight = [] ∧
      functions state.queue.added = [.other "malloc_from_js" [3] (pure 8),
        .other "node_ext2fs_link" [] (nodeExt2fsLink [0x2f, 0x61] [0x2f, 0x62]),
        .other "node_ext2fs_unlink" [] (nodeExt2fsUnlink [0x2f, 0x61])] := ⟨_, rfl, rfl, rfl⟩
  obtain ⟨state, followed, none, added⟩ := ran
  refine ⟨state, followed, none, overlaps_refined linkless_closed (reference_honours True)
    (formed_holding (by decide) (List.cons_ne_nil _ _) True True)
    (reaches_of_follow .first (along_of_forall (fun _ _ => trivial) _ _) followed) ?_⟩
  rw [added]
  refine ⟨.neutral (neutral_pure _ _ _ _), .named rfl (orderly_link True True), ?_, trivial⟩
  exact @Suits.named _ _ _ _ _ _ _ (.unlink [0x2f, 0x61]) _ rfl trivial

end NodeExt2fs.Trees
