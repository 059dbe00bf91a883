import Mathlib.Logic.Relation

/-!
Runs of partial step functions, and the induction that carries an invariant along them.
-/

namespace NodeExt2fs.Programs

variable {State Label : Type}

/-- The states that a run reaches when each of its steps meets the condition. -/
inductive Reaches (step : State → Label → Option State) (meets : State → Label → Prop)
    (first : State) : State → Prop where
  | first : Reaches step meets first first
  | next {state state' : State} {label : Label} (before : Reaches step meets first state)
      (met : meets state label) (taken : step state label = some state') :
      Reaches step meets first state'

/-- An invariant of every step that meets the condition holds in every reached state. -/
theorem Reaches.invariant {step : State → Label → Option State} {meets : State → Label → Prop}
    {first : State} {Invariant : State → Prop} (initial : Invariant first)
    (preserved : ∀ state label state', Invariant state → meets state label →
      step state label = some state' → Invariant state')
    {state : State} (reached : Reaches step meets first state) : Invariant state := by
  induction reached with
  | first => exact initial
  | next _ met taken ih => exact preserved _ _ _ ih met taken

/-- A run with a weaker condition reaches at least as much. -/
theorem Reaches.mono {step : State → Label → Option State} {meets meets' : State → Label → Prop}
    {first state : State} (weaker : ∀ state label, meets state label → meets' state label)
    (reached : Reaches step meets first state) : Reaches step meets' first state := by
  induction reached with
  | first => exact .first
  | next _ met taken ih => exact .next ih (weaker _ _ met) taken

/-- The state after a list of labels, when each step is possible. -/
def follow (step : State → Label → Option State) : State → List Label → Option State
  | state, [] => some state
  | state, label :: rest => (step state label).bind fun state' => follow step state' rest

/-- A run along a joined list stops between its parts. -/
theorem follow_append {step : State → Label → Option State} {state state' : State}
    {labels labels' : List Label} (followed : follow step state (labels ++ labels') = some state') :
    ∃ middle, follow step state labels = some middle ∧ follow step middle labels' = some state' := by
  induction labels generalizing state with
  | nil => exact ⟨state, rfl, followed⟩
  | cons label rest ih =>
      obtain ⟨next, taken, later⟩ := Option.bind_eq_some_iff.mp followed
      obtain ⟨middle, first, second⟩ := ih later
      exact ⟨middle, by simp [follow, taken, first], second⟩

/-- The condition holds before each step of the list. -/
def Along (step : State → Label → Option State) (meets : State → Label → Prop) :
    State → List Label → Prop
  | _, [] => True
  | state, label :: rest =>
      meets state label ∧ ∀ state', step state label = some state' → Along step meets state' rest

/-- A condition that always holds is met along every run. -/
theorem along_of_forall {step : State → Label → Option State} {meets : State → Label → Prop}
    (all : ∀ state label, meets state label) (state : State) (labels : List Label) :
    Along step meets state labels := by
  induction labels generalizing state with
  | nil => trivial
  | cons label rest ih => exact ⟨all state label, fun state' _ => ih state'⟩

/-- Equivalent conditions are met along the same runs. -/
theorem along_congr {step : State → Label → Option State} {meets meets' : State → Label → Prop}
    (same : ∀ state label, meets state label ↔ meets' state label) (state : State)
    (labels : List Label) : Along step meets state labels ↔ Along step meets' state labels := by
  induction labels generalizing state with
  | nil => exact Iff.rfl
  | cons label rest ih =>
      exact and_congr (same state label) (forall_congr' fun state' => imp_congr_right fun _ => ih state')

/-- A list of labels that meets the condition leads to a reached state. -/
theorem reaches_of_follow {step : State → Label → Option State} {meets : State → Label → Prop}
    {first state state' : State} {labels : List Label} (reached : Reaches step meets first state)
    (along : Along step meets state labels) (followed : follow step state labels = some state') :
    Reaches step meets first state' := by
  induction labels generalizing state with
  | nil =>
      cases followed
      exact reached
  | cons label rest ih =>
      obtain ⟨middle, taken, followed⟩ := Option.bind_eq_some_iff.mp followed
      exact ih (.next reached along.1 taken) (along.2 middle taken) followed

/-- Every state of a run has the property. -/
def Throughout (step : State → Label → Option State) (holds : State → Prop) :
    State → List Label → Prop
  | state, [] => holds state
  | state, label :: rest =>
      holds state ∧ ∀ state', step state label = some state' → Throughout step holds state' rest

/-- A property that a condition preserves, and that each other step breaks, holds throughout exactly
the runs whose steps all meet the condition. -/
theorem throughout_iff_along {step : State → Label → Option State} {meets : State → Label → Prop}
    {holds Invariant : State → Prop} (implies : ∀ state, Invariant state → holds state)
    (preserved : ∀ state label state', Invariant state → meets state label →
      step state label = some state' → Invariant state')
    (broken : ∀ state label state', Invariant state → ¬meets state label →
      step state label = some state' → ¬holds state')
    {first last : State} (initial : Invariant first) {labels : List Label}
    (followed : follow step first labels = some last) :
    Throughout step holds first labels ↔ Along step meets first labels := by
  induction labels generalizing first with
  | nil => exact iff_of_true (implies first initial) trivial
  | cons label rest ih =>
      obtain ⟨middle, taken, later⟩ := Option.bind_eq_some_iff.mp followed
      have unique (state' : State) (same : step first label = some state') : state' = middle :=
        Option.some.inj (same.symm.trans taken)
      by_cases met : meets first label
      · have tail := ih (preserved first label middle initial met taken) later
        apply Iff.intro
        · intro throughout
          refine ⟨met, ?_⟩
          intro state' same
          rw [unique state' same]
          exact tail.mp (throughout.2 middle taken)
        · intro along
          refine ⟨implies first initial, ?_⟩
          intro state' same
          rw [unique state' same]
          exact tail.mpr (along.2 middle taken)
      · have lost := broken first label middle initial met taken
        apply iff_of_false
        · intro throughout
          have here := throughout.2 middle taken
          cases rest with
          | nil => exact lost here
          | cons next more => exact lost here.1
        · intro along
          exact met along.1

end NodeExt2fs.Programs
