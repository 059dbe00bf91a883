import Mathlib.Data.List.Basic

/-!
Maximal runs of a predicate on the natural numbers, found in one pass from left to right.
-/

namespace NodeExt2fs.Structures

/-- A run has a first number, and the number behind its last one. -/
abbrev Run := Nat × Nat

/-- The run is not empty, has the property throughout, and has it on neither side. -/
structure MaximalRun (holds : Nat → Prop) (run : Run) : Prop where
  nonempty : run.1 < run.2
  inside : ∀ number, run.1 ≤ number → number < run.2 → holds number
  left : ∀ number, number + 1 = run.1 → ¬holds number
  right : ¬holds run.2

/-- The runs in ascending order, with a gap after each of them. -/
def Ascending (runs : List Run) : Prop := runs.Pairwise fun earlier later => earlier.2 < later.1

/-- The first maximal run behind the given ones. -/
structure NextRun (holds : Nat → Prop) (runs : List Run) (run : Run) : Prop where
  maximal : MaximalRun holds run
  behind : ∀ earlier ∈ runs, earlier.2 < run.1
  listed : ∀ other, MaximalRun holds other → other.1 < run.1 → other ∈ runs

/-- The runs are the first ones of all maximal runs. -/
structure FirstRuns (holds : Nat → Prop) (runs : List Run) : Prop where
  ascending : Ascending runs
  maximal : ∀ run ∈ runs, MaximalRun holds run
  rest : ∀ other, MaximalRun holds other → other ∉ runs → ∀ run ∈ runs, run.2 < other.1

variable {holds : Nat → Prop}

/-- A maximal run contains every run with the property that has a number in common with it. -/
theorem MaximalRun.contains {run other : Run} (maximal : MaximalRun holds run)
    (inside : ∀ number, other.1 ≤ number → number < other.2 → holds number)
    {number : Nat} (lower : run.1 ≤ number) (upper : number < run.2) (lower' : other.1 ≤ number)
    (upper' : number < other.2) : run.1 ≤ other.1 ∧ other.2 ≤ run.2 := by
  apply And.intro
  · by_contra earlier
    exact maximal.left (run.1 - 1) (by omega) (inside (run.1 - 1) (by omega) (by omega))
  · by_contra longer
    exact maximal.right (inside run.2 (by omega) (by omega))

/-- Two maximal runs with a common number are the same. -/
theorem MaximalRun.eq_of_common {run other : Run} (maximal : MaximalRun holds run)
    (maximal' : MaximalRun holds other) {number : Nat} (lower : run.1 ≤ number)
    (upper : number < run.2) (lower' : other.1 ≤ number) (upper' : number < other.2) :
    run = other := by
  have first := maximal.contains maximal'.inside lower upper lower' upper'
  have second := maximal'.contains maximal.inside lower' upper' lower upper
  exact Prod.ext (Nat.le_antisymm first.1 second.1) (Nat.le_antisymm second.2 first.2)

/-- What a pass has found: the runs that end before the start, and the property from the start up to
the next number. -/
structure Scan (holds : Nat → Prop) (start next : Nat) (runs : List Run) : Prop where
  ordered : start ≤ next
  ascending : Ascending runs
  maximal : ∀ run ∈ runs, MaximalRun holds run
  closed : ∀ run ∈ runs, run.2 < start
  found : ∀ number, number < start → holds number → ∃ run ∈ runs, run.1 ≤ number ∧ number < run.2
  unfinished : ∀ number, start ≤ number → number < next → holds number
  edge : ∀ number, number + 1 = start → ¬holds number

namespace Scan

variable {start next : Nat} {runs : List Run}

/-- A pass starts where the property has not held before. -/
theorem first (none : ∀ number, number < start → ¬holds number) : Scan holds start start [] where
  ordered := Nat.le_refl _
  ascending := List.Pairwise.nil
  maximal _ absent := absurd absent List.not_mem_nil
  closed _ absent := absurd absent List.not_mem_nil
  found number before holding := absurd holding (none number before)
  unfinished number lower upper := by omega
  edge number before := none number (by omega)

/-- A number with the property makes the run at hand longer. -/
theorem extend (scan : Scan holds start next runs) (holding : holds next) :
    Scan holds start (next + 1) runs where
  ordered := Nat.le_succ_of_le scan.ordered
  ascending := scan.ascending
  maximal := scan.maximal
  closed := scan.closed
  found := scan.found
  unfinished number lower upper := by
    rcases Nat.lt_or_eq_of_le (Nat.le_of_lt_succ upper) with earlier | same
    · exact scan.unfinished number lower earlier
    · rw [same]
      exact holding
  edge := scan.edge

/-- The run at hand, when it is not empty, is maximal when the property ends. -/
theorem maximal_open (scan : Scan holds start next runs) (ends : ¬holds next) (some : start < next) :
    MaximalRun holds (start, next) where
  nonempty := some
  inside := scan.unfinished
  left := scan.edge
  right := ends

/-- The runs after the pass has left one. -/
def closing (runs : List Run) (start next : Nat) : List Run :=
  if start < next then runs ++ [(start, next)] else runs

theorem mem_closing {run : Run} :
    run ∈ closing runs start next ↔ run ∈ runs ∨ start < next ∧ run = (start, next) := by
  unfold closing
  by_cases some : start < next
  · rw [if_pos some, List.mem_append, List.mem_singleton]
    exact or_congr_right ⟨fun same => ⟨some, same⟩, And.right⟩
  · rw [if_neg some]
    exact ⟨Or.inl, fun either => either.resolve_right fun one => some one.1⟩

theorem ascending_closing (scan : Scan holds start next runs) : Ascending (closing runs start next) := by
  unfold closing
  by_cases some : start < next
  · rw [if_pos some]
    apply List.pairwise_append.mpr
    refine ⟨scan.ascending, List.pairwise_singleton _ _, ?_⟩
    intro run listed last single
    rw [List.mem_singleton.mp single]
    exact scan.closed run listed
  · rw [if_neg some]
    exact scan.ascending

/-- A number without the property ends the run at hand. -/
theorem close (scan : Scan holds start next runs) (ends : ¬holds next) :
    Scan holds (next + 1) (next + 1) (closing runs start next) where
  ordered := Nat.le_refl _
  ascending := scan.ascending_closing
  maximal run listed := by
    rcases mem_closing.mp listed with earlier | ⟨some, same⟩
    · exact scan.maximal run earlier
    · rw [same]
      exact scan.maximal_open ends some
  closed run listed := by
    rcases mem_closing.mp listed with earlier | ⟨some, same⟩
    · have before := scan.closed run earlier
      have ordered := scan.ordered
      omega
    · rw [same]
      exact Nat.lt_succ_self next
  found number before holding := by
    by_cases earlier : number < start
    · obtain ⟨run, listed, within⟩ := scan.found number earlier holding
      exact ⟨run, mem_closing.mpr (.inl listed), within⟩
    · have other : number ≠ next := fun same => ends (same ▸ holding)
      exact ⟨(start, next), mem_closing.mpr (.inr ⟨by omega, rfl⟩), by omega, by omega⟩
  unfinished number lower upper := by omega
  edge number before := by
    rw [Nat.succ.inj before]
    exact ends

/-- A maximal run before the start is found. -/
theorem listed (scan : Scan holds start next runs) {other : Run} (maximal : MaximalRun holds other)
    (before : other.1 < start) : other ∈ runs := by
  have holding := maximal.inside other.1 (Nat.le_refl _) maximal.nonempty
  obtain ⟨run, member, lower, upper⟩ := scan.found other.1 before holding
  rw [maximal.eq_of_common (scan.maximal run member) (Nat.le_refl _) maximal.nonempty lower upper]
  exact member

/-- The run at hand is the next one. -/
theorem nextRun (scan : Scan holds start next runs) (ends : ¬holds next) (some : start < next) :
    NextRun holds runs (start, next) where
  maximal := scan.maximal_open ends some
  behind := scan.closed
  listed _ maximal before := scan.listed maximal before

/-- A pass finds the maximal runs one after the other. -/
theorem firstRuns (scan : Scan holds start next runs) : FirstRuns holds runs where
  ascending := scan.ascending
  maximal := scan.maximal
  rest other maximal unlisted run member := by
    have closed := scan.closed run member
    by_contra early
    exact unlisted (scan.listed maximal (by omega))

/-- A pass that leaves no number with the property behind has found the maximal runs. -/
theorem complete (scan : Scan holds start start runs) (none : ∀ number, start ≤ number → ¬holds number) :
    Ascending runs ∧ (∀ run, run ∈ runs ↔ MaximalRun holds run) ∧
      ∀ number, holds number ↔ ∃ run ∈ runs, run.1 ≤ number ∧ number < run.2 := by
  have covered (number : Nat) (holding : holds number) :
      ∃ run ∈ runs, run.1 ≤ number ∧ number < run.2 := by
    apply scan.found number _ holding
    by_contra late
    exact none number (Nat.not_lt.mp late) holding
  refine ⟨scan.ascending, ?_, ?_⟩
  · intro run
    refine ⟨scan.maximal run, ?_⟩
    intro maximal
    obtain ⟨other, listed, lower, upper⟩ :=
      covered run.1 (maximal.inside run.1 (Nat.le_refl _) maximal.nonempty)
    rw [maximal.eq_of_common (scan.maximal other listed) (Nat.le_refl _) maximal.nonempty lower upper]
    exact listed
  · intro number
    refine ⟨covered number, ?_⟩
    rintro ⟨run, listed, lower, upper⟩
    exact (scan.maximal run listed).inside number lower upper

end Scan

end NodeExt2fs.Structures
