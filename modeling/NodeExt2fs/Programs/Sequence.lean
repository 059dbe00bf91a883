import NodeExt2fs.Programs.Program

/-!
Programs that run to their ends one after another.
-/

namespace NodeExt2fs.Programs

variable {Request : Type} {Answer : Request → Type} {Caller A B State : Type}

/-- The results of the programs in order, and the state after the last one. -/
def runAll (handler : Handler Request Answer State) (program : Caller → Program Request Answer A)
    (result : Caller → A → B) : List Caller → State → List B × State
  | [], state => ([], state)
  | call :: rest, state =>
      let (value, state') := (program call).run handler state
      let (results, state'') := runAll handler program result rest state'
      (result call value :: results, state'')

variable {handler : Handler Request Answer State} {program : Caller → Program Request Answer A}
  {result : Caller → A → B}

/-- The second part of the programs starts in the state after the first part. -/
theorem runAll_append (calls calls' : List Caller) (state : State) :
    runAll handler program result (calls ++ calls') state =
      ((runAll handler program result calls state).1 ++
          (runAll handler program result calls' (runAll handler program result calls state).2).1,
        (runAll handler program result calls' (runAll handler program result calls state).2).2) := by
  induction calls generalizing state with
  | nil => rfl
  | cons call rest ih => simp only [List.cons_append, runAll, ih]

/-- More programs leave the results of the first ones. -/
theorem runAll_prefix {calls calls' : List Caller} (before : calls <+: calls') (state : State) :
    (runAll handler program result calls state).1 <+: (runAll handler program result calls' state).1 := by
  obtain ⟨rest, rfl⟩ := before
  rw [runAll_append]
  exact List.prefix_append _ _

end NodeExt2fs.Programs
