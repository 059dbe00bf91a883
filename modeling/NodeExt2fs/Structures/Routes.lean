import Mathlib.Init

/-!
Routes along labelled edges.
-/

namespace NodeExt2fs.Structures

variable {Node Label : Type} {edge edge' : Node → Label → Node → Prop}

/-- The labels lead from the first node to another one. -/
inductive Route (edge : Node → Label → Node → Prop) (first : Node) : List Label → Node → Prop where
  | here : Route edge first [] first
  | on {labels : List Label} {node next : Node} {label : Label} (before : Route edge first labels node)
      (taken : edge node label next) : Route edge first (labels ++ [label]) next

/-- More edges leave each route. -/
theorem Route.mono (more : ∀ node label next, edge node label next → edge' node label next)
    {first last : Node} {labels : List Label} (route : Route edge first labels last) :
    Route edge' first labels last := by
  induction route with
  | here => exact .here
  | on before taken ih => exact .on ih (more _ _ _ taken)

/-- One route after another. -/
theorem Route.append {first middle last : Node} {labels labels' : List Label}
    (front : Route edge first labels middle) (back : Route edge middle labels' last) :
    Route edge first (labels ++ labels') last := by
  induction back with
  | here =>
      rw [List.append_nil]
      exact front
  | on before taken ih =>
      rw [← List.append_assoc]
      exact .on ih taken

/-- A route over one edge and on. -/
theorem Route.across {first node next last : Node} {label : Label} {labels labels' : List Label}
    (front : Route edge first labels node) (taken : edge node label next)
    (back : Route edge next labels' last) : Route edge first (labels ++ label :: labels') last := by
  have joined := (Route.on front taken).append back
  rw [List.append_assoc] at joined
  exact joined

end NodeExt2fs.Structures
