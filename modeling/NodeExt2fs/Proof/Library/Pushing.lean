import NodeExt2fs.Construction.Js.SymbolicLinks

/-!
This file gives the rules for routines that push to an array.
-/

namespace NodeExt2fs.Library
open Programs Glue Js
open Program (wp wp_bind wp_ite)

variable {arrayId : Nat} {array : List Name} {State A B : Type}
  {contract : Contract Call Answer State} {state : State}

theorem pushing_bind (routine : Routine A) (next : A → Routine B) :
    pushing arrayId array (routine >>= next) =
      pushing arrayId array routine >>= fun result => pushing arrayId result.2 (next result.1) := by
  change pushing arrayId array (routine.bind next) = (pushing arrayId array routine).bind _
  induction routine generalizing array with
  | pure value => rfl
  | call request rest ih =>
      cases request with
      | arrayPushBuffer number value => exact ih ()
      | _ => exact congrArg (Program.call _) (funext fun answer => ih answer)

theorem wp_pushing_ite {condition : Prop} [Decidable condition] {yes no : Routine A}
    {post : A × List Name → State → Prop} :
    wp contract (pushing arrayId array (if condition then yes else no)) post state ↔
      (condition → wp contract (pushing arrayId array yes) post state) ∧
        (¬condition → wp contract (pushing arrayId array no) post state) := by
  rw [apply_ite (pushing arrayId array), wp_ite]

/-- A call of the library leaves the array as it is. -/
theorem pushing_perform (call : Call) (other : ∀ number value, call ≠ .arrayPushBuffer number value) :
    pushing arrayId array call.perform = call.perform >>= fun answer => pure (answer, array) := by
  cases call with
  | arrayPushBuffer number value => exact absurd rfl (other number value)
  | _ => rfl

/-- What follows a call sees the array as it was before. -/
theorem wp_pushing_call (call : Call) (other : ∀ number value, call ≠ .arrayPushBuffer number value)
    (permitted : contract.permits state call) {next : Answer call → Routine A}
    {post : A × List Name → State → Prop}
    (rest : ∀ answer state', contract.allows state call answer state' →
      wp contract (pushing arrayId array (next answer)) post state') :
    wp contract (pushing arrayId array (call.perform >>= next)) post state := by
  rw [pushing_bind, pushing_perform call other, bind_assoc, wp_bind]
  exact ⟨permitted, rest⟩

end NodeExt2fs.Library
