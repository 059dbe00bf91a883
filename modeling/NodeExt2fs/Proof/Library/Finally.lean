import NodeExt2fs.Construction.Js.Promises

/-!
This file gives the rule for `try` with `finally`.
-/

namespace NodeExt2fs.Library
open Programs Js
open Program (wp_mono)

variable {Request : Type} {Answer : Request → Type} {Locals State A : Type}
  {contract : Contract Request Answer State}

/-- After the first part, `finally` runs unless that did not settle. -/
theorem awaitFinally_wp {body : Async Request Answer Locals Failure A}
    {last : Async Request Answer Locals Failure Unit}
    {post : Except Failure A → Locals → State → Prop} {locals : Locals} {state : State}
    (before : Async.wp contract body (fun result locals' state' =>
      (result = .error .unsettled → post result locals' state') ∧
      (result ≠ .error .unsettled → Async.wp contract last
        (fun closing => post (closing.bind fun _ => result)) locals' state')) locals state) :
    Async.wp contract (awaitFinally body last) post locals state := by
  have unfolded : Async.start (awaitFinally body last) locals = (body.start locals >>= fun result =>
      (runFinally last result.1).run result.2) := rfl
  rw [Async.wp, unfolded, Program.wp_bind]
  apply wp_mono before
  intro result state' settled
  have closes (settles : result.1 ≠ .error .unsettled) : Program.wp contract
      (last.start result.2 >>= fun closing => pure (closing.1.bind fun _ => result.1, closing.2))
      (fun result => post result.1 result.2) state' := by
    rw [Program.wp_bind]
    exact settled.2 settles
  obtain ⟨result, locals'⟩ := result
  cases result with
  | ok value => exact closes fun bad => by cases bad
  | error failure =>
      cases failure with
      | unsettled => exact settled.1 rfl
      | errno exception => exact closes fun bad => by cases bad
      | error message => exact closes fun bad => by cases bad

end NodeExt2fs.Library
