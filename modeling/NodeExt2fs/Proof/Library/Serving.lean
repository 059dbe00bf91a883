import NodeExt2fs.Construction.Glue.Files
import NodeExt2fs.Construction.Glue.Removal

/-!
This file runs the parts of the operations of which the calls succeed and leave the state alone.
-/

namespace NodeExt2fs.Library
open Programs Glue
open Program (wp wp_pure wp_bind wp_ite)

/-- The calls of a kind succeed and are not seen in the state. -/
def Serves {State : Type} (contract : Contract Call Answer State) (kind : Call → Bool) : Prop :=
  ∀ (call : Call) (state : State), kind call = true → contract.permits state call ∧
    ∀ answer state', contract.allows state call answer state' → call.code answer = 0 ∧ state' = state

/-- The calls that fill in the inode of a new file. -/
def filling : Call → Bool
  | .testInodeBitmap _ | .inodeAllocStats _ _ _ | .time | .inodeSizeSet _ _ | .hasFeatureInlineData
  | .hasFeatureExtents | .extentOpen _ _ | .extentFree | .writeNewInode _ _ | .inlineDataInit _ => true
  | _ => false

/-- The calls that stamp an inode. -/
def stamping : Call → Bool
  | .clockGettime | .time | .readInodeFull _ | .writeInodeFull _ _ => true
  | _ => false

variable {State : Type} {contract : Contract Call Answer State} {kind : Call → Bool} {state : State}

theorem Serves.mono {kind' : Call → Bool} (serves : Serves contract kind)
    (wider : ∀ call, kind' call = true → kind call = true) : Serves contract kind' :=
  fun call state listed => serves call state (wider call listed)

theorem Serves.call (serves : Serves contract kind) (call : Call) (listed : kind call = true)
    {post : Answer call → State → Prop} (rest : ∀ answer, call.code answer = 0 → post answer state) :
    wp contract call.perform post state := by
  obtain ⟨permitted, after⟩ := serves call state listed
  apply And.intro permitted
  intro answer state' allowed
  obtain ⟨zero, same⟩ := after answer state' allowed
  rw [same]
  exact rest answer zero

/-- A call with a code goes on. -/
theorem Serves.guard {A : Type} (serves : Serves contract kind) (call : Call) (listed : kind call = true)
    {bad : Answer call → Routine A} {next : Answer call → Routine A} {post : A → State → Prop}
    (rest : ∀ answer, wp contract (next answer) post state) :
    wp contract (call.perform >>= fun answer => if call.code answer ≠ 0 then bad answer else next answer)
      post state := by
  rw [wp_bind]
  apply serves.call call listed
  intro answer success
  rw [if_neg (not_not.mpr success)]
  exact rest answer

/-- The clock is read, or else the time in seconds. -/
theorem Serves.getNow (serves : Serves contract kind) (clock : kind .clockGettime = true)
    (seconds : kind .time = true) {post : Timespec → State → Prop} (rest : ∀ now, post now state) :
    wp contract getNow post state := by
  rw [Glue.getNow, wp_bind]
  apply serves.call .clockGettime clock
  intro answer _
  rw [wp_ite]
  refine ⟨fun _ => rest _, fun _ => ?_⟩
  rw [wp_bind]
  exact serves.call .time seconds fun seconds _ => rest _

section Filling

variable (serves : Serves contract filling)

include serves

theorem Serves.chooseLayout (ino : Ino) (inode : Inode) {post : Errcode × Inode → State → Prop}
    (rest : ∀ inode', post (0, inode') state) :
    wp contract (chooseLayout ino inode) post state := by
  rw [Glue.chooseLayout, wp_bind]
  apply serves.call .hasFeatureInlineData rfl
  intro inline _
  rw [wp_ite]
  refine ⟨fun _ => rest _, fun _ => ?_⟩
  rw [wp_bind]
  apply serves.call .hasFeatureExtents rfl
  intro extents _
  rw [wp_ite]
  refine ⟨fun _ => ?_, fun _ => rest _⟩
  apply serves.guard (.extentOpen ino _) rfl
  intro answer
  rw [wp_bind]
  exact serves.call .extentFree rfl fun _ _ => rest _

theorem Serves.fillFile (ino : Ino) (mode : BitVec 32) {post : Errcode → State → Prop}
    (rest : post 0 state) : wp contract (fillFile ino mode) post state := by
  rw [Glue.fillFile, wp_bind]
  apply serves.call (.testInodeBitmap ino) rfl
  intro _ _
  rw [wp_bind]
  apply serves.call (.inodeAllocStats ino 1 false) rfl
  intro _ _
  rw [wp_bind]
  apply serves.call .time rfl
  intro now _
  apply serves.guard (.inodeSizeSet _ 0) rfl
  intro sized
  rw [wp_bind]
  apply serves.chooseLayout
  intro inode
  dsimp only
  rw [if_neg (not_not.mpr rfl)]
  apply serves.guard (.writeNewInode ino inode) rfl
  intro code
  rw [wp_ite]
  refine ⟨fun _ => ?_, fun _ => rest⟩
  apply serves.call (.inlineDataInit ino) rfl
  intro code success
  rw [show code = 0 from success]
  exact rest

end Filling

section Stamping

variable (serves : Serves contract stamping)

include serves

theorem Serves.updateCtime (ino : Ino) (pinode : Option InodeLarge)
    {post : Int × InodeLarge → State → Prop} (rest : ∀ inode, post (0, inode) state) :
    wp contract (updateCtime ino pinode) post state := by
  rw [Glue.updateCtime, wp_bind]
  apply serves.getNow rfl rfl
  intro now
  cases pinode with
  | some pinode => exact rest _
  | none =>
      apply serves.guard (.readInodeFull ino) rfl
      intro answer
      apply serves.guard (.writeInodeFull ino _) rfl
      intro code
      exact rest _

theorem Serves.updateMtime (ino : Ino) (pinode : Option InodeLarge)
    {post : Int × InodeLarge → State → Prop} (rest : ∀ inode, post (0, inode) state) :
    wp contract (updateMtime ino pinode) post state := by
  unfold Glue.updateMtime
  cases pinode with
  | some pinode =>
      rw [wp_bind]
      apply serves.getNow rfl rfl
      intro now
      exact rest _
  | none =>
      apply serves.guard (.readInodeFull ino) rfl
      intro answer
      rw [wp_bind]
      apply serves.getNow rfl rfl
      intro now
      apply serves.guard (.writeInodeFull ino _) rfl
      intro code
      exact rest _

end Stamping

end NodeExt2fs.Library
