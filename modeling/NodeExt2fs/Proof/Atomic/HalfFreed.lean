import NodeExt2fs.Construction.Library.Freeing
import NodeExt2fs.Proof.Library.Requests

/-!
This file settles which failures leave an inode half freed.
-/

namespace NodeExt2fs.Freeing
open Programs Glue Library
open Program (wp wp_bind wp_ite wp_mono run_of_wp_tracking)

variable {ino : Ino} {troubles : Troubles} {state : Remains} {smooth : Prop}

/-- A step that succeeded. -/
def Succeeded (event : CallEvent) : Prop := event.code = 0

instance (event : CallEvent) : Decidable (Succeeded event) := inferInstanceAs (Decidable (_ = _))

/-- The contract that keeps whether all steps succeeded. -/
abbrev followed (ino : Ino) (troubles : Troubles) : Contract Call Answer (Remains × Prop) :=
  (freeing ino troubles).tracking Succeeded

/-- A call, with its effect on the inode. -/
theorem wp_step (call : Call) {post : Answer call → Remains × Prop → Prop}
    (rest : ∀ answer state', (freeing ino troubles).allows state call answer state' →
      post answer (state', smooth ∧ call.code answer = 0)) :
    wp (followed ino troubles) call.perform post (state, smooth) := by
  refine ⟨trivial, ?_⟩
  rintro answer ⟨state', smooth'⟩ ⟨allowed, rfl⟩
  exact rest answer state' allowed

/-- A call that succeeds. -/
theorem wp_passed (call : Call)
    (passes : ∀ answer state', (freeing ino troubles).allows state call answer state' →
      call.code answer = 0)
    {post : Answer call → Remains × Prop → Prop}
    (rest : ∀ answer state', (freeing ino troubles).allows state call answer state' →
      post answer (state', smooth)) :
    wp (followed ino troubles) call.perform post (state, smooth) := by
  apply wp_step call
  intro answer state' allowed
  rw [passes answer state' allowed, eq_self, and_true]
  exact rest answer state' allowed

/-- A call without a code. -/
theorem wp_sure (call : Call) (codeless : ∀ answer, call.code answer = 0)
    {post : Answer call → Remains × Prop → Prop}
    (rest : ∀ answer state', (freeing ino troubles).allows state call answer state' →
      post answer (state', smooth)) :
    wp (followed ino troubles) call.perform post (state, smooth) :=
  wp_passed call (fun answer _ _ => codeless answer) rest

theorem translateError_followed {err : Errcode} (failed : err ≠ 0) :
    wp (followed ino troubles) (translateError err) (fun ret after => ret ≠ 0 ∧ after.1 = state)
      (state, smooth) := by
  apply wp_translateError (fun after : Remains × Prop => after.1 = state) _ failed rfl
  rintro call (rfl | rfl) ⟨_, _⟩ rfl
  · exact ⟨trivial, fun _ _ allowed => allowed.1⟩
  · exact ⟨trivial, fun _ _ allowed => allowed.1⟩

/-- How a part of `remove_inode` ends: what it leaves, when it fails, and whether all its steps have
succeeded when it does not. -/
structure Leaves (remains : Remains) (fails smooth : Prop) (ret : Int) (after : Remains × Prop) : Prop where
  remains : after.1 = remains
  fails : ret ≠ 0 ↔ fails
  smooth : ret = 0 → (after.2 ↔ smooth)

/-- The exit that writes the inode out keeps the status, or fails. -/
theorem writeOut_leaves (inode : InodeLarge) (ret : Int) :
    wp (followed ino troubles) (writeOut ino inode ret)
      (Leaves (if troubles.write = 0 then state.storing inode.toInode else state)
        (ret ≠ 0 ∨ troubles.write ≠ 0) smooth) (state, smooth) := by
  unfold writeOut
  rw [wp_bind]
  apply wp_step (.writeInodeFull ino inode)
  rintro code state' ⟨known, same⟩
  rw [known rfl] at same
  simp only [true_and] at same
  rw [known rfl, wp_ite]
  constructor
  · intro failed
    rw [if_neg failed] at same ⊢
    apply wp_mono (translateError_followed failed)
    rintro ret' after ⟨broken, kept⟩
    exact ⟨kept.trans same, iff_of_true broken (.inr failed), fun success => absurd success broken⟩
  · intro success
    rw [if_pos (not_not.mp success)] at same ⊢
    exact ⟨same, (or_iff_left success).symm, fun _ => and_iff_left (not_not.mp success)⟩

/-- `update_ctime` on the buffer leaves the count and the deletion time. -/
theorem updateCtime_buffer (inode : InodeLarge) :
    wp (followed ino troubles) (updateCtime ino (some inode))
      (fun result after => result.1 = 0 ∧ result.2.iLinksCount = inode.iLinksCount ∧
        result.2.iDtime = inode.iDtime ∧ after = (state, smooth)) (state, smooth) := by
  have kept (now : Timespec) : (ext4InodeSetXtime .iCtime now inode).iLinksCount = inode.iLinksCount ∧
      (ext4InodeSetXtime .iCtime now inode).iDtime = inode.iDtime := by
    rw [ext4InodeSetXtime]
    split <;> exact ⟨rfl, rfl⟩
  unfold updateCtime getNow
  rw [wp_bind, wp_bind]
  apply wp_sure .clockGettime fun _ => rfl
  rintro answer state' same
  rw [show state' = state from same, wp_ite]
  refine ⟨fun _ => ⟨rfl, (kept _).1, (kept _).2, rfl⟩, fun _ => ?_⟩
  rw [wp_bind]
  apply wp_sure .time fun _ => rfl
  rintro seconds state'' ⟨same, -⟩
  rw [same]
  exact ⟨rfl, (kept _).1, (kept _).2, rfl⟩

/-- The blocks are punched, or there are none. -/
def punches (troubles : Troubles) (state : Remains) : Bool := troubles.validBlocks || !state.punched

def punchFails (troubles : Troubles) (state : Remains) : Bool :=
  punches troubles state && troubles.punch != 0

/-- What a punch leaves, with or without success. -/
def afterPunch (troubles : Troubles) (state : Remains) (inode : Inode) : Remains :=
  { (if punches troubles state && troubles.punchStores then state.storing inode else state) with
    punched := state.punched || !punchFails troubles state }

theorem punchBlocks_leaves (inode : InodeLarge) :
    wp (followed ino troubles) (punchBlocks ino inode)
      (fun result after => result.1 = (if punchFails troubles state then troubles.punch else 0) ∧
        result.2.iLinksCount = inode.iLinksCount ∧ result.2.iDtime = inode.iDtime ∧
        after.1 = afterPunch troubles state inode.toInode ∧ (result.1 = 0 → (after.2 ↔ smooth)))
      (state, smooth) := by
  unfold punchBlocks
  rw [wp_bind]
  apply wp_sure (.inodeHasValidBlocks inode.toInode) fun _ => rfl
  rintro answer state' ⟨same, valid⟩
  rw [same, wp_ite]
  constructor
  · intro attempted
    have attempts : punches troubles state = true := valid.symm.trans attempted
    rw [wp_bind]
    apply wp_step (.punch ino inode.toInode)
    rintro ⟨err, punched⟩ state₁ ⟨links, dtime, known, moved⟩
    dsimp only at links dtime known moved
    rw [if_pos rfl, known rfl] at moved
    refine ⟨?_, links, dtime, moved.trans ?_, fun success => and_iff_left success⟩
    · change err = _
      rw [known rfl, punchFails, attempts]
      by_cases broken : troubles.punch = 0 <;> simp [broken]
    · rw [afterPunch, punchFails, attempts]
      simp [bne]
  · intro skipped
    have attempts : punches troubles state = false := by
      rw [← Bool.not_eq_true]
      exact fun attempts => skipped (valid.trans attempts)
    have none : state.punched = true := by
      rw [punches, Bool.or_eq_false_iff, Bool.not_eq_false'] at attempts
      exact attempts.2
    have calm : punchFails troubles state = false := by rw [punchFails, attempts, Bool.false_and]
    refine ⟨?_, rfl, rfl, ?_, fun _ => Iff.rfl⟩
    · rw [calm]
      rfl
    · rw [afterPunch, calm, attempts]
      cases state
      simpa using none

/-- A failure of `ext2fs_free_ext_attr` is written out as a success. -/
theorem freeInode_unfreed (inode : InodeLarge) (failed : troubles.freeExtAttr ≠ 0) :
    wp (followed ino troubles) (freeInode ino inode)
      (Leaves (if troubles.write = 0 then state.storing inode.toInode else state)
        (troubles.write ≠ 0) False) (state, smooth) := by
  unfold freeInode
  rw [wp_bind]
  apply wp_step (.freeExtAttr ino inode)
  rintro ⟨err, inode'⟩ state' ⟨same, links, dtime, known⟩
  dsimp only at links dtime known
  rw [same, wp_ite]
  refine ⟨fun _ => ?_, fun success => absurd (known rfl ▸ failed) success⟩
  have stored : state.storing inode'.toInode = state.storing inode.toInode := by
    rw [Remains.storing, Remains.storing, links, dtime]
  apply wp_mono (writeOut_leaves inode' 0)
  rintro ret after ⟨remains, fails, smooth⟩
  rw [stored] at remains
  refine ⟨remains, fails.trans (or_iff_right fun none => none rfl), fun success => ?_⟩
  rw [smooth success]
  exact iff_of_false (fun both => failed ((known rfl).symm.trans both.2)) id

/-- The inode with a count and a time that may have been stored, freed unless the punch failed. -/
def freedAs (troubles : Troubles) (state : Remains) (inode : Inode) : Remains where
  links := if troubles.write == 0 || punches troubles state && troubles.punchStores then
    inode.iLinksCount else state.links
  dtime := if troubles.write == 0 || punches troubles state && troubles.punchStores then
    inode.iDtime else state.dtime
  released := state.released || !punchFails troubles state
  punched := state.punched || !punchFails troubles state

theorem freeInode_freed (inode : InodeLarge) (cleared : troubles.freeExtAttr = 0) :
    wp (followed ino troubles) (freeInode ino inode)
      (Leaves (freedAs troubles state inode.toInode)
        (punchFails troubles state = true ∨ troubles.write ≠ 0) smooth) (state, smooth) := by
  unfold freeInode
  rw [wp_bind]
  apply wp_passed (.freeExtAttr ino inode) fun _ _ allowed => (allowed.2.2.2 rfl).trans cleared
  rintro ⟨err, inode'⟩ state' ⟨same, links, dtime, known⟩
  dsimp only at links dtime known
  have success : err = 0 := (known rfl).trans cleared
  rw [same, wp_ite]
  refine ⟨fun broken => absurd success broken, fun _ => ?_⟩
  rw [wp_bind]
  apply wp_mono (punchBlocks_leaves inode')
  rintro ⟨err, inode''⟩ ⟨state₁, smooth₁⟩ ⟨code, links', dtime', same, calm⟩
  dsimp only at code links' dtime' same calm
  have final (released : Bool) (whole : released = (state.released || !punchFails troubles state)) :
      (if troubles.write = 0 then
          ({ state₁ with released := released } : Remains).storing inode''.toInode
        else { state₁ with released := released }) = freedAs troubles state inode.toInode := by
    rw [whole, same, afterPunch, freedAs]
    by_cases written : troubles.write = 0 <;>
      cases stores : (punches troubles state && troubles.punchStores) <;>
      simp [written, Remains.storing, links, dtime, links', dtime']
  rw [wp_ite]
  constructor
  · intro broken
    have fails : punchFails troubles state = true := by
      cases fails : punchFails troubles state with
      | true => rfl
      | false =>
          rw [fails] at code
          exact absurd code broken
    rw [wp_bind]
    apply wp_mono (translateError_followed broken)
    rintro ret ⟨state₂, smooth₂⟩ ⟨negative, unmoved⟩
    rw [show state₂ = state₁ from unmoved]
    apply wp_mono (writeOut_leaves inode'' ret)
    rintro ret' after ⟨remains, fails', -⟩
    have kept := final state₁.released (by rw [same, fails, afterPunch]; split <;> simp [Remains.storing])
    refine ⟨remains.trans kept, ?_, fun success => ?_⟩
    · exact iff_of_true (fails'.mpr (.inl negative)) (.inl fails)
    · exact absurd success (fails'.mpr (.inl negative))
  · intro success
    have works : punchFails troubles state = false := by
      cases fails : punchFails troubles state with
      | false => rfl
      | true =>
          rw [fails, if_pos rfl] at code
          rw [punchFails, Bool.and_eq_true, bne_iff_ne] at fails
          exact absurd code (fun same => success (same ▸ fails.2))
    rw [wp_bind]
    apply wp_sure (.inodeAllocStats ino (-1) _) fun _ => rfl
    intro _ state₂ released
    rw [show state₂ = _ from released, if_pos ⟨rfl, by decide⟩]
    apply wp_mono (writeOut_leaves inode'' 0)
    rintro ret after ⟨remains, fails, smooth₂⟩
    have kept := final true (by rw [works]; simp)
    refine ⟨remains.trans kept, fails.trans ?_, fun done => ?_⟩
    · rw [works]
      exact or_congr (iff_of_false (fun none => none rfl) Bool.false_ne_true) Iff.rfl
    · rw [smooth₂ done]
      exact calm (not_not.mp success)

/-- The record after its last link is taken. -/
def unlinked (troubles : Troubles) : Inode :=
  { Inode.zero with iLinksCount := 0, iDtime := troubles.now.setWidth 32 }

theorem storing_congr {inode inode' : Inode} (links : inode.iLinksCount = inode'.iLinksCount)
    (dtime : inode.iDtime = inode'.iDtime) (state : Remains) :
    state.storing inode = state.storing inode' := by
  rw [Remains.storing, Remains.storing, links, dtime]

theorem freedAs_congr {inode inode' : Inode} (links : inode.iLinksCount = inode'.iLinksCount)
    (dtime : inode.iDtime = inode'.iDtime) :
    freedAs troubles state inode = freedAs troubles state inode' := by
  rw [freedAs, freedAs, links, dtime]

/-- The record that `remove_inode` goes on with. -/
theorem takeLink_leaves (inode : InodeLarge) :
    wp (followed ino troubles) (takeLink inode)
      (fun inode' after => inode'.iLinksCount = inode.iLinksCount - 1 ∧
        inode'.iDtime = (if inode.iLinksCount = 1 then troubles.now.setWidth 32 else inode.iDtime) ∧
        after = (state, smooth)) (state, smooth) := by
  unfold takeLink
  rw [wp_ite]
  refine ⟨fun last => ?_, fun more => ⟨rfl, (if_neg more).symm, rfl⟩⟩
  rw [wp_bind]
  apply wp_sure .time fun _ => rfl
  rintro seconds state' ⟨same, clock⟩
  rw [same]
  refine ⟨rfl, ?_, rfl⟩
  rw [if_pos last, ← clock]

/-- A read that fails ends the routine. -/
theorem removeInode_unread (failed : troubles.read ≠ 0) :
    wp (followed ino troubles) (removeInode ino) (Leaves state True smooth) (state, smooth) := by
  unfold removeInode
  rw [wp_bind]
  apply wp_step (.readInodeFull ino)
  rintro ⟨err, inode⟩ state' ⟨same, known⟩
  have broken : err ≠ 0 := fun success => failed ((known rfl).1.symm.trans success)
  rw [same, wp_ite]
  refine ⟨fun _ => ?_, fun success => absurd broken success⟩
  apply wp_mono (translateError_followed broken)
  rintro ret after ⟨negative, kept⟩
  exact ⟨kept, iff_true_intro negative, fun success => absurd success negative⟩

section Read

variable (read : troubles.read = 0)
include read

/-- An inode without links is left alone. -/
theorem removeInode_done (none : state.links = 0) :
    wp (followed ino troubles) (removeInode ino) (Leaves state False smooth) (state, smooth) := by
  unfold removeInode
  rw [wp_bind]
  apply wp_passed (.readInodeFull ino) fun _ _ allowed => (allowed.2 rfl).1.trans read
  rintro ⟨err, inode⟩ state' ⟨same, known⟩
  have success : err = 0 := (known rfl).1.trans read
  obtain ⟨links, -⟩ := (known rfl).2 success
  rw [same, wp_ite, wp_ite]
  refine ⟨fun broken => absurd success broken, fun _ => ⟨fun _ => ?_, fun some => ?_⟩⟩
  · exact ⟨rfl, iff_of_false (fun negative => negative rfl) id, fun _ => Iff.rfl⟩
  · exact absurd (links.trans none) some

/-- The common part: the record goes on with one link less. -/
theorem removeInode_reads (some : state.links ≠ 0) {post : Int → Remains × Prop → Prop}
    (rest : ∀ inode : InodeLarge, inode.iLinksCount = state.links - 1 →
      inode.iDtime = (if state.links = 1 then troubles.now.setWidth 32 else state.dtime) →
      wp (followed ino troubles)
        (if inode.iLinksCount ≠ 0 then writeOut ino inode 0 else freeInode ino inode) post
        (state, smooth)) :
    wp (followed ino troubles) (removeInode ino) post (state, smooth) := by
  unfold removeInode
  rw [wp_bind]
  apply wp_passed (.readInodeFull ino) fun _ _ allowed => (allowed.2 rfl).1.trans read
  rintro ⟨err, inode⟩ state' ⟨same, known⟩
  have success : err = 0 := (known rfl).1.trans read
  obtain ⟨links, dtime⟩ := (known rfl).2 success
  dsimp only at links dtime
  rw [same, wp_ite, wp_ite]
  refine ⟨fun broken => absurd success broken, fun _ => ⟨fun none => ?_, fun _ => ?_⟩⟩
  · exact absurd (links.symm.trans none) some
  · rw [wp_bind]
    apply wp_mono (takeLink_leaves inode)
    rintro inode₁ _ ⟨fewer, dated, rfl⟩
    rw [wp_bind]
    apply wp_mono (updateCtime_buffer inode₁)
    rintro ⟨ret, inode₂⟩ _ ⟨fine, same₁, same₂, rfl⟩
    dsimp only at fine same₁ same₂
    rw [fine, wp_ite]
    refine ⟨fun broken => absurd rfl broken, fun _ => ?_⟩
    apply rest inode₂
    · rw [same₁, fewer, links]
    · rw [same₂, dated, links, dtime]

/-- An inode with more links loses one. -/
theorem removeInode_fewer (none : state.links ≠ 0) (one : state.links ≠ 1) :
    wp (followed ino troubles) (removeInode ino)
      (Leaves (if troubles.write = 0 then { state with links := state.links - 1 } else state)
        (troubles.write ≠ 0) smooth) (state, smooth) := by
  apply removeInode_reads read none
  intro inode links dtime
  have some : inode.iLinksCount ≠ 0 := by
    rw [links]
    intro zero
    exact one (sub_eq_zero.mp zero)
  have stored : state.storing inode.toInode = { state with links := state.links - 1 } := by
    rw [Remains.storing, links, dtime, if_neg one]
  rw [if_pos some]
  apply wp_mono (writeOut_leaves inode 0)
  rintro ret after ⟨remains, fails, smooth⟩
  rw [stored] at remains
  exact ⟨remains, fails.trans (or_iff_right fun none => none rfl), smooth⟩

/-- The last link frees the inode. -/
theorem removeInode_last (one : state.links = 1) {post : Int → Remains × Prop → Prop}
    (rest : ∀ inode : InodeLarge, inode.iLinksCount = (unlinked troubles).iLinksCount →
      inode.iDtime = (unlinked troubles).iDtime →
      wp (followed ino troubles) (freeInode ino inode) post (state, smooth)) :
    wp (followed ino troubles) (removeInode ino) post (state, smooth) := by
  have some : state.links ≠ 0 := by
    rw [one]
    decide
  apply removeInode_reads read some
  intro inode links dtime
  have zero : inode.iLinksCount = 0 := by
    rw [links, one]
    rfl
  rw [if_pos one] at dtime
  rw [if_neg (not_not.mpr zero)]
  exact rest inode zero dtime

theorem removeInode_unfreed (one : state.links = 1) (failed : troubles.freeExtAttr ≠ 0) :
    wp (followed ino troubles) (removeInode ino)
      (Leaves (if troubles.write = 0 then state.storing (unlinked troubles) else state)
        (troubles.write ≠ 0) False) (state, smooth) := by
  apply removeInode_last read one
  intro inode links dtime
  rw [← storing_congr links dtime]
  exact freeInode_unfreed inode failed

theorem removeInode_freed (one : state.links = 1) (cleared : troubles.freeExtAttr = 0) :
    wp (followed ino troubles) (removeInode ino)
      (Leaves (freedAs troubles state (unlinked troubles))
        (punchFails troubles state = true ∨ troubles.write ≠ 0) smooth) (state, smooth) := by
  apply removeInode_last read one
  intro inode links dtime
  rw [← freedAs_congr links dtime]
  exact freeInode_freed inode cleared

end Read

/-- The stored inode is a deleted one. -/
def Deleted (remains : Remains) : Prop := remains.links = 0 ∧ remains.dtime ≠ 0

/-- Nothing belongs to the inode any more. -/
def Freed (remains : Remains) : Prop := remains.released = true ∧ remains.punched = true

/-- An inode that is not half freed. -/
def Whole (remains : Remains) : Prop := Deleted remains ↔ Freed remains

/-- The claim about one call: it leaves no half freed inode, and it returns zero only if every step that
it attempted succeeded. -/
structure NeverHalf (ret : Int) (after : Remains) (events : List CallEvent) : Prop where
  whole : Whole after
  honest : ret = 0 → ∀ event ∈ events, Succeeded event

/-- The inode is stored with its deletion time, by the last write or by the punch. -/
def DeletionStored (troubles : Troubles) (before : Remains) : Prop :=
  (troubles.write = 0 ∨ punches troubles before = true ∧ troubles.punchStores = true) ∧
    troubles.now.setWidth 32 ≠ 0#32

/-- The failures that leave nothing half freed. -/
def Harmless (troubles : Troubles) (before : Remains) : Prop :=
  if troubles.read ≠ 0 ∨ before.links ≠ 1 then Whole before
  else if troubles.freeExtAttr ≠ 0 then troubles.write ≠ 0 ∧ ¬Freed before
  else if punchFails troubles before then DeletionStored troubles before ↔ Freed before
  else DeletionStored troubles before

/-- A count that is not zero is that of no deleted inode. -/
theorem whole_of_linked {remains : Remains} (linked : remains.links ≠ 0) :
    Whole remains ↔ ¬Freed remains := by
  rw [Whole, Deleted]
  exact ⟨fun whole freed => linked (whole.mpr freed).1,
    fun unfreed => iff_of_false (fun deleted => linked deleted.1) unfreed⟩

/-- What a call leaves decides about the claim, with the steps that it hides. -/
theorem Leaves.neverHalf_iff {remains after : Remains} {fails smooth : Prop} {ret : Int}
    {events : List CallEvent}
    (leaves : Leaves remains fails smooth ret (after, True ∧ ∀ event ∈ events, Succeeded event)) :
    NeverHalf ret after events ↔ Whole remains ∧ (fails ∨ smooth) := by
  have same : after = remains := leaves.remains
  constructor
  · intro never
    refine ⟨same ▸ never.whole, ?_⟩
    by_cases success : ret = 0
    · exact .inr ((leaves.smooth success).mp ⟨trivial, never.honest success⟩)
    · exact .inl (leaves.fails.mp success)
  · rintro ⟨whole, fails | smooth⟩
    · exact ⟨same ▸ whole, fun success => absurd success (leaves.fails.mpr fails)⟩
    · exact ⟨same ▸ whole, fun success => ((leaves.smooth success).mpr smooth).2⟩

theorem deleted_freedAs (one : state.links = 1) :
    Deleted (freedAs troubles state (unlinked troubles)) ↔ DeletionStored troubles state := by
  rw [Deleted, DeletionStored, freedAs, one]
  dsimp only
  by_cases stored : (troubles.write == 0 ||
      punches troubles state && troubles.punchStores) = true
  · have holds : troubles.write = 0 ∨ punches troubles state = true ∧ troubles.punchStores = true := by
      simpa using stored
    rw [if_pos stored, if_pos stored, and_iff_right holds]
    exact and_iff_right rfl
  · have fails : ¬(troubles.write = 0 ∨
        punches troubles state = true ∧ troubles.punchStores = true) := by
      simpa using stored
    rw [if_neg stored]
    exact iff_of_false (fun deleted => absurd deleted.1 (by decide)) fun both => fails both.1

section Runs

variable {Hidden : Type} {library : Handler Call Answer Hidden} {view : Hidden → Remains}

/-- The claim about a run, from what it leaves. -/
theorem neverHalf_run (honoured : (freeing ino troubles).Honoured library view) {hidden : Hidden}
    {remains : Remains} {fails smooth : Prop}
    (leaves : wp (followed ino troubles) (removeInode ino) (Leaves remains fails smooth)
      (view hidden, True)) :
    NeverHalf ((removeInode ino).run library hidden).1 (view ((removeInode ino).run library hidden).2)
        ((removeInode ino).events library hidden) ↔ Whole remains ∧ (fails ∨ smooth) :=
  (run_of_wp_tracking honoured leaves).neverHalf_iff

/-- A removal leaves no inode half freed and hides no failure exactly when its failures are harmless. -/
theorem never_half_iff (honoured : (freeing ino troubles).Honoured library view) (hidden : Hidden) :
    NeverHalf ((removeInode ino).run library hidden).1 (view ((removeInode ino).run library hidden).2)
        ((removeInode ino).events library hidden) ↔ Harmless troubles (view hidden) := by
  rw [Harmless]
  by_cases read : troubles.read = 0
  · by_cases one : (view hidden).links = 1
    · have linked : (view hidden).links ≠ 0 := by
        rw [one]
        decide
      rw [if_neg (by simp [read, one])]
      by_cases cleared : troubles.freeExtAttr = 0
      · rw [neverHalf_run honoured (removeInode_freed read one cleared), and_iff_left (.inr trivial),
          Whole, deleted_freedAs one, if_neg (not_not.mpr cleared)]
        cases fails : punchFails troubles (view hidden) with
        | true => simp [Freed, freedAs, fails]
        | false => simp [Freed, freedAs, fails]
      · rw [neverHalf_run honoured (removeInode_unfreed read one cleared), or_false, if_pos cleared,
          and_comm]
        apply and_congr_right
        intro failed
        rw [if_neg failed]
        exact whole_of_linked linked
    · rw [if_pos (.inr one)]
      by_cases none : (view hidden).links = 0
      · rw [neverHalf_run honoured (removeInode_done read none)]
        exact and_iff_left (.inr trivial)
      · rw [neverHalf_run honoured (removeInode_fewer read none one), and_iff_left (.inr trivial),
          whole_of_linked none]
        by_cases written : troubles.write = 0
        · have fewer : (view hidden).links - 1 ≠ 0 := fun zero => one (sub_eq_zero.mp zero)
          rw [if_pos written]
          exact whole_of_linked fewer
        · rw [if_neg written]
          exact whole_of_linked none
  · rw [neverHalf_run honoured (removeInode_unread read), if_pos (.inl read)]
    exact and_iff_left (.inl trivial)

end Runs

/-- No failure. -/
def untroubled : Troubles where
  read := 0
  freeExtAttr := 0
  punch := 0
  write := 0
  validBlocks := true
  punchStores := false
  now := 7

/-- A file with one link. -/
def oneLink : Remains where
  links := 1
  dtime := 0
  released := false
  punched := false

/-- The last link goes while the disk works. -/
theorem never_half_untroubled :
    NeverHalf ((removeInode 12).run (troubled 12 untroubled) oneLink).1
      ((removeInode 12).run (troubled 12 untroubled) oneLink).2
      ((removeInode 12).events (troubled 12 untroubled) oneLink) := by
  apply (never_half_iff (troubled_honours 12 untroubled) oneLink).mpr
  exact ⟨.inl rfl, by decide⟩

/-- The attributes cannot be freed: the inode is stored as deleted, keeps its bit and its blocks, and the
call returns zero. -/
theorem half_freed :
    ¬∀ (troubles : Troubles) (before : Remains), Whole before →
      NeverHalf ((removeInode 12).run (troubled 12 troubles) before).1
        ((removeInode 12).run (troubled 12 troubles) before).2
        ((removeInode 12).events (troubled 12 troubles) before) := by
  intro every
  have broken := every { untroubled with freeExtAttr := EIO } oneLink (by unfold Whole Deleted Freed; decide)
  exact absurd broken.whole (by unfold Whole Deleted Freed; decide)

end NodeExt2fs.Freeing
