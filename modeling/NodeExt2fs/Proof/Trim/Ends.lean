import NodeExt2fs.Proof.Trim.Runs

/-!
This file finds the filesystems on which the loop of a trim ends.
-/

namespace NodeExt2fs.Trim
open Programs Structures Glue Library
open Program (wp wp_mono wp_refines may may_bind not_wp_of_may)

variable {range : BlockRange} {used : BitVec 32 → Bool} {discarded : List Run}

/-- Where no discard fails, some number of rounds is enough, and no block outside the range is passed to
the bitmap or to a discard on the way. -/
def Ends (range : BlockRange) (used : BitVec 32 → Bool) : Prop :=
  ∃ rounds, wp (blocks range used True True) (nodeExt2fsTrim rounds)
    (fun result _ => result ≠ none) []

/-- One call may be answered by what the blocks hold. -/
theorem may_block (call : Call) (answer : Answer call) {post : Answer call → List Run → Prop}
    (allowed : blockEffect range used True discarded call answer discarded)
    (rest : post answer discarded) : may (blocks range used True False) call.perform post discarded :=
  ⟨answer, discarded, allowed, rest⟩

/-- A disk that works accepts every discard. -/
theorem may_discardBefore {start blk : BitVec 32} {post : Errcode → List Run → Prop}
    (rest : ∀ discarded', post 0 discarded') :
    may (blocks range used True False) (discardBefore start blk) post discarded := by
  rw [discardBefore]
  by_cases some : start < blk
  · rw [if_pos some]
    exact ⟨(0 : Errcode), _, ⟨fun _ => rfl, rfl⟩, rest _⟩
  · rw [if_neg some]
    exact rest discarded

/-- The bitmap answers for every number. -/
theorem may_lastOrUsed {count blk : BitVec 32} {post : Bool → List Run → Prop}
    (rest : ∀ stops, post stops discarded) :
    may (blocks range used True False) (lastOrUsed count blk) post discarded := by
  rw [lastOrUsed]
  by_cases last : blk = count
  · rw [if_pos last]
    exact rest true
  · rw [if_neg last]
    exact may_block (.testBlockBitmap blk) (used blk) ⟨rfl, rfl⟩ (rest (used blk))

/-- Every 32-bit number is at most the largest one, and the block behind that is block 0. -/
theorem trimBlocks_endless {count : BitVec 32} (largest : count.toNat + 1 = 2 ^ 32) {rounds : Nat}
    {start blk : BitVec 32} :
    may (blocks range used True False) (trimBlocks count rounds start blk)
      (fun result _ => ¬result ≠ none) discarded := by
  induction rounds generalizing start blk discarded with
  | zero => exact not_not.mpr rfl
  | succ rounds ih =>
      have inside : blk ≤ count := by
        have small := blk.isLt
        rw [BitVec.le_def]
        omega
      rw [trimBlocks, if_pos inside, may_bind]
      apply may_lastOrUsed
      intro stops
      cases stops with
      | false => exact ih
      | true =>
          rw [if_pos rfl, may_bind]
          apply may_discardBefore
          intro discarded'
          rw [if_neg (not_not.mpr rfl)]
          exact ih

theorem nodeExt2fsTrim_endless (largest : range.sBlocksCount.toNat + 1 = 2 ^ 32) (rounds : Nat) :
    may (blocks range used True False) (nodeExt2fsTrim rounds) (fun result _ => ¬result ≠ none)
      discarded := by
  rw [nodeExt2fsTrim, may_bind]
  apply may_block .loadBlockRange range ⟨rfl, rfl⟩
  by_cases unloaded : (!range.hasBlockMap) = true
  · rw [if_pos unloaded, may_bind]
    apply may_block .readBlockBitmap (0 : Errcode) rfl
    rw [if_neg (not_not.mpr rfl)]
    exact trimBlocks_endless largest
  · rw [if_neg unloaded]
    exact trimBlocks_endless largest

/-- What is permitted only inside the range is permitted without it. -/
theorem blocks_refines (range : BlockRange) (used : BitVec 32 → Bool) :
    (blocks range used True False).Refines (blocks range used True True) :=
  ⟨fun _ _ _ nothing => nothing.elim, fun _ _ _ _ allowed => allowed⟩

theorem not_ends_of_largest (largest : range.sBlocksCount.toNat + 1 = 2 ^ 32) : ¬Ends range used := by
  intro ends
  obtain ⟨rounds, ended⟩ := ends
  exact not_wp_of_may (nodeExt2fsTrim_endless largest rounds)
    (wp_refines (blocks_refines range used) ended)

/-- Whatever the bitmap holds, the loop ends exactly if the count is not the largest number. -/
theorem ends_iff (range : BlockRange) (used : BitVec 32 → Bool) :
    Ends range used ↔ range.sBlocksCount.toNat ≠ 2 ^ 32 - 1 := by
  have small := range.sBlocksCount.isLt
  apply Iff.intro
  · intro ends largest
    exact not_ends_of_largest (by omega) ends
  · intro other
    refine ⟨range.sBlocksCount.toNat + 2, ?_⟩
    apply wp_nodeExt2fsTrim
    · exact fun _ _ => Option.some_ne_none _
    · apply wp_mono (trimBlocks_exact (by omega) (BitVec.le_refl _) (.inr rfl) found_first)
      intro result discarded outcome
      exact outcome.1 (by omega)

/-- 16 TiB in blocks of 4 KiB: no number of rounds is enough. -/
theorem endless_at_largest_count :
    ¬Ends { sFirstDataBlock := 0, sBlocksCount := 4294967295, hasBlockMap := true } fun _ => false :=
  not_ends_of_largest rfl

end NodeExt2fs.Trim
