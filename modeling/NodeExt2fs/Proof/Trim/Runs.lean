import NodeExt2fs.Construction.Library.Blocks

/-!
This file finds the ranges that a trim discards.
-/

namespace NodeExt2fs.Trim
open Programs Structures Glue Library
open Program (wp wp_pure wp_bind wp_ite wp_mono)

variable {range : BlockRange} {used : BitVec 32 → Bool} {steady guarded : Prop} {discarded : List Run}

theorem wp_loadBlockRange {post : BlockRange → List Run → Prop} (rest : post range discarded) :
    wp (blocks range used steady guarded) loadBlockRange post discarded := by
  refine ⟨fun _ => trivial, ?_⟩
  intro answer discarded' allowed
  obtain ⟨answered, same⟩ := allowed
  rw [answered, same]
  exact rest

theorem wp_readBlockBitmap {post : Errcode → List Run → Prop} (rest : ∀ code, post code discarded) :
    wp (blocks range used steady guarded) ext2fsReadBlockBitmap post discarded := by
  refine ⟨fun _ => trivial, ?_⟩
  intro code discarded' same
  rw [show discarded' = discarded from same]
  exact rest code

/-- A failure is no success in the other sign. -/
theorem failing_status {code : Errcode} (failed : code ≠ 0) : some (-(code : Int)) ≠ some 0 := by
  intro ended
  exact failed (Int.ofNat_eq_zero.mp (Int.neg_eq_zero.mp (Option.some.inj ended)))

/-- The bitmap is asked for each block before the last round. -/
theorem wp_lastOrUsed {blk : BitVec 32}
    (inside : guarded → range.sFirstDataBlock.toNat ≤ blk.toNat ∧ blk.toNat ≤ range.sBlocksCount.toNat)
    {post : Bool → List Run → Prop}
    (rest : post (decide (blk = range.sBlocksCount) || used blk) discarded) :
    wp (blocks range used steady guarded) (lastOrUsed range.sBlocksCount blk) post discarded := by
  rw [lastOrUsed, wp_ite]
  apply And.intro
  · intro last
    rw [decide_eq_true last, Bool.true_or] at rest
    exact rest
  · intro inner
    rw [decide_eq_false inner, Bool.false_or] at rest
    have other : blk.toNat ≠ range.sBlocksCount.toNat := fun same => inner (BitVec.eq_of_toNat_eq same)
    refine ⟨fun guard => ⟨(inside guard).1, Nat.lt_of_le_of_ne (inside guard).2 other⟩, ?_⟩
    intro answer discarded' allowed
    obtain ⟨answered, same⟩ := allowed
    rw [answered, same]
    exact rest

/-- The range of one discard. -/
theorem discard_range {start blk : BitVec 32} (some : start < blk) :
    (start.setWidth 64).toNat = start.toNat ∧
      (start.setWidth 64).toNat + ((blk - start).setWidth 64).toNat = blk.toNat := by
  have ordered : start.toNat < blk.toNat := some
  have small := blk.isLt
  have gap : (blk - start).toNat = blk.toNat - start.toNat := BitVec.toNat_sub_of_le ordered.le
  rw [BitVec.toNat_setWidth, BitVec.toNat_setWidth, gap, Nat.mod_eq_of_lt (by omega),
    Nat.mod_eq_of_lt (by omega)]
  exact ⟨rfl, Nat.add_sub_cancel' ordered.le⟩

/-- A discard that succeeds closes the run at hand. -/
theorem wp_discardBefore {start blk : BitVec 32}
    (inside : guarded → range.sFirstDataBlock.toNat ≤ start.toNat ∧
      blk.toNat ≤ range.sBlocksCount.toNat) {post : Errcode → List Run → Prop}
    (fine : post 0 (Scan.closing discarded start.toNat blk.toNat))
    (failed : ∀ code, code ≠ 0 → post code discarded) :
    wp (blocks range used steady guarded) (discardBefore start blk) post discarded := by
  rw [discardBefore, wp_ite]
  unfold Scan.closing at fine
  apply And.intro
  · intro some
    obtain ⟨first, last⟩ := discard_range some
    rw [if_pos (BitVec.lt_def.mp some)] at fine
    refine ⟨fun guard => ?_, ?_⟩
    · change _ ≤ (start.setWidth 64).toNat ∧ (start.setWidth 64).toNat + _ ≤ _
      rw [last, first]
      exact inside guard
    · intro code discarded' allowed
      rw [allowed.2]
      by_cases zero : code = 0
      · rw [if_pos zero, last, first, zero]
        exact fine
      · rw [if_neg zero]
        exact failed code zero
  · intro none
    rw [if_neg (fun some => none (BitVec.lt_def.mpr some))] at fine
    exact fine

/-- The ranges are exactly the free ones, and each free block is in one of them. -/
def ExactRuns (range : BlockRange) (used : BitVec 32 → Bool) (discarded : List Run) : Prop :=
  Ascending discarded ∧ (∀ run, run ∈ discarded ↔ MaximalRun (FreeBlock range used) run) ∧
    ∀ block, FreeBlock range used block ↔ ∃ run ∈ discarded, run.1 ≤ block ∧ block < run.2

/-- The runs of the free blocks are found up to the next block. -/
abbrev Found (range : BlockRange) (used : BitVec 32 → Bool) (start blk : BitVec 32)
    (discarded : List Run) : Prop :=
  Scan (FreeBlock range used) start.toNat blk.toNat discarded

/-- A block of the range is free where the bitmap says so, and the end of the range is not. -/
theorem freeBlock_iff {blk : BitVec 32} (lower : range.sFirstDataBlock ≤ blk)
    (upper : blk ≤ range.sBlocksCount) :
    FreeBlock range used blk.toNat ↔ (decide (blk = range.sBlocksCount) || used blk) = false := by
  have below : blk.toNat ≤ range.sBlocksCount.toNat := upper
  have apart : blk.toNat < range.sBlocksCount.toNat ↔ ¬blk = range.sBlocksCount := by
    rw [← BitVec.toNat_inj]
    omega
  rw [FreeBlock, BitVec.ofNat_toNat, BitVec.setWidth_eq, Bool.or_eq_false_iff, decide_eq_false_iff_not,
    apart]
  exact and_iff_right lower

/-- Behind the last block, what has been found is all. -/
theorem exactRuns_of_found {start : BitVec 32} (found : Found range used start start discarded)
    (behind : ¬start ≤ range.sBlocksCount) : ExactRuns range used discarded := by
  apply found.complete
  intro block above free
  have last : range.sBlocksCount.toNat < start.toNat := Nat.not_le.mp behind
  have small := free.2.1
  omega

/-- With a count below the largest number the loop ends, and the runs are exact if it succeeds. -/
theorem trimBlocks_exact (short : range.sBlocksCount.toNat + 1 < 2 ^ 32) {rounds : Nat}
    {start blk : BitVec 32} (lower : range.sFirstDataBlock ≤ start)
    (upper : blk ≤ range.sBlocksCount ∨ start = blk) (found : Found range used start blk discarded) :
    wp (blocks range used steady guarded) (trimBlocks range.sBlocksCount rounds start blk)
      (fun result discarded' => (range.sBlocksCount.toNat + 1 - blk.toNat < rounds → result ≠ none) ∧
        (result = some 0 → ExactRuns range used discarded')) discarded := by
  induction rounds generalizing start blk discarded with
  | zero => exact ⟨fun enough => absurd enough (Nat.not_lt_zero _), fun ended => nomatch ended⟩
  | succ rounds ih =>
      rw [trimBlocks, wp_ite]
      apply And.intro
      · intro inside
        have below : blk.toNat ≤ range.sBlocksCount.toNat := inside
        have first : range.sFirstDataBlock.toNat ≤ start.toNat := lower
        have ordered := found.ordered
        have next : (blk + 1).toNat = blk.toNat + 1 := by
          rw [BitVec.toNat_add, show BitVec.toNat (1 : BitVec 32) = 1 from rfl,
            Nat.mod_eq_of_lt (by omega)]
        have counted : range.sBlocksCount.toNat + 1 - blk.toNat < rounds + 1 ↔
            range.sBlocksCount.toNat + 1 - (blk + 1).toNat < rounds := by omega
        have free := @freeBlock_iff range used blk (BitVec.le_def.mpr (first.trans ordered)) inside
        rw [wp_bind, counted]
        apply wp_lastOrUsed (fun _ => ⟨first.trans ordered, below⟩)
        rw [wp_ite]
        apply And.intro
        · intro stops
          have ends : ¬FreeBlock range used blk.toNat := by
            rw [free, stops]
            exact Bool.noConfusion
          rw [wp_bind]
          apply wp_discardBefore (fun _ => ⟨first, below⟩)
          · rw [if_neg (not_not.mpr rfl)]
            apply ih
            · rw [BitVec.le_def, next]
              omega
            · exact .inr rfl
            · have closed := found.close ends
              rw [← next] at closed
              exact closed
          · intro code failed
            rw [if_pos failed]
            refine ⟨fun _ => Option.some_ne_none _, ?_⟩
            intro ended
            exact absurd ended (failing_status failed)
        · intro goes
          have holding := free.mpr (Bool.eq_false_of_not_eq_true goes)
          have inner := holding.2.1
          apply ih lower
          · left
            rw [BitVec.le_def, next]
            exact inner
          · have extended := found.extend holding
            rw [← next] at extended
            exact extended
      · intro behind
        have same := upper.resolve_left behind
        rw [same] at found
        exact ⟨fun _ => Option.some_ne_none _, fun _ => exactRuns_of_found found behind⟩

/-- A count of the largest number is never passed, so the loop has no good end. -/
theorem trimBlocks_largest (largest : range.sBlocksCount.toNat + 1 = 2 ^ 32) {rounds : Nat}
    {start blk : BitVec 32} :
    wp (blocks range used steady False) (trimBlocks range.sBlocksCount rounds start blk)
      (fun result _ => result ≠ some 0) discarded := by
  induction rounds generalizing start blk discarded with
  | zero => exact nofun
  | succ rounds ih =>
      have inside : blk ≤ range.sBlocksCount := by
        have small := blk.isLt
        rw [BitVec.le_def]
        omega
      rw [trimBlocks, if_pos inside, wp_bind]
      apply wp_lastOrUsed False.elim
      rw [wp_ite]
      refine ⟨fun _ => ?_, fun _ => ih⟩
      rw [wp_bind]
      apply wp_discardBefore False.elim
      · rw [if_neg (not_not.mpr rfl)]
        exact ih
      · intro code failed
        rw [if_pos failed]
        exact failing_status failed

/-- The loop of a trim runs after the superblock and the bitmap are there. -/
theorem wp_nodeExt2fsTrim {rounds : Nat} {post : Option Int → List Run → Prop}
    (failed : ∀ code : Errcode, code ≠ 0 → post (some (-(code : Int))) discarded)
    (rest : wp (blocks range used steady guarded)
      (trimBlocks range.sBlocksCount rounds range.sFirstDataBlock range.sFirstDataBlock) post discarded) :
    wp (blocks range used steady guarded) (nodeExt2fsTrim rounds) post discarded := by
  rw [nodeExt2fsTrim, wp_bind]
  apply wp_loadBlockRange
  rw [wp_ite]
  refine ⟨fun _ => ?_, fun _ => rest⟩
  rw [wp_bind]
  apply wp_readBlockBitmap
  intro code
  rw [wp_ite]
  exact ⟨failed code, fun _ => rest⟩

/-- Before the first block, nothing has been found. -/
theorem found_first : Found range used range.sFirstDataBlock range.sFirstDataBlock [] :=
  .first fun _ before free => Nat.not_le.mpr before free.1

/-- Whatever the bitmap holds and the disk answers, a trim that returns 0 has discarded exactly the
maximal runs of free blocks. -/
theorem trim_discards_exactly (range : BlockRange) (used : BitVec 32 → Bool) (rounds : Nat) :
    wp (blocks range used False False) (nodeExt2fsTrim rounds)
      (fun result discarded => result = some 0 → ExactRuns range used discarded) [] := by
  apply wp_nodeExt2fsTrim
  · intro code failed ended
    exact absurd ended (failing_status failed)
  · have small := range.sBlocksCount.isLt
    by_cases largest : range.sBlocksCount.toNat + 1 = 2 ^ 32
    · apply wp_mono (trimBlocks_largest largest)
      intro result discarded other ended
      exact absurd ended other
    · apply wp_mono (trimBlocks_exact (by omega) (BitVec.le_refl _) (.inr rfl) found_first)
      exact fun _ _ outcome => outcome.2

/-- Blocks 1 to 6, of which the first and the fourth are in use. -/
example :
    let range : BlockRange := { sFirstDataBlock := 1, sBlocksCount := 7, hasBlockMap := false }
    let used := fun blk => decide (blk = 1 ∨ blk = 4)
    ∃ library, (blocks range used True True).Honoured library id ∧
      (nodeExt2fsTrim 8).run library [] = (some 0, [(2, 4), (5, 7)]) :=
  ⟨_, bitmapInMemory_honours _ _ _ _, by decide⟩

end NodeExt2fs.Trim
