import NodeExt2fs.Proof.Trim.Runs

/-!
This file follows each discard of a trim, also of one that fails.
-/

namespace NodeExt2fs.Trim
open Programs Structures Glue Library
open Program (wp wp_bind wp_ite wp_mono)

variable {range : BlockRange} {used : BitVec 32 → Bool} {discarded : List Run} {start blk : BitVec 32}

/-- The loop has seen no block in use since the start. Unless it may start again at block 0, it has found
the runs up to here. -/
structure Passed (range : BlockRange) (used : BitVec 32 → Bool) (start blk : BitVec 32)
    (discarded : List Run) : Prop where
  ordered : start.toNat ≤ blk.toNat
  unused : ∀ number, start.toNat ≤ number → number < blk.toNat → used (BitVec.ofNat 32 number) = false
  found : range.sBlocksCount.toNat ≠ 2 ^ 32 - 1 →
    range.sFirstDataBlock.toNat ≤ start.toNat ∧ Found range used start blk discarded

theorem next_toNat (inner : blk.toNat + 1 < 2 ^ 32) : (blk + 1).toNat = blk.toNat + 1 := by
  rw [BitVec.toNat_add, show BitVec.toNat (1 : BitVec 32) = 1 from rfl, Nat.mod_eq_of_lt inner]

/-- The runs so far, wherever the loop stops. -/
theorem Passed.firstRuns (passed : Passed range used start blk discarded)
    (short : range.sBlocksCount.toNat ≠ 2 ^ 32 - 1) : FirstRuns (FreeBlock range used) discarded :=
  (passed.found short).2.firstRuns

/-- A free block makes the run at hand longer. -/
theorem Passed.extend (passed : Passed range used start blk discarded)
    (inside : blk.toNat < range.sBlocksCount.toNat) (free : used blk = false) :
    Passed range used start (blk + 1) discarded := by
  have small := range.sBlocksCount.isLt
  have next := @next_toNat blk (by omega)
  refine ⟨?_, ?_, ?_⟩
  · rw [next]
    exact Nat.le_succ_of_le passed.ordered
  · intro number lower upper
    rw [next] at upper
    rcases Nat.lt_or_eq_of_le (Nat.le_of_lt_succ upper) with earlier | same
    · exact passed.unused number lower earlier
    · rw [same, BitVec.ofNat_toNat, BitVec.setWidth_eq]
      exact free
  · intro short
    obtain ⟨first, found⟩ := passed.found short
    refine ⟨first, ?_⟩
    have holding : FreeBlock range used blk.toNat := by
      refine ⟨first.trans passed.ordered, inside, ?_⟩
      rw [BitVec.ofNat_toNat, BitVec.setWidth_eq]
      exact free
    have extended := found.extend holding
    rw [← next] at extended
    exact extended

/-- The loop goes on behind a block that ends a run. Behind the largest number it starts again. -/
theorem Passed.close (passed : Passed range used start blk discarded)
    (inside : blk.toNat ≤ range.sBlocksCount.toNat) (ends : ¬FreeBlock range used blk.toNat) :
    Passed range used (blk + 1) (blk + 1) (Scan.closing discarded start.toNat blk.toNat) := by
  refine ⟨Nat.le_refl _, fun number lower upper => absurd lower (Nat.not_le.mpr upper), ?_⟩
  intro short
  obtain ⟨first, found⟩ := passed.found short
  have small := range.sBlocksCount.isLt
  have next := @next_toNat blk (by omega)
  have closed := found.close ends
  rw [← next] at closed
  refine ⟨?_, closed⟩
  rw [next]
  exact (first.trans passed.ordered).trans (Nat.le_succ _)

/-- Where a run ends, its discard is permitted, and it closes the run unless it fails. -/
theorem discardBefore_spares (passed : Passed range used start blk discarded)
    (inside : blk.toNat ≤ range.sBlocksCount.toNat) (ends : ¬FreeBlock range used blk.toNat) :
    wp (sparing range used) (discardBefore start blk) (fun code discarded' =>
      code = 0 ∧ discarded' = Scan.closing discarded start.toNat blk.toNat ∨
        code ≠ 0 ∧ discarded' = discarded) discarded := by
  rw [discardBefore, wp_ite, Scan.closing]
  apply And.intro
  · intro some
    obtain ⟨first, last⟩ := discard_range some
    rw [if_pos (BitVec.lt_def.mp some)]
    refine ⟨?_, ?_⟩
    · change (start.setWidth 64).toNat + _ ≤ _ ∧ _
      rw [last, first]
      refine ⟨inside, passed.unused, fun short => ?_⟩
      exact (passed.found short).2.nextRun ends (BitVec.lt_def.mp some)
    · intro code discarded' allowed
      rw [allowed.2, last, first]
      by_cases zero : code = 0
      · rw [if_pos zero]
        exact .inl ⟨zero, rfl⟩
      · rw [if_neg zero]
        exact .inr ⟨zero, rfl⟩
  · intro none
    rw [if_neg (fun some => none (BitVec.lt_def.mpr some))]
    exact .inl ⟨rfl, rfl⟩

/-- Any call but a discard is permitted, and records nothing. -/
theorem wp_asking (call : Call) (quiet : ∀ answer discarded',
      blockEffect range used False discarded call answer discarded' → discarded' = discarded)
    (permitted : Sparing range used discarded call) {post : Answer call → List Run → Prop}
    (rest : ∀ answer, blockEffect range used False discarded call answer discarded →
      post answer discarded) : wp (sparing range used) call.perform post discarded := by
  refine ⟨permitted, ?_⟩
  intro answer discarded' allowed
  have same := quiet answer discarded' allowed
  rw [same] at allowed ⊢
  exact rest answer allowed

/-- Whatever fails, and after any number of rounds, the loop has discarded the first runs. -/
theorem trimBlocks_spares {rounds : Nat} (passed : Passed range used start blk discarded)
    (upper : range.sBlocksCount.toNat ≠ 2 ^ 32 - 1 → blk ≤ range.sBlocksCount ∨ start = blk) :
    wp (sparing range used) (trimBlocks range.sBlocksCount rounds start blk)
      (fun _ discarded' => range.sBlocksCount.toNat ≠ 2 ^ 32 - 1 →
        FirstRuns (FreeBlock range used) discarded') discarded := by
  induction rounds generalizing start blk discarded with
  | zero => exact passed.firstRuns
  | succ rounds ih =>
      rw [trimBlocks, wp_ite]
      refine ⟨fun inside => ?_, fun _ => passed.firstRuns⟩
      have below : blk.toNat ≤ range.sBlocksCount.toNat := inside
      -- A block ends the run at hand when it is the last one or in use.
      have stopping (ends : ¬FreeBlock range used blk.toNat) : wp (sparing range used) (do
            let ret ← discardBefore start blk
            if ret ≠ 0 then
              return some (-(ret : Int))
            trimBlocks range.sBlocksCount rounds (blk + 1) (blk + 1))
          (fun _ discarded' => range.sBlocksCount.toNat ≠ 2 ^ 32 - 1 →
            FirstRuns (FreeBlock range used) discarded') discarded := by
        rw [wp_bind]
        apply wp_mono (discardBefore_spares passed below ends)
        intro code discarded' outcome
        rcases outcome with ⟨zero, closed⟩ | ⟨failed, same⟩
        · rw [if_neg (not_not.mpr zero), closed]
          exact ih (passed.close below ends) fun _ => .inr rfl
        · rw [if_pos failed, same]
          exact passed.firstRuns
      rw [wp_bind, lastOrUsed, wp_ite]
      refine ⟨fun last => ?_, fun inner => ?_⟩
      · apply stopping
        intro free
        have small := free.2.1
        rw [last] at small
        exact Nat.lt_irrefl _ small
      · have other : blk.toNat ≠ range.sBlocksCount.toNat := fun same => inner (BitVec.eq_of_toNat_eq same)
        apply wp_asking (.testBlockBitmap blk) (fun _ _ allowed => allowed.2) trivial
        intro stops allowed
        have stops_eq : stops = used blk := allowed.1
        cases kind : used blk with
        | true =>
            rw [stops_eq, kind]
            apply stopping
            intro free
            have unused := free.2.2
            rw [BitVec.ofNat_toNat, BitVec.setWidth_eq, kind] at unused
            cases unused
        | false =>
            rw [stops_eq, kind]
            have inside : blk.toNat < range.sBlocksCount.toNat := Nat.lt_of_le_of_ne below other
            apply ih (passed.extend inside kind)
            intro _
            left
            rw [BitVec.le_def, next_toNat (by have := range.sBlocksCount.isLt; omega)]
            exact inside

/-- Whatever the bitmap holds and the disk answers, a trim asks to discard only free blocks, range by
range, and wherever it stops it has discarded the first of the maximal runs. -/
theorem trim_spares_used (range : BlockRange) (used : BitVec 32 → Bool) (rounds : Nat) :
    wp (sparing range used) (nodeExt2fsTrim rounds) (fun _ discarded =>
      range.sBlocksCount.toNat ≠ 2 ^ 32 - 1 → FirstRuns (FreeBlock range used) discarded) [] := by
  have passed : Passed range used range.sFirstDataBlock range.sFirstDataBlock [] :=
    ⟨Nat.le_refl _, fun number lower upper => absurd lower (Nat.not_le.mpr upper),
      fun _ => ⟨Nat.le_refl _, found_first⟩⟩
  rw [nodeExt2fsTrim, wp_bind]
  apply wp_asking .loadBlockRange (fun _ _ allowed => allowed.2) trivial
  intro answer allowed
  rw [show answer = range from allowed.1, wp_ite]
  refine ⟨fun _ => ?_, fun _ => trimBlocks_spares passed fun _ => .inr rfl⟩
  rw [wp_bind]
  apply wp_asking .readBlockBitmap (fun _ _ allowed => allowed) trivial
  intro code _
  rw [wp_ite]
  exact ⟨fun _ => passed.firstRuns, fun _ => trimBlocks_spares passed fun _ => .inr rfl⟩

end NodeExt2fs.Trim
