import NodeExt2fs.Construction.Glue.Trim
import NodeExt2fs.Construction.Library.Reference
import NodeExt2fs.Structures.Runs

/-!
This file states what a trim sees of the blocks of the filesystem, and records what it discards.
-/

namespace NodeExt2fs.Library
open Programs Structures Glue

/-- A free block among those that the superblock counts. -/
def FreeBlock (range : BlockRange) (used : BitVec 32 → Bool) (block : Nat) : Prop :=
  range.sFirstDataBlock.toNat ≤ block ∧ block < range.sBlocksCount.toNat ∧
    used (BitVec.ofNat 32 block) = false

/-- The superblock and the bitmap answer as they are, and a discard adds its range when it succeeds.
A steady disk fails no discard. -/
def blockEffect (range : BlockRange) (used : BitVec 32 → Bool) (steady : Prop) (discarded : List Run) :
    (call : Call) → Answer call → List Run → Prop
  | .loadBlockRange, answer, discarded' => answer = range ∧ discarded' = discarded
  | .testBlockBitmap blk, answer, discarded' => answer = used blk ∧ discarded' = discarded
  | .ioChannelDiscard block count, code, discarded' =>
      (steady → code = 0) ∧ discarded' =
        if code = 0 then discarded ++ [(block.toNat, block.toNat + count.toNat)] else discarded
  | _, _, discarded' => discarded' = discarded

/-- The blocks that the bitmap and the disk can be asked for. -/
def WithinRange (range : BlockRange) : Call → Prop
  | .testBlockBitmap blk =>
      range.sFirstDataBlock.toNat ≤ blk.toNat ∧ blk.toNat < range.sBlocksCount.toNat
  | .ioChannelDiscard block count =>
      range.sFirstDataBlock.toNat ≤ block.toNat ∧
        block.toNat + count.toNat ≤ range.sBlocksCount.toNat
  | _ => True

/-- The contract of the blocks. Where it is guarded, no other block may be asked for. -/
def blocks (range : BlockRange) (used : BitVec 32 → Bool) (steady guarded : Prop) :
    Contract Call Answer (List Run) where
  permits _ call := guarded → WithinRange range call
  allows := blockEffect range used steady

/-- A discard takes only blocks that the bitmap calls free. Unless the count is the largest number, it
takes the next range of free blocks as a whole. -/
def Sparing (range : BlockRange) (used : BitVec 32 → Bool) (discarded : List Run) : Call → Prop
  | .ioChannelDiscard block count =>
      block.toNat + count.toNat ≤ range.sBlocksCount.toNat ∧
        (∀ number, block.toNat ≤ number → number < block.toNat + count.toNat →
          used (BitVec.ofNat 32 number) = false) ∧
        (range.sBlocksCount.toNat ≠ 2 ^ 32 - 1 →
          NextRun (FreeBlock range used) discarded (block.toNat, block.toNat + count.toNat))
  | _ => True

/-- The contract of blocks of which those in use are to be spared. Any discard may fail. -/
def sparing (range : BlockRange) (used : BitVec 32 → Bool) : Contract Call Answer (List Run) where
  permits := Sparing range used
  allows := blockEffect range used False

/-- A library in memory that discards what it is asked for. -/
def bitmapInMemory (range : BlockRange) (used : BitVec 32 → Bool) : Handler Call Answer (List Run)
  | .loadBlockRange, discarded => (range, discarded)
  | .testBlockBitmap blk, discarded => (used blk, discarded)
  | .ioChannelDiscard block count, discarded =>
      ((0 : Errcode), discarded ++ [(block.toNat, block.toNat + count.toNat)])
  | call, discarded => ((reference call (Volume.holding [])).1, discarded)

theorem bitmapInMemory_honours (range : BlockRange) (used : BitVec 32 → Bool) (steady guarded : Prop) :
    (blocks range used steady guarded).Honoured (bitmapInMemory range used) id := by
  intro call discarded
  cases call with
  | loadBlockRange => exact ⟨rfl, rfl⟩
  | testBlockBitmap blk => exact ⟨rfl, rfl⟩
  | ioChannelDiscard block count => exact ⟨fun _ => rfl, rfl⟩
  | _ => rfl

end NodeExt2fs.Library
