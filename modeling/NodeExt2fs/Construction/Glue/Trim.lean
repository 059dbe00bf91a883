import NodeExt2fs.Construction.Glue.Calls

/-!
This file discards the free blocks of the filesystem.
-/

namespace NodeExt2fs.Glue

/-- "Check for either the last iteration or a used block". -/
def lastOrUsed (count blk : BitVec 32) : Routine Bool :=
  if blk = count then return true else ext2fsTestBlockBitmap blk

/-- The blocks from the start are discarded, if there are any. -/
def discardBefore (start blk : BitVec 32) : Routine Errcode :=
  if start < blk then ioChannelDiscard (start.setWidth 64) ((blk - start).setWidth 64) else return 0

/-- The loop of `node_ext2fs_trim`, for at most the given number of rounds. -/
def trimBlocks (count : BitVec 32) : Nat → BitVec 32 → BitVec 32 → Routine (Option Int)
  | 0, _, _ => return none
  | rounds + 1, start, blk =>
      if blk ≤ count then do
        if ← lastOrUsed count blk then
          let ret ← discardBefore start blk
          if ret ≠ 0 then
            return some (-ret)
          trimBlocks count rounds (blk + 1) (blk + 1)
        else
          trimBlocks count rounds start (blk + 1)
      else
        return some 0

/-- The status, when the loop ends within the given number of rounds. -/
def nodeExt2fsTrim (rounds : Nat) : Routine (Option Int) := do
  let range ← loadBlockRange
  if !range.hasBlockMap then
    let ret ← ext2fsReadBlockBitmap
    if ret ≠ 0 then
      return some (-ret)
  trimBlocks range.sBlocksCount rounds range.sFirstDataBlock range.sFirstDataBlock

end NodeExt2fs.Glue
