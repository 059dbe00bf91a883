import NodeExt2fs.Construction.Library.Copies

/-!
This file states what libext2fs does with the owners of one inode.
-/

namespace NodeExt2fs.Library
open Programs Glue

/-- The 32-bit number of which an inode has the halves in two places. -/
def joinHalves (high low : BitVec 16) : Nat := high.toNat * 2 ^ 16 + low.toNat

/-- `l_i_uid_high` and `i_uid`. -/
def ownerOf (inode : Inode) : Nat := joinHalves inode.lIUidHigh inode.iUid

/-- `l_i_gid_high` and `i_gid`. -/
def groupOf (inode : Inode) : Nat := joinHalves inode.lIGidHigh inode.iGid

/-- One inode and its handles, on a filesystem with the given block size. A call that fails changes
nothing, and a steady library fails none. -/
def owning (ino : Ino) (blocksize : BitVec 32) (steady : Prop) : Contract Call Answer Copies where
  permits _ _ := True
  allows state call answer state' :=
    match call, answer with
    | .loadFile file, answer => state' = state ∧
        ∀ copy, state.copies file = some copy → answer = { ino := ino, inode := copy }
    | .storeFileInode file inode, _ =>
        state' = { state with copies := Function.update state.copies file (some inode) }
    | .readInode target, answer => state' = state ∧
        (target = ino → (steady → answer.1 = 0) ∧ (answer.1 = 0 → answer.2 = state.stored))
    | .writeInode target inode, code => target = ino → (steady → code = 0) ∧
        state' = if code = 0 then { state with stored := inode } else state
    | .loadBlocksize, answer => state' = state ∧ answer = blocksize
    | _, _ => True

/-- The library in memory, with the given block size. -/
def ownerLibrary (ino : Ino) (blocksize : BitVec 32) : Handler Call Answer Copies
  | .loadBlocksize, state => (blocksize, state)
  | call, state => oneInode ino 0 call state

end NodeExt2fs.Library
