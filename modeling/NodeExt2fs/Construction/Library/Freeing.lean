import NodeExt2fs.Construction.Glue.Removal
import NodeExt2fs.Construction.Library.Reference

/-!
This file follows one inode through `remove_inode` on a disk whose calls fail.
-/

namespace NodeExt2fs.Library
open Programs Glue

/-- What is left of an inode: the stored count and deletion time, whether its bit in the bitmap is
released, and whether it has no blocks any more. -/
structure Remains where
  links : BitVec 16
  dtime : BitVec 32
  released : Bool
  punched : Bool
  deriving DecidableEq

def Remains.storing (remains : Remains) (inode : Inode) : Remains :=
  { remains with links := inode.iLinksCount, dtime := inode.iDtime }

/-- The codes of the four calls that can fail, and what else the library decides: whether an inode
without blocks counts as one that can have some, whether `ext2fs_punch` stores the inode that it is
given, and what the clock reads. -/
structure Troubles where
  read : Errcode
  freeExtAttr : Errcode
  punch : Errcode
  write : Errcode
  validBlocks : Bool
  punchStores : Bool
  now : BitVec 64

/-- What libext2fs does with the inode. A call with a code other than zero does not do its work, but a
punch that fails may have stored the inode. -/
def freeing (ino : Ino) (troubles : Troubles) : Contract Call Answer Remains where
  permits _ _ := True
  allows state call answer state' :=
    match call, answer with
    | .readInodeFull target, answer =>
        state' = state ∧ (target = ino → answer.1 = troubles.read ∧
          (answer.1 = 0 → answer.2.iLinksCount = state.links ∧ answer.2.iDtime = state.dtime))
    | .freeExtAttr target inode, answer =>
        state' = state ∧ answer.2.iLinksCount = inode.iLinksCount ∧ answer.2.iDtime = inode.iDtime ∧
          (target = ino → answer.1 = troubles.freeExtAttr)
    | .inodeHasValidBlocks _, answer =>
        state' = state ∧ answer = (troubles.validBlocks || !state.punched)
    | .punch target inode, answer =>
        answer.2.iLinksCount = inode.iLinksCount ∧ answer.2.iDtime = inode.iDtime ∧
          (target = ino → answer.1 = troubles.punch) ∧
          state' = if target = ino then
            { (if troubles.punchStores then state.storing inode else state) with
              punched := state.punched || answer.1 == 0 }
          else state
    | .inodeAllocStats target inuse _, _ =>
        state' = if target = ino ∧ inuse < 0 then { state with released := true } else state
    | .writeInodeFull target inode, code =>
        (target = ino → code = troubles.write) ∧
          state' = if target = ino ∧ code = 0 then state.storing inode.toInode else state
    | .time, answer => state' = state ∧ answer = troubles.now
    | _, _ => state' = state

/-- A library in memory with one inode and the given troubles. -/
def troubled (ino : Ino) (troubles : Troubles) : Handler Call Answer Remains
  | .readInodeFull _, state =>
      let inode := { Inode.zero with iLinksCount := state.links, iDtime := state.dtime }
      ((troubles.read, { inode with
        iExtraIsize := 0, iCtimeExtra := 0, iMtimeExtra := 0, iAtimeExtra := 0 }), state)
  | .freeExtAttr _ inode, state => ((troubles.freeExtAttr, inode), state)
  | .inodeHasValidBlocks _, state => (troubles.validBlocks || !state.punched, state)
  | .punch target inode, state =>
      ((troubles.punch, inode), if target = ino then
        { (if troubles.punchStores then state.storing inode else state) with
          punched := state.punched || troubles.punch == 0 }
      else state)
  | .inodeAllocStats target inuse _, state =>
      ((), if target = ino ∧ inuse < 0 then { state with released := true } else state)
  | .writeInodeFull target inode, state =>
      (troubles.write, if target = ino ∧ troubles.write = 0 then state.storing inode.toInode else state)
  | .time, state => (troubles.now, state)
  | .clockGettime, state => ((0, { tvSec := troubles.now, tvNsec := 0 }), state)
  | call, state => ((reference call (Volume.holding [])).1, state)

theorem troubled_honours (ino : Ino) (troubles : Troubles) :
    (freeing ino troubles).Honoured (troubled ino troubles) id := by
  intro call state
  cases call with
  | readInodeFull target => exact ⟨rfl, fun _ => ⟨rfl, fun _ => ⟨rfl, rfl⟩⟩⟩
  | freeExtAttr target inode => exact ⟨rfl, rfl, rfl, fun _ => rfl⟩
  | inodeHasValidBlocks inode => exact ⟨rfl, rfl⟩
  | punch target inode => exact ⟨rfl, rfl, fun _ => rfl, rfl⟩
  | inodeAllocStats target inuse isdir => rfl
  | writeInodeFull target inode => exact ⟨fun _ => rfl, rfl⟩
  | time => exact ⟨rfl, rfl⟩
  | _ => rfl

end NodeExt2fs.Library
