import NodeExt2fs.Construction.Glue.Times

/-!
This file runs the functions that stamp an inode with the local inode that they declare.
-/

namespace NodeExt2fs.Glue

/-- A local `struct ext2_inode_large` with what its place on the stack holds, whether it has been set,
and whether it was read before that. -/
structure LocalInode where
  inode : InodeLarge
  isSet : Bool
  readUnset : Bool

/-- The local inode after its declaration. -/
def LocalInode.declared (memory : InodeLarge) : LocalInode where
  inode := memory
  isSet := false
  readUnset := false

def LocalInode.fill (place : LocalInode) (inode : InodeLarge) : LocalInode :=
  { place with inode := inode, isSet := true }

/-- A change that reads the local inode. -/
def LocalInode.change (place : LocalInode) (change : InodeLarge → InodeLarge) : LocalInode :=
  { place with inode := change place.inode, readUnset := place.readUnset || !place.isSet }

@[simp] theorem LocalInode.inode_fill (place : LocalInode) (inode : InodeLarge) :
    (place.fill inode).inode = inode := rfl

@[simp] theorem LocalInode.inode_change (place : LocalInode) (change : InodeLarge → InodeLarge) :
    (place.change change).inode = change place.inode := rfl

def InodeLarge.incrementVersion (inode : InodeLarge) : InodeLarge :=
  { inode with toInode := Glue.incrementVersion inode.toInode }

/-- `update_ctime`, as far as the local inode goes: the result has the status, the inode buffer and the
local inode at the end. -/
def updateCtimeLocal (memory : InodeLarge) (ino : Ino) (pinode : Option InodeLarge) :
    Routine (Int × InodeLarge × LocalInode) := do
  let place := LocalInode.declared memory
  let now ← getNow
  match pinode with
  | some pinode =>
      let place := place.change InodeLarge.incrementVersion
      return (0, ext4InodeSetXtime .iCtime now pinode, place)
  | none =>
      -- The library fills the local inode, which `memset` has cleared.
      let (err, inode) ← ext2fsReadInodeFull ino
      let place := place.fill inode
      if err ≠ 0 then
        return (← translateError err, place.inode, place)
      let place := place.change InodeLarge.incrementVersion
      let place := place.change (ext4InodeSetXtime .iCtime now)
      let err ← ext2fsWriteInodeFull ino place.inode
      if err ≠ 0 then
        return (← translateError err, place.inode, place)
      return (0, place.inode, place)

/-- `update_mtime`, in the same way. -/
def updateMtimeLocal (memory : InodeLarge) (ino : Ino) (pinode : Option InodeLarge) :
    Routine (Int × InodeLarge × LocalInode) := do
  let place := LocalInode.declared memory
  match pinode with
  | some pinode =>
      let now ← getNow
      let pinode := ext4InodeSetXtime .iMtime now pinode
      let pinode := ext4InodeSetXtime .iCtime now pinode
      return (0, pinode.incrementVersion, place)
  | none =>
      let (err, inode) ← ext2fsReadInodeFull ino
      let place := place.fill inode
      if err ≠ 0 then
        return (← translateError err, place.inode, place)
      let now ← getNow
      let place := place.change (ext4InodeSetXtime .iMtime now)
      let place := place.change (ext4InodeSetXtime .iCtime now)
      let place := place.change InodeLarge.incrementVersion
      let err ← ext2fsWriteInodeFull ino place.inode
      if err ≠ 0 then
        return (← translateError err, place.inode, place)
      return (0, place.inode, place)

/-- The status and the buffer do not depend on what the stack holds. -/
theorem updateCtimeLocal_eq (memory : InodeLarge) (ino : Ino) (pinode : Option InodeLarge) :
    (fun result => (result.1, result.2.1)) <$> updateCtimeLocal memory ino pinode =
      updateCtime ino pinode := by
  unfold updateCtimeLocal updateCtime
  rw [map_bind]
  apply bind_congr
  intro now
  cases pinode with
  | some pinode => rfl
  | none =>
      rw [map_bind]
      apply bind_congr
      intro answer
      by_cases failed : answer.1 ≠ 0
      · simp [failed]
      · simp only [failed, if_false]
        rw [map_bind]
        apply bind_congr
        intro code
        by_cases failed : code ≠ 0
        · simp [failed, InodeLarge.incrementVersion]
        · simp [failed, InodeLarge.incrementVersion]

theorem updateMtimeLocal_eq (memory : InodeLarge) (ino : Ino) (pinode : Option InodeLarge) :
    (fun result => (result.1, result.2.1)) <$> updateMtimeLocal memory ino pinode =
      updateMtime ino pinode := by
  unfold updateMtimeLocal updateMtime
  cases pinode with
  | some pinode =>
      dsimp only
      rw [map_bind]
      rfl
  | none =>
      rw [map_bind]
      apply bind_congr
      intro answer
      by_cases failed : answer.1 ≠ 0
      · simp [failed]
      · simp only [failed, if_false]
        rw [map_bind]
        apply bind_congr
        intro now
        rw [map_bind]
        apply bind_congr
        intro code
        by_cases failed : code ≠ 0
        · simp [failed, InodeLarge.incrementVersion]
        · simp [failed, InodeLarge.incrementVersion]

end NodeExt2fs.Glue
