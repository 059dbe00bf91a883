import NodeExt2fs.Construction.Glue.Files
import NodeExt2fs.Construction.Glue.Locals
import NodeExt2fs.Construction.Library.Reference

/-!
This file follows one stored inode, with its extra fields, while its times are stamped.
-/

namespace NodeExt2fs.Library
open Programs Glue

/-- What libext2fs does with the stored inode while `get_now` reads `now`. The calls on 128 bytes leave
the extra fields, a call that fails writes no inode, and every open handle is one of the inode. -/
def inodeStore (ino : Ino) (now : Timespec) : Contract Call Answer InodeLarge where
  permits _ _ := True
  allows state call answer state' :=
    match call, answer with
    | .readInode target, answer =>
        state' = state ∧ (target = ino → answer.1 = 0 → answer.2 = state.toInode)
    | .writeInode target inode, code =>
        state' = if target = ino ∧ code = 0 then { state with toInode := inode } else state
    | .readInodeFull target, answer =>
        state' = state ∧ (target = ino → answer.1 = 0 → answer.2 = state)
    | .writeInodeFull target inode, code =>
        state' = if target = ino ∧ code = 0 then inode else state
    | .loadFile _, answer => state' = state ∧ answer.ino = ino
    | .clockGettime, answer =>
        state' = state ∧ (answer.1 = 0 → answer.2 = now) ∧ (answer.1 ≠ 0 → now.tvNsec = 0)
    | .time, answer => state' = state ∧ answer = now.tvSec
    | _, _ => state' = state

/-- The functions that stamp an inode, in a buffer or on the disk. -/
inductive UpdateFunction where
  | updateCtime
  | updateMtime
  deriving DecidableEq

def UpdateFunction.call (function : UpdateFunction) (memory : InodeLarge) (ino : Ino)
    (pinode : Option InodeLarge) : Routine (Int × InodeLarge × LocalInode) :=
  match function with
  | .updateCtime => updateCtimeLocal memory ino pinode
  | .updateMtime => updateMtimeLocal memory ino pinode

/-- An update of an inode: the clock, and what the stack holds where the function has its local inode. -/
structure InodeUpdate where
  function : UpdateFunction
  buffered : Bool
  now : Timespec
  memory : InodeLarge

/-- The update of a buffer, which is written back. The result has the status, and whether the function
reads its local inode before it is set. -/
def InodeUpdate.writeBack (update : InodeUpdate) (ino : Ino) (inode : InodeLarge) :
    Routine (Int × Bool) := do
  let (ret, inode, place) ← update.function.call update.memory ino (some inode)
  if ret ≠ 0 then
    return (ret, place.readUnset)
  let err ← ext2fsWriteInodeFull ino inode
  if err ≠ 0 then
    return (← translateError err, place.readUnset)
  return (0, place.readUnset)

def InodeUpdate.onBuffer (update : InodeUpdate) (ino : Ino) : Routine (Int × Bool) := do
  let (err, inode) ← ext2fsReadInodeFull ino
  if err ≠ 0 then
    return (← translateError err, false)
  update.writeBack ino inode

def InodeUpdate.onDisk (update : InodeUpdate) (ino : Ino) : Routine (Int × Bool) := do
  let (ret, _, place) ← update.function.call update.memory ino none
  return (ret, place.readUnset)

def InodeUpdate.routine (update : InodeUpdate) (ino : Ino) : Routine (Int × Bool) :=
  if update.buffered then update.onBuffer ino else update.onDisk ino

/-- A run has updates, between which anything can happen to the disk. -/
inductive InodeStep (Hidden : Type) where
  | stamp (update : InodeUpdate)
  | others (after : Hidden)

def InodeStep.step {Hidden : Type} (ino : Ino) (library : Timespec → Handler Call Answer Hidden)
    (hidden : Hidden) : InodeStep Hidden → Option Hidden
  | .stamp update => some ((update.routine ino).run (library update.now) hidden).2
  | .others after => some after

/-- A library in memory with one inode. -/
def singleInode (ino : Ino) (now : Timespec) : Handler Call Answer InodeLarge
  | .readInode _, state => ((0, state.toInode), state)
  | .readInodeFull _, state => ((0, state), state)
  | .writeInode target inode, state =>
      if target = ino then (0, { state with toInode := inode }) else Prod.mk EIO state
  | .writeInodeFull target inode, state => if target = ino then (0, inode) else Prod.mk EIO state
  | .loadFile _, state => ({ ino := ino, inode := Inode.zero }, state)
  | .clockGettime, state => ((0, now), state)
  | .time, state => (now.tvSec, state)
  | call, state => ((reference call (Volume.holding [])).1, state)

/-- The library in memory does with its inode what libext2fs does. -/
theorem singleInode_honours (ino : Ino) (now : Timespec) :
    (inodeStore ino now).Honoured (singleInode ino now) id := by
  intro call state
  cases call with
  | readInode target => exact ⟨rfl, fun _ _ => rfl⟩
  | readInodeFull target => exact ⟨rfl, fun _ _ => rfl⟩
  | writeInode target inode =>
      by_cases here : target = ino
      · simp [inodeStore, singleInode, here]
      · simp [inodeStore, singleInode, here]
  | writeInodeFull target inode =>
      by_cases here : target = ino
      · simp [inodeStore, singleInode, here]
      · simp [inodeStore, singleInode, here]
  | loadFile file => exact ⟨rfl, rfl⟩
  | clockGettime => exact ⟨rfl, fun _ => rfl, fun failed => absurd rfl failed⟩
  | time => exact ⟨rfl, rfl⟩
  | _ => rfl

end NodeExt2fs.Library
