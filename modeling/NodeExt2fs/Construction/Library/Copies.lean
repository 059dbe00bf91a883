import NodeExt2fs.Construction.Glue.Inspection
import NodeExt2fs.Construction.Library.Reference

/-!
This file follows one inode, and the copies of it that the open handles have.
-/

namespace NodeExt2fs.Library
open Programs Glue

/-- What the operations on an open file store in an inode and `fstat` reports. -/
structure Attributes where
  mode : BitVec 16
  uid : BitVec 16
  gid : BitVec 16
  atime : BitVec 32
  ctime : BitVec 32
  mtime : BitVec 32
  deriving DecidableEq

def attributesOf (inode : Inode) : Attributes where
  mode := inode.iMode
  uid := inode.iUid
  gid := inode.iGid
  atime := inode.iAtime
  ctime := inode.iCtime
  mtime := inode.iMtime

/-- The number that an accessor reports for the attributes. It reports none of the other fields. -/
def Attributes.reported (attributes : Attributes) : InodeStat → Option Int
  | .iMode => some (attributes.mode.setWidth 32).toInt
  | .iUid => some (attributes.uid.setWidth 32).toInt
  | .iGid => some (attributes.gid.setWidth 32).toInt
  | .iAtime => some attributes.atime.toInt
  | .iCtime => some attributes.ctime.toInt
  | .iMtime => some attributes.mtime.toInt
  | .ino | .iLinksCount | .iSize | .iBlocks | .blocksize => none

/-- The operations that store attributes. -/
inductive AttributeOperation where
  | chmod (mode : BitVec 32)
  | chown (uid gid : BitVec 32)
  | updateXtime (a c m : Bool)
  deriving DecidableEq

def AttributeOperation.routine (file : Ptr) : AttributeOperation → Routine Int
  | .chmod mode => nodeExt2fsChmod file mode
  | .chown uid gid => nodeExt2fsChown file uid gid
  | .updateXtime a c m => (fun err : Errcode => (err : Int)) <$> Glue.updateXtime file a c m

/-- The attributes that an operation is meant to store. The type of a file stays. -/
def AttributeOperation.stores (now : BitVec 32) (attributes : Attributes) :
    AttributeOperation → Attributes
  | .chmod mode =>
      { attributes with
        mode := attributes.mode &&& LINUX_S_IFMT ||| (mode.setWidth 16 &&& ~~~LINUX_S_IFMT) }
  | .chown uid gid => { attributes with uid := uid.setWidth 16, gid := gid.setWidth 16 }
  | .updateXtime a c m =>
      { attributes with
        atime := if a then now else attributes.atime
        ctime := if c then now else attributes.ctime
        mtime := if m then now else attributes.mtime }

/-- An inode on the disk, and in the handles that are open on it. -/
structure Copies where
  stored : Inode
  copies : Ptr → Option Inode

/-- A handle was opened when the inode was as it is now. -/
def Copies.Fresh (state : Copies) : Prop :=
  ∀ file copy, state.copies file = some copy → copy = state.stored

/-- What libext2fs does with the inode while the clock reads `now`. -/
def copying (ino : Ino) (now : BitVec 32) : Contract Call Answer Copies where
  permits _ _ := True
  allows state call answer state' :=
    match call, answer with
    | .loadFile file, answer => state' = state ∧
        ∀ copy, state.copies file = some copy → answer = { ino := ino, inode := copy }
    | .storeFileInode file inode, _ =>
        state' = { state with copies := Function.update state.copies file (some inode) }
    | .readInode target, answer => state' = state ∧ (target = ino → answer = (0, state.stored))
    | .writeInode target inode, code =>
        target = ino → code = 0 ∧ state' = { state with stored := inode }
    | .clockGettime, answer => state' = state ∧ (answer.1 = 0 → answer.2.tvSec.setWidth 32 = now)
    | .time, answer => state' = state ∧ answer.setWidth 32 = now
    | _, _ => True

/-- A library in memory with one inode. -/
def oneInode (ino : Ino) (now : BitVec 32) : Handler Call Answer Copies
  | .loadFile file, state =>
      ({ ino := ino, inode := (state.copies file).getD Inode.zero }, state)
  | .storeFileInode file inode, state =>
      ((), { state with copies := Function.update state.copies file (some inode) })
  | .readInode target, state => (if target = ino then (0, state.stored) else Prod.mk EIO Inode.zero, state)
  | .writeInode target inode, state =>
      if target = ino then (0, { state with stored := inode }) else Prod.mk EIO state
  | .clockGettime, state => ((0, { tvSec := now.setWidth 64, tvNsec := 0 }), state)
  | .time, state => (now.setWidth 64, state)
  | call, state => ((reference call (Volume.holding [])).1, state)

/-- An operation through a handle, and what the clock reads. -/
structure AttributeCall where
  file : Ptr
  operation : AttributeOperation
  now : BitVec 32

/-- A run keeps the attributes that its operations so far have stored. -/
structure AttributeRun (Hidden : Type) where
  hidden : Hidden
  attributes : Attributes

/-- A call is possible through an open handle. -/
def AttributeRun.step {Hidden : Type} (library : BitVec 32 → Handler Call Answer Hidden)
    (view : Hidden → Copies) (run : AttributeRun Hidden) (call : AttributeCall) :
    Option (AttributeRun Hidden) :=
  match (view run.hidden).copies call.file with
  | none => none
  | some _ => some
      { hidden := ((call.operation.routine call.file).run (library call.now) run.hidden).2
        attributes := call.operation.stores call.now run.attributes }

end NodeExt2fs.Library
