import NodeExt2fs.Construction.Glue.Files
import NodeExt2fs.Construction.Js.WriteStream
import NodeExt2fs.Construction.Library.Reference

/-!
This file follows the data of a file, and the times of its last changes.
-/

namespace NodeExt2fs.Library
open Programs Glue

/-- The bytes of a regular file, with the times that its inode has on the disk. -/
structure Dated where
  content : List UInt8
  ctime : BitVec 32
  mtime : BitVec 32
  deriving DecidableEq

/-- What libext2fs does with the file while the clock reads `now`. The data changes in transfers and
truncations only, in any way, and these do not set the times. A call that fails writes no inode, the
inode of a new file is another one, and every open handle is one of the file. -/
def dating (ino : Ino) (now : BitVec 64) : Contract Call Answer Dated where
  permits _ _ := True
  allows state call answer state' :=
    match call, answer with
    | .fileWrite _ _ _, _ | .fileSetSize _ _, _ =>
        state'.ctime = state.ctime ∧ state'.mtime = state.mtime
    | .writeInode target inode, code =>
        state' = if target = ino ∧ code = 0 then
            { state with ctime := inode.iCtime, mtime := inode.iMtime }
          else state
    | .readInode target, answer => state' = state ∧ (target = ino → answer.1 = 0 →
        answer.2.iCtime = state.ctime ∧ answer.2.iMtime = state.mtime)
    | .loadFile _, answer => state' = state ∧ answer.ino = ino
    | .clockGettime, answer => state' = state ∧ (answer.1 = 0 → answer.2.tvSec = now)
    | .time, answer => state' = state ∧ answer = now
    | _, _ => state' = state

/-- The operations on the path and on the open handles of the file. -/
inductive DataOperation where
  | open (path : Path) (flags mode : BitVec 32)
  | read (file : Ptr) (flags : BitVec 32) (buffer : Ptr) (length position : BitVec 32)
  | write (file : Ptr) (flags : BitVec 32) (buffer : Ptr) (length position : BitVec 32)
  deriving DecidableEq

def DataOperation.routine : DataOperation → Routine Int
  | .open path flags mode => nodeExt2fsOpen path flags mode
  | .read file flags buffer length position => nodeExt2fsRead file flags buffer length position
  | .write file flags buffer length position => nodeExt2fsWrite file flags buffer length position

/-- An operation, and what the clock reads. -/
structure DataCall where
  operation : DataOperation
  now : BitVec 64

/-- Every operation is possible at any time. -/
def DataCall.step {Hidden : Type} (library : BitVec 64 → Handler Call Answer Hidden) (hidden : Hidden)
    (call : DataCall) : Option Hidden :=
  some (call.operation.routine.run (library call.now) hidden).2

/-- A library in memory with one file and the place of its handle. Each buffer has the given bytes. -/
def oneFile (ino : Ino) (memory : Ptr → List UInt8) (now : BitVec 64) :
    Handler Call Answer (Dated × Nat)
  | .namei _, state | .nameiFollow _, state => ((0, ino), state)
  | .loadFile _, state => ({ ino := ino, inode := Inode.zero }, state)
  | .fileOpen _ _, state => ((0, 4), (state.1, 0))
  | .fileSetSize _ size, state =>
      (0, ({ state.1 with content := state.1.content.take size }, state.2))
  | .fileLlseek _ offset whence, state =>
      (0, (state.1, if whence = EXT2_SEEK_END then state.1.content.length + offset.toNat
        else offset.toNat))
  | .fileWrite _ buffer nbytes, state =>
      let data := (memory buffer).take nbytes.toNat
      ((0, BitVec.ofNat 32 data.length),
        ({ state.1 with content := Js.splice state.1.content state.2 data }, state.2 + data.length))
  | .fileRead _ _ wanted, state =>
      let got := min wanted.toNat (state.1.content.length - state.2)
      ((0, BitVec.ofNat 32 got), (state.1, state.2 + got))
  | .readInode _, state =>
      ((0, { Inode.zero with iCtime := state.1.ctime, iMtime := state.1.mtime }), state)
  | .writeInode target inode, state =>
      if target = ino then
        (0, ({ state.1 with ctime := inode.iCtime, mtime := inode.iMtime }, state.2))
      else Prod.mk EIO state
  | .clockGettime, state => ((0, { tvSec := now, tvNsec := 0 }), state)
  | .time, state => (now, state)
  | call, state => ((reference call (Volume.holding [])).1, state)

end NodeExt2fs.Library
