import NodeExt2fs.Construction.Glue.Inspection
import NodeExt2fs.Construction.Library.Reference

/-!
This file follows what the accessors of one open file read.
-/

namespace NodeExt2fs.Library
open Programs Glue

/-- The memory behind an open handle that the accessors read. -/
structure Viewed where
  file : Ext2File
  blocksize : BitVec 32
  deriving DecidableEq

def Viewed.read (viewed : Viewed) (field : InodeStat) : Int := field.read viewed.file viewed.blocksize

/-- What libext2fs and the C code do with the memory behind a handle that stays open: it is loaded as
it is, and every call that is no load may change it. -/
def viewing (fd : Ptr) : Contract Call Answer Viewed where
  permits _ _ := True
  allows state call answer state' :=
    match call, answer with
    | .loadFile target, answer => state' = state ∧ (target = fd → answer = state.file)
    | .loadBlocksize, answer => state' = state ∧ answer = state.blocksize
    | _, _ => True

/-- A library in memory with one open handle, the clock at `now` and a disk that never fails. -/
def oneHandle (fd : Ptr) (now : Timespec) : Handler Call Answer Viewed
  | .loadFile _, state => (state.file, state)
  | .loadBlocksize, state => (state.blocksize, state)
  | .storeFileInode target inode, state =>
      ((), if target = fd then { state with file := { state.file with inode := inode } } else state)
  | .readInode _, state => ((0, state.file.inode), state)
  | .writeInode _ _, state => (0, state)
  | .fileWrite _ _ nbytes, state => ((0, nbytes), state)
  | .clockGettime, state => ((0, now), state)
  | .time, state => (now.tvSec, state)
  | call, state => ((reference call (Volume.holding [])).1, state)

theorem oneHandle_honours (fd : Ptr) (now : Timespec) : (viewing fd).Honoured (oneHandle fd now) id := by
  intro call state
  cases call with
  | loadFile target => exact ⟨rfl, fun _ => rfl⟩
  | loadBlocksize => exact ⟨rfl, rfl⟩
  | _ => trivial

/-- The same library with a disk and a memory that do not change. -/
def stillHandle (fd : Ptr) (now : Timespec) : Handler Call Answer Viewed :=
  fun call state => ((oneHandle fd now call state).1, state)

theorem stillHandle_honours (fd : Ptr) (now : Timespec) :
    (viewing fd).Honoured (stillHandle fd now) id := by
  intro call state
  cases call with
  | loadFile target => exact ⟨rfl, fun _ => rfl⟩
  | loadBlocksize => exact ⟨rfl, rfl⟩
  | _ => trivial

end NodeExt2fs.Library
