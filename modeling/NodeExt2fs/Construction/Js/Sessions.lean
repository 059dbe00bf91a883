import NodeExt2fs.Construction.Js.Names
import NodeExt2fs.Structures.InsertionMap

/-!
This file runs the calls on files and the descriptors of `openFiles`, one call after the other.
-/

namespace NodeExt2fs.Js
open Programs Structures Glue

/-- One mounted filesystem with its open files. A descriptor is the pointer to its file. -/
structure Session (Hidden : Type) where
  hidden : Hidden
  openFiles : InsertionMap Ptr (BitVec 32)

/-- The calls on files, with the bytes of their paths. -/
inductive FileOperation where
  | open (path : List UInt8) (flags mode : BitVec 32)
  | read (fd : Ptr) (buffer : Ptr) (length position : BitVec 32)
  | write (fd : Ptr) (buffer : Ptr) (length position : BitVec 32)
  | close (fd : Ptr)
  | unlink (path : List UInt8)
  | rename (existingPath newPath : List UInt8)

/-- The calls that open a path and go on through its descriptor. -/
inductive DescriptorOperation where
  | open (path : List UInt8) (flags mode : BitVec 32)
  | read (fd : Ptr) (buffer : Ptr) (length position : BitVec 32)
  | write (fd : Ptr) (buffer : Ptr) (length position : BitVec 32)
  | fchmod (fd : Ptr) (mode : BitVec 32)
  | fchown (fd : Ptr) (uid gid : BitVec 32)
  | close (fd : Ptr)

namespace Session

variable {Hidden : Type}

/-- A C function that changes no descriptor. -/
def runs (library : Handler Call Answer Hidden) (session : Session Hidden) (routine : Routine Int) :
    Session Hidden :=
  { session with hidden := (routine.run library session.hidden).2 }

/-- `open` sets the descriptor unless `binding.open` rejects. -/
def opens (library : Handler Call Answer Hidden) (session : Session Hidden) (path : Path)
    (flags mode : BitVec 32) : Session Hidden :=
  let (ret, hidden) := (nodeExt2fsOpen path flags mode).run library session.hidden
  if ret < 0 then { session with hidden := hidden }
  else { hidden := hidden, openFiles := session.openFiles.set ret.toNat flags }

/-- `close` deletes the descriptor unless `binding.close` rejects. -/
def closes (library : Handler Call Answer Hidden) (session : Session Hidden) (fd : Ptr) :
    Session Hidden :=
  let (ret, hidden) := (nodeExt2fsClose fd).run library session.hidden
  if ret < 0 then { session with hidden := hidden }
  else { hidden := hidden, openFiles := session.openFiles.delete fd }

/-- A call without its descriptor, or with a path that is rejected, changes nothing. -/
def perform (library : Handler Call Answer Hidden) (session : Session Hidden) :
    FileOperation → Session Hidden
  | .open raw flags mode =>
      match usePath raw with
      | none => session
      | some path => session.opens library path flags mode
  | .read fd buffer length position =>
      match session.openFiles.get fd with
      | none => session
      | some flags =>
          if length = 0 then session
          else session.runs library (nodeExt2fsRead fd flags buffer length position)
  | .write fd buffer length position =>
      match session.openFiles.get fd with
      | none => session
      | some flags => session.runs library (nodeExt2fsWrite fd flags buffer length position)
  | .close fd => if session.openFiles.has fd then session.closes library fd else session
  | .unlink raw =>
      match usePath raw with
      | none => session
      | some path => session.runs library (nodeExt2fsUnlink path)
  | .rename existingPath newPath =>
      match usePath existingPath, usePath newPath with
      | some fromPath, some toPath => session.runs library (nodeExt2fsRename fromPath toPath)
      | _, _ => session

def step (library : Handler Call Answer Hidden) (session : Session Hidden)
    (operation : FileOperation) : Option (Session Hidden) :=
  some (session.perform library operation)

def performDescriptor (library : Handler Call Answer Hidden) (session : Session Hidden) :
    DescriptorOperation → Session Hidden
  | .open raw flags mode => session.perform library (.open raw flags mode)
  | .read fd buffer length position => session.perform library (.read fd buffer length position)
  | .write fd buffer length position => session.perform library (.write fd buffer length position)
  | .fchmod fd mode =>
      if session.openFiles.has fd then session.runs library (nodeExt2fsChmod fd mode) else session
  | .fchown fd uid gid =>
      if session.openFiles.has fd then session.runs library (nodeExt2fsChown fd uid gid) else session
  | .close fd => session.perform library (.close fd)

def stepDescriptor (library : Handler Call Answer Hidden) (session : Session Hidden)
    (operation : DescriptorOperation) : Option (Session Hidden) :=
  some (session.performDescriptor library operation)

end Session

end NodeExt2fs.Js
