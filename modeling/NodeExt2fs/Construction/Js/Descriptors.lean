import NodeExt2fs.Structures.InsertionMap
import NodeExt2fs.Programs.Transition
import Mathlib.Logic.Function.Basic

/-!
This file interleaves the calls on file descriptors with the queue of `lib/queue.js`.

A call runs in one step up to its next await. The frees that end a hooked call use no descriptor
and are left out.
-/

namespace NodeExt2fs.Js
open Structures

/-- The inode fields of `fstat`. -/
inductive StatField where
  | ino
  | mode
  | linksCount
  | uid
  | gid
  | size
  | blocks
  | atime
  | mtime
  | ctime
  | blocksize
  deriving DecidableEq

/-- A queued call of a C function. A read and a write pass on the flags that `openFiles` holds. -/
inductive BindingOp where
  | malloc
  | open
  | close (fd : Nat)
  | read (fd : Nat) (flags : Option Nat)
  | write (fd : Nat) (flags : Option Nat)
  | stat (field : StatField) (fd : Nat)
  | chmod (fd : Nat)
  | chown (fd : Nat)
  | umount
  deriving DecidableEq

/-- The descriptor that an operation uses. -/
def BindingOp.fd? : BindingOp → Option Nat
  | .malloc => none
  | .open => none
  | .close fd => some fd
  | .read fd _ => some fd
  | .write fd _ => some fd
  | .stat _ fd => some fd
  | .chmod fd => some fd
  | .chown fd => some fd
  | .umount => none

/-- The functions that take a descriptor. -/
inductive Method where
  | close
  | read (length : Nat)
  | write
  | fstat
  | fchmod
  | fchown
  deriving DecidableEq

inductive FsCall where
  | open (flags : Nat)
  | onFd (method : Method) (fd : Nat)
  | closeAll (unmounting : Bool)

/-- Where a call waits. `last` awaits the last operations of a call, and `done` is a settled one. -/
inductive Frame where
  | openPath (flags : Nat)
  | openFile (flags : Nat)
  | closeFile (fd : Nat)
  | readBuffer (fd : Nat)
  | writeBuffer (fd : Nat)
  | statCtime (fd : Nat)
  | closeAllFile (fd : Nat) (unmounting : Bool)
  | closeAllNext (unmounting : Bool)
  | closedAll
  | last
  | done (ok : Bool)
  deriving DecidableEq

/-- The number of operations that a call awaits, whether one of them was rejected, and the result
of the latest one. -/
structure Task where
  frame : Frame
  waiting : Nat
  failed : Bool
  value : Nat

structure Queued where
  task : Nat
  op : BindingOp
  deriving DecidableEq

/-- The calls of one filesystem. `kFd` gives the descriptor of the `FileHandle` that an open call
has made. Three fields record what has happened: `closed` holds the descriptors whose
`binding.close` was executed after `binding.open` last returned them, `faults` the operations that
were executed on such a descriptor, and `settled` the descriptors of settled close calls that no
later open call has put into `openFiles`. -/
structure Descriptors where
  openFiles : InsertionMap Nat Nat
  queue : List Queued
  task : Nat → Option Task
  kFd : Nat → Option Nat
  closed : List Nat
  faults : List BindingOp
  settled : List Nat

def Descriptors.empty : Descriptors where
  openFiles := .empty
  queue := []
  task := fun _ => none
  kFd := fun _ => none
  closed := []
  faults := []
  settled := []

/-- `addOperation` for each operation, and the await that follows. -/
def Descriptors.request (state : Descriptors) (id : Nat) (frame : Frame) (ops : List BindingOp) :
    Descriptors :=
  { state with
    queue := state.queue ++ ops.map fun op => { task := id, op := op }
    task := Function.update state.task id
      (some { frame := frame, waiting := ops.length, failed := false, value := 0 }) }

def Descriptors.finish (state : Descriptors) (id : Nat) (ok : Bool) : Descriptors :=
  state.request id (.done ok) []

def Descriptors.settle (state : Descriptors) (fds : List Nat) : Descriptors :=
  { state with settled := fds ++ state.settled }

/-- `close` after its await. -/
def Descriptors.closeFile (state : Descriptors) (fd : Nat) : Descriptors :=
  { state with openFiles := state.openFiles.delete fd }.settle [fd]

/-- `open` after its last await. -/
def Descriptors.openFile (state : Descriptors) (id fd flags : Nat) : Descriptors :=
  { state with
    openFiles := state.openFiles.set fd flags
    kFd := Function.update state.kFd id (some fd)
    settled := state.settled.filter fun fd' => fd' ≠ fd }

/-- A read of length zero returns before `checkFd`. -/
def Method.checks : Method → Bool
  | .read length => length ≠ 0
  | _ => true

/-- A call with a descriptor up to its first await. -/
def Descriptors.callFd (state : Descriptors) (id : Nat) (method : Method) (fd : Nat) : Descriptors :=
  if ¬method.checks then state.finish id true
  else if ¬state.openFiles.has fd then
    (state.settle (if method = .close then [fd] else [])).finish id false
  else
    match method with
    | .close => state.request id (.closeFile fd) [.close fd]
    | .read _ => state.request id (.readBuffer fd) [.malloc]
    | .write => state.request id (.writeBuffer fd) [.malloc]
    | .fstat => state.request id (.statCtime fd) [.stat .ctime fd]
    | .fchmod => state.request id .last [.chmod fd]
    | .fchown => state.request id .last [.chown fd]

/-- The loop of `closeAllFileDescriptors`. A closed descriptor has left the map, so the next key is
the first one. -/
def Descriptors.closeNext (state : Descriptors) (id : Nat) (unmounting : Bool) : Descriptors :=
  match state.openFiles.keys.head? with
  | some fd => state.request id (.closeAllFile fd unmounting) [.close fd]
  | none => if unmounting then state.request id .closedAll [] else state.finish id true

def Descriptors.start (state : Descriptors) (id : Nat) : FsCall → Descriptors
  | .open flags => state.request id (.openPath flags) [.malloc]
  | .onFd method fd => state.callFd id method fd
  | .closeAll unmounting => state.closeNext id unmounting

/-- A method of a `FileHandle`. Its `close` forgets the descriptor at once. -/
def Descriptors.onHandle (state : Descriptors) (id handle : Nat) (method : Method) : Descriptors :=
  match state.kFd handle with
  | none => state.finish id false
  | some fd =>
      let called := state.callFd id method fd
      if method = .close then { called with kFd := Function.update called.kFd handle none }
      else called

/-- The second round of `fstat`. -/
def statFields : List StatField :=
  [.mode, .linksCount, .uid, .gid, .blocksize, .ino, .size, .blocks, .atime, .mtime]

/-- The descriptor that a settled close call was about. -/
def Frame.closing : Frame → List Nat
  | .closeFile fd => [fd]
  | .closeAllFile fd _ => [fd]
  | _ => []

def Frame.isDone : Frame → Bool
  | .done _ => true
  | _ => false

/-- A call after an await that was fulfilled. -/
def Descriptors.proceed (state : Descriptors) (id value : Nat) : Frame → Option Descriptors
  | .openPath flags => some (state.request id (.openFile flags) [.open])
  | .openFile flags => some ((state.openFile id value flags).finish id true)
  | .closeFile fd => some ((state.closeFile fd).finish id true)
  | .readBuffer fd => some (state.request id .last [.read fd (state.openFiles.get fd)])
  | .writeBuffer fd => some (state.request id .last [.write fd (state.openFiles.get fd)])
  | .statCtime fd => some (state.request id .last (statFields.map fun field => .stat field fd))
  | .closeAllFile fd unmounting =>
      some ((state.closeFile fd).request id (.closeAllNext unmounting) [])
  | .closeAllNext unmounting => some (state.closeNext id unmounting)
  | .closedAll => some (state.request id .last [.umount])
  | .last => some (state.finish id true)
  | .done _ => none

/-- A rejected operation rejects its call. `Promise.all` does not wait for the others. -/
def Descriptors.resume (state : Descriptors) (id : Nat) : Option Descriptors :=
  match state.task id with
  | none => none
  | some task =>
      if task.frame.isDone then none
      else if task.failed then some ((state.settle task.frame.closing).finish id false)
      else if task.waiting = 0 then state.proceed id task.value task.frame
      else none

/-- The closed descriptors after an operation. A handle is freed even when its close fails. -/
def BindingOp.closedAfter (op : BindingOp) (ok : Bool) (value : Nat) (closed : List Nat) : List Nat :=
  match op with
  | .close fd => fd :: closed
  | .open => if ok then closed.filter fun fd => fd ≠ value else closed
  | _ => closed

def Task.answered (task : Task) (ok : Bool) (value : Nat) : Task :=
  { task with waiting := task.waiting - 1, failed := task.failed || !ok, value := value }

/-- The queue runs its first operation, with a result. -/
def Descriptors.execute (state : Descriptors) (ok : Bool) (value : Nat) : Option Descriptors :=
  match state.queue with
  | [] => none
  | { task := id, op := op } :: rest =>
      some { state with
        queue := rest
        task := Function.update state.task id
          ((state.task id).map fun task => task.answered ok value)
        closed := op.closedAfter ok value state.closed
        faults := if op.fd?.any fun fd => fd ∈ state.closed then state.faults ++ [op]
          else state.faults }

inductive DescriptorLabel where
  | start (id : Nat) (call : FsCall)
  | onHandle (id handle : Nat) (method : Method)
  | execute (ok : Bool) (value : Nat)
  | resume (id : Nat)

def Descriptors.step (state : Descriptors) : DescriptorLabel → Option Descriptors
  | .start id call => if (state.task id).isNone then some (state.start id call) else none
  | .onHandle id handle method =>
      if (state.task id).isNone then some (state.onHandle id handle method) else none
  | .execute ok value => state.execute ok value
  | .resume id => state.resume id

end NodeExt2fs.Js
