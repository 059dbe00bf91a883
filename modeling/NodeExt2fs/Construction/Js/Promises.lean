import NodeExt2fs.Construction.Glue.Inspection
import NodeExt2fs.Construction.Js.SingleFile
import NodeExt2fs.Programs.Async
import NodeExt2fs.Structures.InsertionMap

/-!
This file runs the async functions of `lib/fs.js` over the C code and `openFiles`. The memory that
they hand to the C code is left out, but for the arguments of `write`.
-/

namespace NodeExt2fs.Js
open Programs Structures Glue

abbrev OpenFiles := InsertionMap Ptr (BitVec 32)

/-- An async function, up to the settlement of its promise. -/
abbrev Promise (A : Type) := Async Call Answer OpenFiles Failure A

/-- A function of `lib/binding.js`. The arguments for the message leave out the pointers. -/
def binding (name : String) (args : List Int) (routine : Routine Int) : Promise Int :=
  Async.lift do return (ccallThrowAsync name args (← routine)).mapError .errno

def checkFd (fd : Ptr) (syscall : String) (args : List Int) : Promise Unit := do
  if (← get).has fd then return
  else throw (.errno (errnoException EBADF syscall args))

/-- `checkPath` and the stripped path that `usePath` copies. -/
def acceptPath (raw : List UInt8) : Promise Path :=
  Async.lift (pure (match usePath raw with
    | none => .error (.error nullByteMessage)
    | some path => .ok path))

/-- `open` sets the descriptor. -/
def openPath (raw : List UInt8) (flag : Flag) (mode : Option (BitVec 32)) : Promise Ptr := do
  let mode := mode.getD 0o666
  let flags ← Async.lift (pure (stringToFlags flag))
  let path ← acceptPath raw
  let fd ← binding "node_ext2fs_open" [flags.toNat, mode.toNat] (nodeExt2fsOpen path flags mode)
  modify (·.set fd.toNat flags)
  return fd.toNat

/-- `close` deletes the descriptor once the C code has closed it. -/
def closeFd (fd : Ptr) : Promise Unit := do
  checkFd fd "close" [fd]
  let _ ← binding "node_ext2fs_close" [fd] (nodeExt2fsClose fd)
  modify (·.delete fd)

/-- The object that `fstat` resolves with. A time is a number of milliseconds. -/
structure Stats where
  dev : Int
  mode : Int
  nlink : Int
  uid : Int
  gid : Int
  rdev : Int
  blksize : Int
  ino : Int
  size : Int
  blocks : Int
  atime : Int
  mtime : Int
  ctime : Int
  birthtime : Int
  deriving DecidableEq

def statCall (fd : Ptr) (field : InodeStat) : Promise Int :=
  binding field.name [fd] (field.routine fd)

/-- The calls of `Promise.all` all run, in their order, whatever becomes of them. -/
def statCalls (fd : Ptr) : List InodeStat → Promise (List (InodeStat × Except Failure Int))
  | [] => return []
  | field :: rest => do
      let result ← (statCall fd field).attempt
      let results ← statCalls fd rest
      return (field, result) :: results

/-- The accessors in `Promise.all`. -/
abbrev allFields : List InodeStat :=
  [.iMode, .iLinksCount, .iUid, .iGid, .blocksize, .ino, .iSize, .iBlocks, .iAtime, .iMtime]

/-- The arguments of the constructor of `Stats`, or the first rejection among them. -/
def Stats.ofResults (ctime : Int) (value : InodeStat → Except Failure Int) : Except Failure Stats := do
  let mode ← value .iMode
  let nlink ← value .iLinksCount
  let uid ← value .iUid
  let gid ← value .iGid
  let blksize ← value .blocksize
  let ino ← value .ino
  let size ← value .iSize
  let blocks ← value .iBlocks
  let atime ← value .iAtime
  let mtime ← value .iMtime
  return {
    dev := 0, mode := mode, nlink := nlink, uid := uid, gid := gid, rdev := 0, blksize := blksize
    ino := ino, size := size, blocks := blocks, atime := atime * 1000, mtime := mtime * 1000
    ctime := ctime, birthtime := ctime }

def fstat (fd : Ptr) : Promise Stats := do
  checkFd fd "fstat" [fd]
  let ctime ← statCall fd .iCtime
  let results ← statCalls fd allFields
  Async.lift (pure (Stats.ofResults (ctime * 1000) fun field => (results.lookup field).getD (.ok 0)))

def lstat (path : List UInt8) : Promise Stats := do
  let fd ← openPath path (.number O_NOFOLLOW) none
  let stats ← fstat fd
  closeFd fd
  return stats

def stat (path : List UInt8) : Promise Stats := do
  let fd ← openPath path (.text "r") (some 0)
  let stats ← fstat fd
  closeFd fd
  return stats

abbrev EACCES : Int := 2
abbrev X_OK : BitVec 32 := 1#32
abbrev EXECUTE_ABILITY : BitVec 32 := 0o111#32

def access (path : List UInt8) (mode : BitVec 32) : Promise Unit := do
  let stats ← stat path
  if hasFlag mode X_OK && !hasFlag (BitVec.ofInt 32 stats.mode) EXECUTE_ABILITY then
    throw (.errno (errnoException EACCES "access" [mode.toNat]))

def fchmod (fd : Ptr) (mode : BitVec 32) : Promise Unit := do
  checkFd fd "node_ext2fs_chmod" [fd, mode.toNat]
  let _ ← binding "node_ext2fs_chmod" [fd, mode.toNat] (nodeExt2fsChmod fd mode)

def lchmod (path : List UInt8) (mode : BitVec 32) : Promise Unit := do
  let fd ← openPath path (.number (O_WRONLY ||| O_NOFOLLOW)) none
  awaitFinally (fchmod fd mode) (closeFd fd)

def chmod (path : List UInt8) (mode : BitVec 32) : Promise Unit := do
  let fd ← openPath path (.number 0) (some 0)
  awaitFinally (fchmod fd mode) (closeFd fd)

def fchown (fd : Ptr) (uid gid : BitVec 32) : Promise Unit := do
  checkFd fd "node_ext2fs_chown" [fd, uid.toNat, gid.toNat]
  let _ ← binding "node_ext2fs_chown" [fd, uid.toNat, gid.toNat] (nodeExt2fsChown fd uid gid)

def lchown (path : List UInt8) (uid gid : BitVec 32) : Promise Unit := do
  let fd ← openPath path (.number (O_WRONLY ||| O_NOFOLLOW)) none
  awaitFinally (fchown fd uid gid) (closeFd fd)

def chown (path : List UInt8) (uid gid : BitVec 32) : Promise Unit := do
  let fd ← openPath path (.number 0) (some 0)
  awaitFinally (fchown fd uid gid) (closeFd fd)

/-- The names go to the array with the given number. -/
def readdir (path : List UInt8) (options : OptionsArgument) (arrayId : Nat) : Promise Unit := do
  let _ ← Async.lift (pure (getOptions options
    { encoding := some utf8, mode := none, flag := none }))
  let path ← acceptPath path
  let _ ← binding "node_ext2fs_readdir" [arrayId] (nodeExt2fsReaddir path arrayId)

/-- `read` into memory of the module. -/
def readFd (fd : Ptr) (buffer : Ptr) (length : Nat) (position : JsValue) : Promise Int := do
  let position := Fs.positionOr position
  if length = 0 then
    return 0
  checkFd fd "read" [fd, length, position.toNumber.getD 0]
  let flags := ((← get).get fd).getD 0
  binding "node_ext2fs_read" [fd, flags.toNat, length, position.toNumber.getD 0]
    (nodeExt2fsRead fd flags buffer (JsValue.ofNat length).toWord position.toWord)

/-- `write` of a buffer from memory of the module. -/
def writeFd (fd : Ptr) (allocation : Allocation) (buffer : List UInt8)
    (offsetOrOptions length position : JsValue) : Promise Int := do
  let call := Fs.writeCall allocation (.buffer buffer) offsetOrOptions length position
  checkFd fd "node_ext2fs_write"
    [fd, call.length.toNumber.getD 0, call.position.toNumber.getD 0]
  let flags := ((← get).get fd).getD 0
  binding "node_ext2fs_write"
    [fd, flags.toNat, call.length.toNumber.getD 0, call.position.toNumber.getD 0]
    (nodeExt2fsWrite fd flags allocation.pointer.toNat call.length.toWord call.position.toWord)

/-- The calls on descriptors that `writeFile` makes. -/
def promiseCalls (allocation : Allocation) : FileCalls (StateT OpenFiles Routine) where
  openPath := openPath
  write fd buffer offset length position :=
    writeFd fd allocation buffer (.number (some offset)) (.number (some length))
      (position.elim .null fun position => .number (some position))
  close := closeFd

abbrev kReadFileBufferLength : Nat := 8 * 1024

/-- The reads of a file whose size is zero, for at most the given number of rounds. -/
def readRounds (fd buffer : Ptr) : Nat → Promise Unit
  | 0 => throw .unsettled
  | rounds + 1 => do
      let bytesRead ← readFd fd buffer kReadFileBufferLength (.number (some (-1)))
      if bytesRead ≠ 0 then
        readRounds fd buffer rounds

abbrev S_IFMT : BitVec 32 := 61440#32
abbrev S_IFREG : BitVec 32 := 32768#32

def Stats.isFile (stats : Stats) : Bool := BitVec.ofInt 32 stats.mode &&& S_IFMT == S_IFREG

/-- The part of `readFile` between `try` and `finally`. -/
def readOpened (kMaxLength : Int) (buffer : Ptr) (rounds : Nat) (encoding : Option Encoding)
    (fd : Ptr) : Promise Unit := do
  let s ← fstat fd
  if !s.isFile then
    throw (.error "Not a file.")
  if s.size > kMaxLength then
    throw (.error ("File size is greater than possible Buffer: 0x" ++
      String.ofList (Nat.toDigits 16 kMaxLength.toNat) ++ " bytes"))
  if s.size = 0 then
    readRounds fd buffer rounds
  else
    let _ ← readFd fd buffer s.size.toNat (.number (some (-1)))
    if encoding = some .buffer then
      throw (.error "Unknown encoding: buffer")

/-- `pathCheck`, which the digits of a descriptor pass. -/
def pathCheck : PathArgument → Promise Unit
  | .fd _ => pure ()
  | .path raw => if 0 ∈ raw then throw (.error nullByteMessage) else pure ()

def readFile (kMaxLength : Int) (buffer : Ptr) (rounds : Nat) (path : PathArgument)
    (options : OptionsArgument) : Promise Unit := do
  let options ← Async.lift (pure (getOptions options
    { encoding := some utf8, mode := none, flag := some (.text "r") }))
  pathCheck path
  match path with
  | .fd fd => awaitFinally (readOpened kMaxLength buffer rounds options.encoding fd) (pure ())
  | .path raw =>
      let fd ← openPath raw (options.flag.getD (.text "r")) (some 0o666)
      awaitFinally (readOpened kMaxLength buffer rounds options.encoding fd) (closeFd fd)

end NodeExt2fs.Js
