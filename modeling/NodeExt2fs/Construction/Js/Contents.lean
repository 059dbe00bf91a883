import NodeExt2fs.Construction.Js.Promises
import NodeExt2fs.Structures.Utf8

/-!
This file reads and writes whole files through requests to the file at one path, which may be refused.
-/

namespace NodeExt2fs.Js
open Programs Structures Glue

/-- The calls on descriptors that `readFile` and `writeFile` make. A read is given the buffer that it
fills. -/
inductive FileRequest where
  | openPath (raw : List UInt8) (flag : Flag) (mode : Option (BitVec 32))
  | write (fd : Ptr) (buffer : List UInt8) (offset length : Int) (position : Option Int)
  | read (fd : Ptr) (buffer : List UInt8) (offset length : Nat) (position : JsValue)
  | fstat (fd : Ptr)
  | close (fd : Ptr)

abbrev FileValue : FileRequest → Type
  | .openPath _ _ _ => Ptr
  | .write _ _ _ _ _ => Int
  | .read _ _ _ _ _ => Int × List UInt8
  | .fstat _ => Stats
  | .close _ => Unit

/-- A call settles with its value or rejects. -/
abbrev FileAnswer (request : FileRequest) : Type := Except Failure (FileValue request)

/-- An async function over these calls. -/
abbrev FileTask (A : Type) := Async FileRequest FileAnswer Unit Failure A

namespace FileTask

def call (request : FileRequest) : FileTask (FileValue request) :=
  Async.lift (Program.perform request)

def openPath (raw : List UInt8) (flag : Flag) (mode : Option (BitVec 32)) : FileTask Ptr :=
  call (.openPath raw flag mode)

def write (fd : Ptr) (buffer : List UInt8) (offset length : Int) (position : Option Int) :
    FileTask Int :=
  call (.write fd buffer offset length position)

def read (fd : Ptr) (buffer : List UInt8) (offset length : Nat) (position : JsValue) :
    FileTask (Int × List UInt8) :=
  call (.read fd buffer offset length position)

def fstat (fd : Ptr) : FileTask Stats := call (.fstat fd)

def close (fd : Ptr) : FileTask Unit := call (.close fd)

def calls : FileCalls (StateT Unit (Program FileRequest FileAnswer)) where
  openPath := openPath
  write := write
  close := close

/-- `Buffer.allocUnsafeSlow`, with the bytes that are there by chance. -/
def allocUnsafeSlow (chance : Nat → UInt8) (length : Nat) : List UInt8 :=
  (List.range length).map chance

/-- The reads of a file whose size is zero, for at most the given number of rounds. -/
def readRounds (chance : Nat → UInt8) (fd : Ptr) : Nat → List (List UInt8) → Int → FileTask (List Char)
  | 0, _, _ => throw .unsettled
  | rounds + 1, buffers, totalRead => do
      let buffer := allocUnsafeSlow chance kReadFileBufferLength
      let (bytesRead, buffer) ← read fd buffer 0 kReadFileBufferLength (.number (some (-1)))
      let totalRead := totalRead + bytesRead
      let buffers := buffers ++ [buffer]
      if bytesRead ≠ 0 then
        readRounds chance fd rounds buffers totalRead
      else
        return decodeUtf8 (buffers.flatten.take totalRead.toNat)

/-- The part of `readFile` between `try` and `finally`. The default options come last, so that the
encoding is `utf8`. -/
def readOpened (kMaxLength : Int) (chance : Nat → UInt8) (rounds : Nat) (encoding : Option Encoding)
    (fd : Ptr) : FileTask (List Char) := do
  let s ← fstat fd
  if !s.isFile then
    throw (.error "Not a file.")
  if s.size > kMaxLength then
    throw (.error ("File size is greater than possible Buffer: 0x" ++
      String.ofList (Nat.toDigits 16 kMaxLength.toNat) ++ " bytes"))
  if s.size = 0 then
    readRounds chance fd rounds [] 0
  else
    let buffer := allocUnsafeSlow chance s.size.toNat
    let (bytesRead, buffer) ← read fd buffer 0 s.size.toNat (.number (some (-1)))
    if encoding = some .buffer then
      throw (.error "Unknown encoding: buffer")
    return decodeUtf8 (buffer.take bytesRead.toNat)

/-- `readFile` of a path. -/
def readFile (kMaxLength : Int) (chance : Nat → UInt8) (rounds : Nat) (raw : List UInt8)
    (options : OptionsArgument) : FileTask (List Char) := do
  let options ← Async.lift (pure (getOptions options
    { encoding := some utf8, mode := none, flag := some (.text "r") }))
  if 0 ∈ raw then
    throw (.error nullByteMessage)
  let fd ← openPath raw (options.flag.getD (.text "r")) (some 0o666)
  awaitFinally (readOpened kMaxLength chance rounds options.encoding fd) (close fd)

/-- `writeFile` of a path. -/
def writeFile (rounds : Nat) (raw : List UInt8) (data : List UInt8) (options : OptionsArgument) :
    FileTask Unit :=
  Js.writeFile calls rounds (.path raw) data options

end FileTask

/-- `read` through the handle. -/
def Store.read (allocation : Allocation) (fd : Ptr) (buffer : List UInt8) (offset length : Nat)
    (position : JsValue) (store : Store) : Except Failure (Int × List UInt8) × Store :=
  match store.openFlags with
  | none => (.error (.errno (errnoException EBADF "read" [fd, length])), store)
  | some flags =>
      let answer := Fs.read ⟨store.file.getD [], store.position, []⟩ ⟨fd, flags⟩ allocation buffer
        offset length position
      (answer.1.mapError .errno, { store with position := answer.2.position })

/-- The inode of a file with the given content. -/
def sized (inode : Inode) (content : List UInt8) : Inode :=
  { inode with
    iSize := BitVec.ofNat 32 content.length
    iSizeHigh := BitVec.ofNat 32 (content.length / 2 ^ 32) }

/-- The accessors of `fstat`, by the open file and the block size. -/
def Store.fstat (file : Ext2File) (blocksize : BitVec 32) (fd : Ptr) (store : Store) :
    Except Failure Stats × Store :=
  match store.openFlags with
  | none => (.error (.errno (errnoException EBADF "fstat" [fd])), store)
  | some _ =>
      let file := { file with inode := sized file.inode (store.file.getD []) }
      let value (field : InodeStat) :=
        (ccallThrowAsync field.name [fd] (field.read file blocksize)).mapError .errno
      ((value .iCtime).bind fun ctime => Stats.ofResults (ctime * 1000) value, store)

/-- The regular file at the path, whose inode is the given one but for its size. -/
structure StoredFile where
  handle : Ptr
  allocation : Allocation
  opened : Ext2File
  regular : linuxSIsreg opened.inode.iMode = true
  scale : Fin 7

def StoredFile.blocksize (stored : StoredFile) : BitVec 32 :=
  BitVec.ofNat 32 (1024 * 2 ^ (stored.scale : Nat))

/-- What each call does when nothing fails. -/
def StoredFile.serve (stored : StoredFile) : Handler FileRequest FileAnswer Store
  | .openPath raw flag mode, store => store.openPath stored.handle raw flag mode
  | .write fd buffer offset length position, store =>
      store.write stored.allocation fd buffer offset length position
  | .read fd buffer offset length position, store =>
      store.read stored.allocation fd buffer offset length position
  | .fstat fd, store => store.fstat stored.opened stored.blocksize fd
  | .close fd, store => store.close fd

/-- Each call does what it should, or rejects and leaves anything, if there may be faults. -/
def faulty (stored : StoredFile) (faults : Prop) : Contract FileRequest FileAnswer Store where
  permits _ _ := True
  allows store request answer store' :=
    faults ∧ (∃ failure, answer = .error failure) ∨ (answer, store') = stored.serve request store

end NodeExt2fs.Js
