import NodeExt2fs.Construction.Glue.Codes
import NodeExt2fs.Programs.Program

/-!
This file carries block requests from libext2fs to the JavaScript disk.
-/

namespace NodeExt2fs.Glue
open Programs

/-- The methods that the wrapped disk gets, with the byte range of each. JavaScript numbers below
2^53 are exact, so they are integers here. -/
inductive DiskRequest where
  | read (length fileOffset : Int)
  | write (length fileOffset : Int)
  | discard (offset length : Int)
  deriving DecidableEq

/-- A disk promise resolves or rejects. -/
abbrev DiskAnswer : DiskRequest → Type := fun _ => Bool

abbrev DiskProgram (A : Type) := Program DiskRequest DiskAnswer A

/-- `DiskWrapper` of `lib/disk.js`: a partition of the disk. -/
structure DiskWrapper where
  offset : Int

def DiskWrapper.read (disk : DiskWrapper) (length fileOffset : Int) : DiskProgram Bool :=
  Program.perform (.read length (fileOffset + disk.offset))

def DiskWrapper.write (disk : DiskWrapper) (length fileOffset : Int) : DiskProgram Bool :=
  Program.perform (.write length (fileOffset + disk.offset))

def DiskWrapper.discard (disk : DiskWrapper) (offset length : Int) : DiskProgram Bool :=
  Program.perform (.discard (offset + disk.offset) length)

/-- `Module.getBuffer` of `src/pre.js`, as the length of the view. `Buffer.from` takes a length that
is not positive as zero, and throws for a view that leaves the heap. -/
def getBuffer (heap pointer length : Int) : Option Int :=
  if pointer < 0 ∨ heap < pointer then none
  else if length > 0 then
    if length > heap - pointer then none else some length
  else some 0

/-- The number that an `int` or an `unsigned long` is on the JavaScript side. -/
def jsNumber (word : BitVec 32) : Int := word.toInt

/-- The number that a `short` is on the JavaScript side. -/
def jsShort (word : BitVec 16) : Int := word.toInt

/-- The status of a settled disk promise. -/
def diskStatus (resolved : Bool) : Errcode := if resolved then 0 else EIO

def transferSize (count blockSize : Int) : Int := if count < 0 then -count else count * blockSize

/-- The result is `none` when `getBuffer` throws. -/
def blkRead (heap : Int) (disk : DiskWrapper) (blockSize : BitVec 16) (block count data : BitVec 32) :
    DiskProgram (Option Errcode) := do
  let offset := jsNumber block * jsShort blockSize
  let size := transferSize (jsNumber count) (jsShort blockSize)
  match getBuffer heap (jsNumber data) size with
  | none => return none
  | some length => return some (diskStatus (← disk.read length offset))

def blkWrite (heap : Int) (disk : DiskWrapper) (blockSize : BitVec 16) (block count data : BitVec 32) :
    DiskProgram (Option Errcode) := do
  let offset := jsNumber block * jsShort blockSize
  let size := transferSize (jsNumber count) (jsShort blockSize)
  match getBuffer heap (jsNumber data) size with
  | none => return none
  | some length => return some (diskStatus (← disk.write length offset))

def discard (disk : DiskWrapper) (blockSize : BitVec 16) (block count : BitVec 32) :
    DiskProgram (Option Errcode) := do
  let offset := jsNumber block * jsShort blockSize
  let size := transferSize (jsNumber count) (jsShort blockSize)
  return some (diskStatus (← disk.discard offset size))

/-- The part of an `io_channel` that the entries read. -/
structure IoChannel where
  blockSize : BitVec 32

def setBlksize (channel : IoChannel) (blksize : BitVec 32) : IoChannel :=
  { channel with blockSize := blksize }

def jsReadBlkEntry (heap : Int) (disk : DiskWrapper) (channel : IoChannel)
    (block count data : BitVec 32) : DiskProgram (Option Errcode) :=
  -- The block size is passed as a `short`.
  blkRead heap disk (channel.blockSize.setWidth 16) block count data

def jsWriteBlkEntry (heap : Int) (disk : DiskWrapper) (channel : IoChannel)
    (block count data : BitVec 32) : DiskProgram (Option Errcode) :=
  blkWrite heap disk (channel.blockSize.setWidth 16) block count data

def jsReadBlk64Entry (heap : Int) (disk : DiskWrapper) (channel : IoChannel) (block : BitVec 64)
    (count data : BitVec 32) : DiskProgram (Option Errcode) :=
  jsReadBlkEntry heap disk channel (block.setWidth 32) count data

def jsWriteBlk64Entry (heap : Int) (disk : DiskWrapper) (channel : IoChannel) (block : BitVec 64)
    (count data : BitVec 32) : DiskProgram (Option Errcode) :=
  jsWriteBlkEntry heap disk channel (block.setWidth 32) count data

def jsDiscardEntry (disk : DiskWrapper) (channel : IoChannel) (block count : BitVec 64) :
    DiskProgram (Option Errcode) :=
  discard disk (channel.blockSize.setWidth 16) (block.setWidth 32) (count.setWidth 32)

end NodeExt2fs.Glue
