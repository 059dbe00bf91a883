import NodeExt2fs.Structures.Slices
import NodeExt2fs.Programs.Transition

/-!
This file interleaves the `_read` calls of the streams of one filesystem over their shared pool.
-/

namespace NodeExt2fs.Js
open Structures

abbrev kMinPoolSpace : Nat := 128

/-- A pool buffer with its `used` property. -/
structure Pool where
  used : Nat
  bytes : List UInt8

/-- The bytes `[start, start + length)` of the pool with the given number. -/
structure Region where
  pool : Nat
  start : Nat
  length : Nat
  deriving DecidableEq

/-- A read in flight. Its result is known once its bytes have been copied to the pool. -/
structure Reading where
  region : Region
  bytesRead : Option Nat
  deriving DecidableEq

/-- A pushed chunk is the front part of the region that was read. -/
structure Chunk where
  region : Region
  bytesRead : Nat
  deriving DecidableEq

/-- A stream with the file of its descriptor. `stopped` says that `_read` does nothing more: the
stream was destroyed, it has ended or it has failed. -/
structure ReadStream where
  content : List UInt8
  offset : Nat
  highWaterMark : Nat
  hasStart : Bool
  stopped : Bool
  reading : Option Reading
  chunks : List Chunk

/-- The pools in the order of their allocation, of which `pool` is the last, and the streams. -/
structure Streams where
  count : Nat
  pool : Nat → Pool
  stream : Nat → ReadStream

def ReadStream.create (content : List UInt8) (highWaterMark : Nat) (hasStart : Bool) : ReadStream where
  content := content
  offset := 0
  highWaterMark := highWaterMark
  hasStart := hasStart
  stopped := false
  reading := none
  chunks := []

/-- A mounted filesystem with fresh streams and no pool yet. -/
def Streams.create (content : Nat → List UInt8) (highWaterMark : Nat → Nat) (hasStart : Nat → Bool) :
    Streams where
  count := 0
  pool := fun _ => { used := 0, bytes := [] }
  stream := fun index => .create (content index) (highWaterMark index) (hasStart index)

/-- The number of the pool that the variable `pool` refers to. -/
def Streams.current (state : Streams) : Nat := state.count - 1

/-- `Buffer.allocUnsafe`. The bytes of a new pool are not read before they are written. -/
def allocNewPool (state : Streams) (poolSize : Nat) : Streams :=
  { state with
    count := state.count + 1
    pool := Function.update state.pool state.count
      { used := 0, bytes := List.replicate poolSize 0 } }

/-- The test that discards the old pool. -/
def Streams.exhausted (state : Streams) : Bool :=
  state.count = 0 ∨
    (state.pool state.current).bytes.length < (state.pool state.current).used + kMinPoolSpace

def Streams.setStream (state : Streams) (index : Nat) (stream : ReadStream) : Streams :=
  { state with stream := Function.update state.stream index stream }

def Streams.setPool (state : Streams) (number : Nat) (pool : Pool) : Streams :=
  { state with pool := Function.update state.pool number pool }

/-- `_read` begins with the check of the pool. -/
def Streams.prepare (state : Streams) (index : Nat) : Streams :=
  if state.exhausted then allocNewPool state (state.stream index).highWaterMark else state

/-- The region from `pool.used` on that `_read(n)` takes. -/
def Streams.nextRegion (state : Streams) (n : Nat) : Region where
  pool := state.current
  start := (state.pool state.current).used
  length := min ((state.pool state.current).bytes.length - (state.pool state.current).used) n

/-- What may happen next: a `_read` call up to its await, the copy of the read bytes to the pool,
the rest of the `_read`, a rejected read, or the end of a stream from outside. -/
inductive StreamLabel where
  | read (index n : Nat)
  | copy (index bytesRead : Nat) (unread : List UInt8)
  | resume (index : Nat)
  | fail (index : Nat)
  | destroy (index : Nat)

/-- `_read` up to its await. `Readable` calls it again only after a push. -/
def Streams.beginRead (state : Streams) (index n : Nat) : Option Streams :=
  let stream := state.stream index
  if stream.stopped ∨ stream.reading.isSome then none
  else
    let prepared := state.prepare index
    let region := prepared.nextRegion n
    if stream.hasStart then
      -- The assignment to the constant `toRead` throws.
      some (prepared.setStream index { stream with stopped := true })
    else if region.length = 0 then some (prepared.setStream index { stream with stopped := true })
    else
      some (prepared.setStream index
        { stream with reading := some { region := region, bytesRead := none } })

/-- `binding.read` gets bytes of the file, and the whole read buffer is copied to the pool. The
bytes after those of the file are what the buffer held before. -/
def Streams.copyRead (state : Streams) (index bytesRead : Nat) (unread : List UInt8) :
    Option Streams :=
  let stream := state.stream index
  match stream.reading with
  | some { region := region, bytesRead := none } =>
      if bytesRead ≤ stream.content.length - stream.offset ∧
          bytesRead + unread.length = region.length then
        let pool := state.pool region.pool
        let data := slice stream.content stream.offset bytesRead ++ unread
        some ((state.setPool region.pool
            { pool with bytes := overwrite pool.bytes region.start data }).setStream index
          { stream with
            offset := stream.offset + bytesRead
            reading := some { region := region, bytesRead := some bytesRead } })
      else none
  | _ => none

/-- The rest of `_read`. It moves `used` of the pool that is current by now. -/
def Streams.resumeRead (state : Streams) (index : Nat) : Option Streams :=
  let stream := state.stream index
  match stream.reading with
  | some { region := region, bytesRead := some bytesRead } =>
      let pool := state.pool state.current
      let moved := state.setPool state.current { pool with used := pool.used + region.length }
      if bytesRead = 0 then
        some (moved.setStream index { stream with reading := none, stopped := true })
      else
        some (moved.setStream index
          { stream with
            reading := none
            chunks := stream.chunks ++ [{ region := region, bytesRead := bytesRead }] })
  | _ => none

/-- A rejected read emits an error and pushes nothing. -/
def Streams.failRead (state : Streams) (index : Nat) : Option Streams :=
  let stream := state.stream index
  match stream.reading with
  | some _ => some (state.setStream index { stream with reading := none, stopped := true })
  | none => none

def Streams.step (state : Streams) : StreamLabel → Option Streams
  | .read index n => state.beginRead index n
  | .copy index bytesRead unread => state.copyRead index bytesRead unread
  | .resume index => state.resumeRead index
  | .fail index => state.failRead index
  | .destroy index => some (state.setStream index { state.stream index with stopped := true })

end NodeExt2fs.Js
