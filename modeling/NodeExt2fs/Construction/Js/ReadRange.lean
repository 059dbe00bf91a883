import NodeExt2fs.Construction.Js.ReadStream

/-!
This file reads one stream from its range to its end, while no other read is in flight.
-/

namespace NodeExt2fs.Js
open Structures

/-- The options `start` and `end` of a stream, which are both included. -/
structure ReadRange where
  start : Nat
  last : Nat
  ordered : start ≤ last

/-- The constructor of `ReadStream` on a file that is open. It sets `pos` when there is a start, and
never looks at `options.end`. -/
def createReadStream (content : List UInt8) (highWaterMark : Nat) (range : Option ReadRange) :
    ReadStream :=
  .create content highWaterMark range.isSome

/-- What a `_read` pushes. It pushes nothing when it throws. -/
inductive Pushed where
  | chunk
  | null
  | nothing
  deriving DecidableEq

/-- A whole `_read`. The file gives all that is asked for up to its end. -/
def Streams.turn (state : Streams) (index n : Nat) (unread : Nat → UInt8) :
    Option (Pushed × Streams) := do
  let begun ← state.beginRead index n
  let stream := begun.stream index
  match stream.reading with
  | none => return (if stream.hasStart then .nothing else .null, begun)
  | some reading =>
      let bytesRead := min reading.region.length (stream.content.length - stream.offset)
      let copied ← begun.copyRead index bytesRead
        ((List.range (reading.region.length - bytesRead)).map unread)
      let resumed ← copied.resumeRead index
      return (if bytesRead = 0 then .null else .chunk, resumed)

/-- `Readable` calls `_read` again after each chunk, with the amount that it asks for. -/
def Streams.turns (state : Streams) (index : Nat) :
    List (Nat × (Nat → UInt8)) → Option Pushed × Streams
  | [] => (none, state)
  | (n, unread) :: rest =>
      match state.turn index n unread with
      | none => (none, state)
      | some (.chunk, state) => state.turns index rest
      | some (.null, state) => (some .null, state)
      | some (.nothing, state) => (some .nothing, state)

end NodeExt2fs.Js
