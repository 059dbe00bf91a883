import NodeExt2fs.Construction.Js.Transfers

/-!
This file runs sequences of transfers through one descriptor beside a file with a current position.
-/

namespace NodeExt2fs.Js
open Glue Structures

/-- No position, or one below the number that means the current place. -/
abbrev Position := Option (Fin (2 ^ 32 - 1))

def Position.argument : Position → JsValue
  | none => .null
  | some position => .ofNat position

/-- A range of a buffer that fits into the memory of the module. -/
structure Source where
  buffer : List UInt8
  offset : Nat
  length : Nat
  inside : offset + length ≤ buffer.length
  short : length < 2 ^ 31

def Source.data (source : Source) : List UInt8 := slice source.buffer source.offset source.length

inductive Transfer where
  | read (allocation : Allocation) (buffer : List UInt8) (offset : Nat) (length : Fin (2 ^ 31))
      (position : Position)
  | write (allocation : Allocation) (source : Source) (position : Position)

def Transfer.position : Transfer → Position
  | .read _ _ _ _ position | .write _ _ position => position

/-- What the caller gets to know: an errno, or the number of bytes and those read into the buffer. -/
inductive Reply where
  | rejected (errno : Int)
  | transferred (count : Nat) (bytes : List UInt8)
  deriving DecidableEq

def Reply.ofExcept (bytes : Int → List UInt8) : Except ErrnoException Int → Reply
  | .ok count => .transferred count.toNat (bytes count)
  | .error exception => .rejected exception.errno

/-- The call of `read` or of `writeBuffer`. -/
def Transfer.perform (descriptor : Descriptor) (file : OpenFile) : Transfer → Reply × OpenFile
  | .read allocation buffer offset length position =>
      let answer :=
        Fs.read file descriptor allocation buffer offset length (Position.argument position)
      let after := (answer.1.map Prod.snd).toOption.getD buffer
      (.ofExcept (fun count => slice after offset count.toNat) (answer.1.map Prod.fst), answer.2)
  | .write allocation source position =>
      let answer := Fs.writeBuffer file descriptor allocation source.buffer (.ofNat source.offset)
        (.ofNat source.length) (Position.argument position)
      (.ofExcept (fun _ => []) answer.1, answer.2)

/-- The file that the calls are about: its bytes and the current position. -/
structure FileModel where
  content : List UInt8
  current : Nat
  deriving DecidableEq

/-- A call without a position works at the current position and advances it. One with a position
works there, and an appending write at the end, and only the former two advance. -/
def FileModel.advance (model : FileModel) (content : List UInt8) (start count : Nat) :
    Position → FileModel
  | none => { content := content, current := start + count }
  | some _ => { model with content := content }

def FileModel.start (model : FileModel) : Position → Nat
  | none => model.current
  | some position => position

/-- What the call does to the file. A read delivers what the buffer has room for. -/
def FileModel.perform (descriptor : Descriptor) (model : FileModel) : Transfer → Reply × FileModel
  | .read _ buffer offset length position =>
      if (length : Nat) = 0 then (.transferred 0 [], model)
      else if descriptor.readable then
        let bytes := slice model.content (model.start position) length
        (.transferred bytes.length (bytes.take (buffer.length - offset)),
          model.advance model.content (model.start position) bytes.length position)
      else (.rejected EBADF, model)
  | .write _ source position =>
      if descriptor.writable then
        let start :=
          if descriptor.appends then model.content.length else model.start position
        (.transferred source.length [],
          model.advance (splice model.content start source.data) start source.length position)
      else (.rejected EBADF, model)

/-- The open file and the model of it, with the replies of both to each call. -/
structure Comparison where
  file : OpenFile
  model : FileModel
  replies : List (Reply × Reply)

namespace Comparison

/-- After `open` without truncation. -/
def opened (content : List UInt8) : Comparison where
  file := ⟨content, 0, []⟩
  model := ⟨content, 0⟩
  replies := []

def step (descriptor : Descriptor) (state : Comparison) (transfer : Transfer) : Option Comparison :=
  let done := transfer.perform descriptor state.file
  let expected := state.model.perform descriptor transfer
  some { file := done.2, model := expected.2, replies := state.replies ++ [(done.1, expected.1)] }

/-- The results of all calls and the content are those of the model. -/
structure Agrees (state : Comparison) : Prop where
  content : state.file.content = state.model.content
  replies : ∀ pair ∈ state.replies, pair.1 = pair.2

/-- A call that moves data at the current position finds the handle there. -/
def Standing (descriptor : Descriptor) (state : Comparison) : Transfer → Prop
  | .read _ _ _ length position =>
      (length : Nat) ≠ 0 → descriptor.readable = true → position = none →
        state.file.position = state.model.current
  | .write _ source position =>
      source.length ≠ 0 → descriptor.writable = true → descriptor.appends = false →
        position = none → state.file.position = state.model.current

end Comparison

end NodeExt2fs.Js
