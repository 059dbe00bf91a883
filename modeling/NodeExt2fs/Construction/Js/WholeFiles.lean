import NodeExt2fs.Construction.Js.Options

/-!
This file writes whole files through the calls on descriptors, whatever these do.
-/

namespace NodeExt2fs.Js
open Glue

variable {M : Type → Type} {A : Type}

/-- What `finally` does after a result. A rejection there replaces the result. -/
def runFinally [Monad M] (last : ExceptT Failure M Unit) :
    Except Failure A → M (Except Failure A)
  | .error .unsettled => pure (.error .unsettled)
  | result => last.run >>= fun closing => pure (closing.bind fun _ => result)

/-- `try` with `finally`, unless the first part does not settle. -/
def awaitFinally [Monad M] (body : ExceptT Failure M A) (last : ExceptT Failure M Unit) :
    ExceptT Failure M A :=
  ExceptT.mk (body.run >>= runFinally last)

/-- The calls on descriptors that the functions on whole files make. -/
structure FileCalls (M : Type → Type) where
  openPath : List UInt8 → Flag → Option (BitVec 32) → ExceptT Failure M Ptr
  write : Ptr → List UInt8 → Int → Int → Option Int → ExceptT Failure M Int
  close : Ptr → ExceptT Failure M Unit

/-- A path, or a descriptor in place of one. -/
inductive PathArgument where
  | path (bytes : List UInt8)
  | fd (fd : Ptr)
  deriving DecidableEq

variable [Monad M]

/-- The loop of `writeAll`, for at most the given number of rounds. -/
def writeAll (calls : FileCalls M) (fd : Ptr) (buffer : List UInt8) :
    Nat → Int → Int → Option Int → ExceptT Failure M Unit
  | 0, _, _, _ => throw .unsettled
  | rounds + 1, offset, length, position => do
      let bytesWritten ← calls.write fd buffer offset length position
      if bytesWritten = length then
        return
      writeAll calls fd buffer rounds (offset + bytesWritten) (length - bytesWritten)
        (position.map (· + bytesWritten))

/-- The data is given by its bytes. A descriptor is not accepted: its variable is read in its own
initialiser. -/
def writeFile (calls : FileCalls M) (rounds : Nat) (path : PathArgument) (data : List UInt8)
    (options : OptionsArgument) : ExceptT Failure M Unit := do
  let options ← ExceptT.mk (pure (getOptions options
    { encoding := some utf8, mode := some 0o666, flag := some (.text "w") }))
  let flag := options.flag.getD (.text "undefined")
  let fd ← match path with
    | .fd _ => throw (.error "Cannot access 'fd' before initialization")
    | .path path => calls.openPath path flag options.mode
  let position := if flag.hasA then none else some 0
  awaitFinally (writeAll calls fd data rounds 0 data.length position) (calls.close fd)

def appendFile (calls : FileCalls M) (rounds : Nat) (path : PathArgument) (data : List UInt8)
    (options : OptionsArgument) : ExceptT Failure M Unit := do
  let options ← ExceptT.mk (pure (getOptions options
    { encoding := some utf8, mode := some 0o666, flag := none }))
  writeFile calls rounds path data (.object { options with flag := some (.text "a") })

end NodeExt2fs.Js
