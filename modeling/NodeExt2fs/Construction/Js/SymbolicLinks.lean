import NodeExt2fs.Construction.Js.Promises
import NodeExt2fs.Structures.Utf8

/-!
This file makes symbolic links and reads their targets.
-/

namespace NodeExt2fs.Js
open Programs Glue Structures

/-- `array_push_buffer` runs in JavaScript, and pushes to the array of the given number. -/
def pushing {A : Type} (arrayId : Nat) : List Name → Routine A → Routine (A × List Name)
  | array, .pure value => .pure (value, array)
  | array, .call (.arrayPushBuffer number value) next =>
      pushing arrayId (if number = arrayId then array ++ [value] else array) (next ())
  | array, .call call next => .call call fun answer => pushing arrayId array (next answer)

/-- The warning about the type is left out. -/
def symlink (target path : List UInt8) : Promise Unit := do
  let target ← acceptPath target
  let path ← acceptPath path
  let _ ← binding "node_ext2fs_symlink" [] (nodeExt2fsSymlink target path)

/-- What `readlink` resolves with. -/
inductive LinkTarget where
  | buffer (bytes : List UInt8)
  | text (chars : List Char)
  deriving DecidableEq

/-- The bytes of a buffer, or those of a string. -/
def LinkTarget.bytes : LinkTarget → List UInt8
  | .buffer bytes => bytes
  | .text chars => encodeUtf8 chars

/-- `target.toString(encoding)`. The default options are the only ones that have a name there. -/
def targetOf (encoding : Option Encoding) (target : Name) : LinkTarget :=
  if encoding = some .buffer then .buffer target else .text (decodeUtf8 target)

/-- The first element of the array after the C function. -/
def readlinkResult (arrayId : Nat) (encoding : Option Encoding) (result : Int × List Name) :
    Except Failure LinkTarget :=
  match ccallThrowAsync "node_ext2fs_readlink" [arrayId] result.1, result.2 with
  | .error exception, _ => .error (.errno exception)
  | .ok _, [] => .error (.error "Cannot read property 'toString' of undefined")
  | .ok _, target :: _ => .ok (targetOf encoding target)

def readlink (path : List UInt8) (options : OptionsArgument) (arrayId : Nat) (behind : List UInt8) :
    Promise LinkTarget := do
  let options ← Async.lift (pure (getOptions options
    { encoding := some utf8, mode := none, flag := none }))
  let path ← acceptPath path
  Async.lift do
    return readlinkResult arrayId options.encoding
      (← pushing arrayId [] (nodeExt2fsReadlink path arrayId behind))

end NodeExt2fs.Js
