import NodeExt2fs.Construction.Glue.Listing
import NodeExt2fs.Construction.Js.SymbolicLinks

/-!
This file returns the names of a directory.
-/

namespace NodeExt2fs.Js
open Programs Glue Structures

/-- `entries.map(b => b.toString(encoding))` once the C function has succeeded. -/
def readdirResult (arrayId : Nat) (encoding : Option Encoding) (result : Int × List Name) :
    Except Failure (List LinkTarget) :=
  match ccallThrowAsync "node_ext2fs_readdir" [arrayId] result.1 with
  | .error exception => .error (.errno exception)
  | .ok _ => .ok (result.2.map (targetOf encoding))

/-- `readdir` with what it resolves with. -/
def readdirNames (path : List UInt8) (options : OptionsArgument) (arrayId : Nat)
    (behind : DirEntry → List UInt8) : Promise (List LinkTarget) := do
  let options ← Async.lift (pure (getOptions options
    { encoding := some utf8, mode := none, flag := none }))
  let path ← acceptPath path
  Async.lift do
    return readdirResult arrayId options.encoding
      (← pushing arrayId [] (nodeExt2fsReaddirFrom path arrayId behind))

end NodeExt2fs.Js
