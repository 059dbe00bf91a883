import NodeExt2fs.Construction.Glue.Calls

/-!
This file states what a listing sees of one directory.
-/

namespace NodeExt2fs.Library
open Programs Glue

/-- The path leads to the directory, and an iteration calls back once for each of its live entries, in
their order. A steady library fails none of the calls. -/
def directoryListing (path : Path) (ino : Ino) (entries : List DirEntry) (steady : Prop) :
    Contract Call Answer Unit where
  permits _ _ := True
  allows _ call answer _ := (steady → call.code answer = 0) ∧
    match call, answer with
    | .nameiFollow target, answer => target = path → answer.1 = 0 → answer.2 = ino
    | .dirIterate dir proc, answer =>
        dir = ino → answer.1 = 0 → answer.2 = (proc.iterate entries).1
    | _, _ => True

/-- The names of a directory, without those for itself and for its parent. -/
def namesWithin (entries : List DirEntry) : List Name :=
  (entries.map DirEntry.name).filter fun name => name ≠ dot ∧ name ≠ dotdot

end NodeExt2fs.Library
