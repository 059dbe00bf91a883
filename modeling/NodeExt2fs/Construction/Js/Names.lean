import NodeExt2fs.Construction.Glue.Links
import NodeExt2fs.Construction.Glue.Rename
import NodeExt2fs.Programs.Transition
import Mathlib.Data.List.DropRight

/-!
This file passes paths to the operations on names and runs them one after the other.
-/

namespace NodeExt2fs.Js
open Programs Glue

/-- `rstripSlashesBuffer`. -/
def rstripSlashes (path : List UInt8) : Path := path.rdropWhile fun byte => byte = slash

/-- `usePath` rejects a path with a null byte. -/
def usePath (path : List UInt8) : Option Path :=
  if 0 ∈ path then none else some (rstripSlashes path)

/-- A path that was passed on does not end with a slash. -/
theorem last_of_usePath {raw path before : Path} {name : Name} (used : usePath raw = some path)
    (split : strrchr path = some (before, name)) : name ≠ [] := by
  intro empty
  obtain ⟨joined, _⟩ := strrchr_eq_some split
  rw [empty] at joined
  unfold usePath at used
  by_cases nul : 0 ∈ raw
  · rw [if_pos nul] at used
    cases used
  · rw [if_neg nul] at used
    have same : rstripSlashes raw = path := Option.some.inj used
    have nonempty : rstripSlashes raw ≠ [] := by
      rw [same, joined]
      simp
    have last := List.rdropWhile_last_not (fun byte => decide (byte = slash)) raw nonempty
    apply last
    apply decide_eq_true
    change (rstripSlashes raw).getLast nonempty = slash
    simp only [same, joined]
    exact List.getLast_append_singleton _

/-- The calls that add, move or remove names, with the bytes of their paths. -/
inductive NameOperation where
  | open (path : List UInt8) (flags mode : BitVec 32)
  | mkdir (path : List UInt8) (mode : BitVec 32)
  | link (existingPath newPath : List UInt8)
  | symlink (target path : List UInt8)
  | rename (existingPath newPath : List UInt8)
  | unlink (path : List UInt8)
  | rmdir (path : List UInt8)

/-- The C function that a call runs, when its paths are accepted. -/
def NameOperation.routine? : NameOperation → Option (Routine Int)
  | .open path flags mode => do return nodeExt2fsOpen (← usePath path) flags mode
  | .mkdir path mode => do return nodeExt2fsMkdir (← usePath path) mode
  | .link existingPath newPath => do
      return nodeExt2fsLink (← usePath existingPath) (← usePath newPath)
  | .symlink target path => do return nodeExt2fsSymlink (← usePath target) (← usePath path)
  | .rename existingPath newPath => do
      return nodeExt2fsRename (← usePath existingPath) (← usePath newPath)
  | .unlink path => do return nodeExt2fsUnlink (← usePath path)
  | .rmdir path => do return nodeExt2fsRmdir (← usePath path)

/-- A call that is rejected before it reaches the C code changes nothing. -/
def NameOperation.step {State : Type} (library : Handler Call Answer State) (state : State)
    (operation : NameOperation) : Option State :=
  some (match operation.routine? with
    | none => state
    | some routine => (routine.run library state).2)

end NodeExt2fs.Js
