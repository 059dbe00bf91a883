import NodeExt2fs.Construction.Glue.Calls

/-!
This file splits paths and looks up inodes by name.
-/

namespace NodeExt2fs.Glue

/-- `strrchr(path, '/')`, as the bytes before the last slash and the bytes after it. -/
def strrchr : Path → Option (Path × Name)
  | [] => none
  | byte :: rest =>
      match strrchr rest with
      | some (before, after) => some (byte :: before, after)
      | none => if byte = slash then some ([], rest) else none

theorem strrchr_eq_none_iff {path : Path} : strrchr path = none ↔ slash ∉ path := by
  induction path with
  | nil => simp [strrchr]
  | cons byte rest ih =>
      rw [strrchr]
      cases found : strrchr rest with
      | none =>
          have absent := ih.mp found
          by_cases same : byte = slash
          · simp [same]
          · simp [same, absent, Ne.symm same]
      | some split =>
          have present : slash ∈ rest := by
            by_contra absent
            rw [ih.mpr absent] at found
            cases found
          simp [present]

/-- The two parts of a split make up the path again, and the last one has no slash. -/
theorem strrchr_eq_some {path before : Path} {after : Name}
    (split : strrchr path = some (before, after)) :
    path = before ++ slash :: after ∧ slash ∉ after := by
  induction path generalizing before with
  | nil => cases split
  | cons byte rest ih =>
      rw [strrchr] at split
      cases found : strrchr rest with
      | none =>
          simp only [found] at split
          by_cases same : byte = slash
          · simp only [same, if_true, Option.some.injEq, Prod.mk.injEq] at split
            obtain ⟨rfl, rfl⟩ := split
            exact ⟨by simp [same], strrchr_eq_none_iff.mp found⟩
          · simp [same] at split
      | some parts =>
          obtain ⟨head, tail⟩ := parts
          simp only [found, Option.some.injEq, Prod.mk.injEq] at split
          obtain ⟨rfl, rfl⟩ := split
          obtain ⟨joined, clean⟩ := ih found
          exact ⟨by simp [← joined], clean⟩

def stringToInode (str : Path) (follow : Bool) : Routine Ino := do
  let (retval, ino) ← if follow then ext2fsNameiFollow str else ext2fsNamei str
  if retval ≠ 0 then
    return 0
  return ino

def getParentDirIno (path : Path) : Routine Ino := do
  match strrchr path with
  | none => return 0
  | some (before, _) =>
      -- `strndup` keeps the slash.
      stringToInode (before ++ [slash]) true

def getFilename (path : Path) : Option Name :=
  match strrchr path with
  | none => none
  | some (_, filename) => if filename.length = 0 then none else some filename

/-- The file name is the last component, unless that is empty. -/
theorem getFilename_split {path before : Path} {name : Name}
    (split : strrchr path = some (before, name)) :
    getFilename path = if name = [] then none else some name := by
  rw [getFilename, split]
  simp only [List.length_eq_zero_iff]

end NodeExt2fs.Glue
