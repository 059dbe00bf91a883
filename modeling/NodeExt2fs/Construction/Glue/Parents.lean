import NodeExt2fs.Construction.Glue.Links
import NodeExt2fs.Construction.Glue.Rename

/-!
This file takes the lookup of the parent directory out of the functions that make it.
-/

namespace NodeExt2fs.Glue
open Programs

/-- A lookup gives the directory and the last component, or the value that the function returns. -/
abbrev ParentLookup := Routine (Except Int (Ino × Name))

/-- The rest of a function runs when its lookup succeeds. -/
def onParent (lookup : ParentLookup) (rest : Ino → Name → Routine Int) : Routine Int := do
  match ← lookup with
  | .error ret => return ret
  | .ok (dir, name) => rest dir name

/-- The lookup of a path that was cut off before the last component. -/
def parentAt (path : Path) (name : Name) (failure : Errcode → Routine Int) : ParentLookup := do
  let (err, dir) ← ext2fsNamei path
  if err ≠ 0 then
    return .error (← failure err)
  return .ok (dir, name)

def linkParent (dest : Path) : ParentLookup :=
  match strrchr dest with
  | none => return .error (-ENOMEM)
  | some (before, nodeName) => parentAt (before ++ [slash]) nodeName fun _ => return 0

def symlinkParent (dest : Path) : ParentLookup :=
  match strrchr dest with
  | none => return .error (-ENOMEM)
  | some (before, nodeName) => parentAt (before ++ [slash]) nodeName translateError

def unlinkParent (path : Path) : ParentLookup :=
  match strrchr path with
  | some (filename, baseName) => parentAt filename baseName translateError
  | none => return .ok (EXT2_ROOT_INO, path)

/-- The part of `node_ext2fs_symlink` after the lookup of the parent directory. -/
def symlinkInto (src dest : Path) (parent : Ino) (nodeName : Name) : Routine Int := do
  let err ← expanding parent (ext2fsSymlink parent nodeName src)
  if err ≠ 0 then
    return ← translateError err
  let (ret, _) ← updateMtime parent none
  if ret ≠ 0 then
    return ret
  rewriteChild dest

/-- The part of `node_ext2fs_rename` after both lookups. -/
def renameInto (fromPath toPath : Path) (fromIno toIno fromDirIno toDirIno : Ino) (toName : Name) :
    Routine Int := do
  let ret ← renameTarget toIno toPath
  if ret ≠ 0 then
    return ret
  renameMove fromIno fromDirIno toDirIno toName fromPath

/-- A function that changes a copy of its path returns when there is no memory for it. -/
def withCopy (rest : Routine Int) : Routine Int := do
  if !(← strdup) then
    return -ENOMEM
  rest

theorem onParent_parentAt (path : Path) (name : Name) (failure : Errcode → Routine Int)
    (rest : Ino → Name → Routine Int) :
    onParent (parentAt path name failure) rest =
      ext2fsNamei path >>= fun answer =>
        if answer.1 ≠ 0 then failure answer.1 else rest answer.2 name := by
  rw [onParent, parentAt, bind_assoc]
  apply congrArg (ext2fsNamei path >>= ·)
  funext answer
  by_cases failed : answer.1 ≠ 0
  · dsimp only
    rw [if_pos failed, if_pos failed, bind_assoc]
    exact bind_pure (failure answer.1)
  · dsimp only
    rw [if_neg failed, if_neg failed]
    rfl

theorem nodeExt2fsLink_parent (src dest : Path) :
    nodeExt2fsLink src dest = withCopy (onParent (linkParent dest) (linkInto src)) := by
  rw [nodeExt2fsLink, linkParent]
  cases strrchr dest with
  | none => rfl
  | some parts =>
      dsimp only
      rw [onParent_parentAt]
      rfl

theorem nodeExt2fsSymlink_parent (src dest : Path) :
    nodeExt2fsSymlink src dest = withCopy (onParent (symlinkParent dest) (symlinkInto src dest)) := by
  rw [nodeExt2fsSymlink, symlinkParent]
  cases strrchr dest with
  | none => rfl
  | some parts =>
      dsimp only
      rw [onParent_parentAt]
      rfl

theorem unlinkFileByName_parent (path : Path) :
    unlinkFileByName path = onParent (unlinkParent path) unlinkName := by
  rw [unlinkFileByName, unlinkParent]
  cases strrchr path with
  | none => rfl
  | some parts =>
      dsimp only
      rw [onParent_parentAt]

theorem renameBetween_parent (fromPath toPath : Path) (fromIno toIno : Ino) :
    renameBetween fromPath toPath fromIno toIno =
      onParent (renameParent fromPath) fun fromDirIno _ =>
        onParent (renameParent toPath) fun toDirIno toName =>
          renameInto fromPath toPath fromIno toIno fromDirIno toDirIno toName := rfl

end NodeExt2fs.Glue
