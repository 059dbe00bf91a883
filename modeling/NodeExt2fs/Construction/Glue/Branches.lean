import NodeExt2fs.Construction.Glue.Links

/-!
This file leaves open what the branches for a missing file name do.
-/

namespace NodeExt2fs.Glue

/-- The copy of the first `parent_len` bytes, which `get_parent_dir_ino` looks up. -/
def parentPath (path : Path) : Option Path :=
  match strrchr path with
  | none => none
  | some (before, _) => some (path.take (before.length + 1))

/-- The looked up path ends with the slash. -/
theorem parentPath_split {path before : Path} {name : Name} (split : strrchr path = some (before, name)) :
    parentPath path = some (before ++ [slash]) := by
  have joined : path = (before ++ [slash]) ++ name := by
    rw [(strrchr_eq_some split).1, List.append_assoc]
    rfl
  have count : (before ++ [slash]).length = before.length + 1 := by
    rw [List.length_append, List.length_singleton]
  have front : path.take (before.length + 1) = before ++ [slash] := by
    rw [joined]
    exact List.take_left' count
  rw [parentPath, split]
  exact congrArg some front

theorem getParentDirIno_parentPath (path : Path) :
    getParentDirIno path =
      match parentPath path with
      | none => return 0
      | some parentPath => stringToInode parentPath true := by
  unfold getParentDirIno
  cases split : strrchr path with
  | none => simp only [parentPath, split]
  | some parts => simp only [parentPath_split split]

/-- `create_file` with another branch in place of "This should never happen". -/
def createFileOr (never : Ino → Routine (Errcode × Ino)) (path : Path) (mode : BitVec 32) :
    Routine (Errcode × Ino) := do
  let parentIno ← getParentDirIno path
  if parentIno = 0 then
    return (ENOTDIR, 0)
  let (ret, ino) ← ext2fsNewInode parentIno mode
  if ret ≠ 0 then
    return (ret, ino)
  match getFilename path with
  | none => never ino
  | some filename =>
      let ret ← expanding parentIno (ext2fsLink parentIno filename ino EXT2_FT_REG_FILE)
      if ret ≠ 0 then
        return (ret, ino)
      return (← fillFile ino mode, ino)

theorem createFileOr_eisdir (path : Path) (mode : BitVec 32) :
    createFileOr (fun ino => return (EISDIR, ino)) path mode = createFile path mode := rfl

/-- `node_ext2fs_mkdir` with another branch in place of "This should never happen". -/
def nodeExt2fsMkdirOr (never : Routine Int) (path : Path) (mode : BitVec 32) : Routine Int := do
  let parentIno ← getParentDirIno path
  if parentIno = 0 then
    return -ENOTDIR
  match getFilename path with
  | none => never
  | some filename =>
      let (ret, newdir) ← ext2fsNewInode parentIno (LINUX_S_IFDIR.setWidth 32)
      if ret ≠ 0 then
        return -ret
      let ret ← ext2fsMkdir parentIno newdir filename
      if ret ≠ 0 then
        return -ret
      let (ret, inode) ← ext2fsReadInode newdir
      if ret ≠ 0 then
        return -ret
      let ret ← ext2fsWriteInode newdir { inode with iMode := withFormat mode LINUX_S_IFDIR }
      return -ret

theorem nodeExt2fsMkdirOr_eisdir (path : Path) (mode : BitVec 32) :
    nodeExt2fsMkdirOr (return -EISDIR) path mode = nodeExt2fsMkdir path mode := rfl

/-- A path without a slash has no parent, and one that ends with a name has a file name. -/
theorem branch_dead {path : Path} (named : slash ∈ path → getFilename path ≠ none) :
    getParentDirIno path = pure 0 ∨ ∃ name, getFilename path = some name := by
  cases split : strrchr path with
  | none =>
      left
      rw [getParentDirIno, split]
  | some parts =>
      right
      apply Option.ne_none_iff_exists'.mp
      apply named
      rw [(strrchr_eq_some split).1]
      exact List.mem_append_right _ List.mem_cons_self

theorem createFileOr_dead {path : Path} (named : slash ∈ path → getFilename path ≠ none)
    (never : Ino → Routine (Errcode × Ino)) (mode : BitVec 32) :
    createFileOr never path mode = createFile path mode := by
  rcases branch_dead named with root | ⟨name, found⟩
  · rw [createFileOr, createFile, root]
    rfl
  · rw [createFileOr, createFile, found]

theorem nodeExt2fsMkdirOr_dead {path : Path} (named : slash ∈ path → getFilename path ≠ none)
    (never : Routine Int) (mode : BitVec 32) :
    nodeExt2fsMkdirOr never path mode = nodeExt2fsMkdir path mode := by
  rcases branch_dead named with root | ⟨name, found⟩
  · rw [nodeExt2fsMkdirOr, nodeExt2fsMkdir, root]
    rfl
  · rw [nodeExt2fsMkdirOr, nodeExt2fsMkdir, found]

end NodeExt2fs.Glue
