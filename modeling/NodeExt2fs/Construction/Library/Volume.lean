import NodeExt2fs.Construction.Glue.Rename
import NodeExt2fs.Construction.Glue.Links
import Mathlib.Logic.Function.Basic

/-!
This file defines what libext2fs keeps of a mounted filesystem, as far as names, links and open
files go.
-/

namespace NodeExt2fs.Library
open Glue

/-- An open file. It has its own copy of the inode. `wasInUse` tells whether the inode was allocated
when the file was opened, and `intact` that since then it was neither freed nor punched. -/
structure Handle where
  ino : Ino
  mode : BitVec 16
  links : BitVec 16
  wasInUse : Bool
  intact : Bool
  deriving DecidableEq

/-- The inodes and directories. `entries` are the live entries of a directory in their order,
`target` is what a symbolic link holds, `fits` tells whether a directory has space for one more
entry of a name, and `grows` whether it can be expanded. -/
structure Volume where
  inodesCount : Nat
  inUse : Ino → Bool
  mode : Ino → BitVec 16
  links : Ino → BitVec 16
  target : Ino → Path
  entries : Ino → List DirEntry
  fits : Ino → Name → Bool
  grows : Ino → Bool
  files : Ptr → Option Handle

namespace Volume

def isDir (volume : Volume) (ino : Ino) : Bool := linuxSIsdir (volume.mode ino)

def isLnk (volume : Volume) (ino : Ino) : Bool :=
  linuxSIslnk (volume.mode ino)

/-- The first entry of the name. -/
def find (volume : Volume) (dir : Ino) (name : Name) : Option DirEntry :=
  (volume.entries dir).find? fun entry => entry.name = name

/-- `ext2fs_lookup`. -/
def lookup (volume : Volume) (dir : Ino) (name : Name) : Except Errcode Ino :=
  if volume.isDir dir then
    match volume.find dir name with
    | some entry => .ok entry.inode
    | none => .error EXT2_ET_FILE_NOT_FOUND
  else .error EXT2_ET_NO_DIRECTORY

/-- The volumes differ at most in the space of their directories. -/
def Like (volume volume' : Volume) : Prop :=
  ∃ fits grows, volume' = { volume with fits := fits, grows := grows }

def setEntries (volume : Volume) (dir : Ino) (entries : List DirEntry) : Volume :=
  { volume with entries := Function.update volume.entries dir entries }

/-- The content of a file, which is entries in a directory and a target in a symbolic link. -/
def setContent (volume : Volume) (ino : Ino) (entries : List DirEntry) (target : Path) : Volume :=
  { volume.setEntries ino entries with target := Function.update volume.target ino target }

def setFile (volume : Volume) (file : Ptr) (handle : Option Handle) : Volume :=
  { volume with files := Function.update volume.files file handle }

/-- The inode table after an inode was written. -/
def written (volume : Volume) (ino : Ino) (mode links : BitVec 16) : Volume :=
  { volume with
    mode := Function.update volume.mode ino mode
    links := Function.update volume.links ino links }

/-- The blocks of an inode are gone, or the inode itself. -/
def breakHandles (volume : Volume) (ino : Ino) : Volume :=
  { volume with
    files := fun file => (volume.files file).map fun handle =>
      if handle.ino = ino then { handle with intact := false } else handle }

/-- The blocks that a file gives up are gone for the other open files of its inode. -/
def breakOthers (volume : Volume) (file : Ptr) : Volume :=
  { volume with
    files := fun other => (volume.files other).map fun handle =>
      if other ≠ file ∧ (volume.files file).map Handle.ino = some handle.ino then
        { handle with intact := false }
      else handle }

theorem breakOthers_self (volume : Volume) (file : Ptr) :
    (volume.breakOthers file).files file = volume.files file := by
  simp [breakOthers]

/-- An open file keeps its copy of the inode. -/
theorem copy_of_breakOthers {volume : Volume} {file other : Ptr} {handle' : Handle}
    (found : (volume.breakOthers file).files other = some handle') :
    ∃ handle, volume.files other = some handle ∧ handle'.ino = handle.ino ∧
      handle'.mode = handle.mode := by
  obtain ⟨handle, opened, broken⟩ := Option.map_eq_some_iff.mp found
  refine ⟨handle, opened, ?_⟩
  rw [← broken]
  split
  · exact ⟨rfl, rfl⟩
  · exact ⟨rfl, rfl⟩

/-- `ext2fs_inode_alloc_stats2`. -/
def allocStats (volume : Volume) (ino : Ino) (inuse : Int) : Volume :=
  let volume := { volume with inUse := Function.update volume.inUse ino (decide (0 < inuse)) }
  if inuse < 0 then volume.breakHandles ino else volume

/-- `rmdir_proc` finds no name in the directory. -/
def FoundEmpty (volume : Volume) (ino : Ino) : Prop :=
  ((volume.entries ino).foldl rmdirProc { parent := 0, empty := true }).empty = true

/-- The entries of a new directory. -/
def dotEntries (parent ino : Ino) : List DirEntry :=
  [{ inode := ino, name := dot, fileType := EXT2_FT_DIR },
    { inode := parent, name := dotdot, fileType := EXT2_FT_DIR }]

/-- `ext2fs_mkdir`, with the new entry between the given ones. -/
def makeDir (volume : Volume) (parent ino : Ino) (name : Name) (mode : BitVec 16)
    (before after : List DirEntry) : Volume :=
  { volume with
    inUse := Function.update volume.inUse ino true
    mode := Function.update volume.mode ino mode
    links := Function.update
      (Function.update volume.links parent (volume.links parent + 1)) ino 2
    entries := Function.update
      (Function.update volume.entries parent
        (before ++ { inode := ino, name := name, fileType := EXT2_FT_DIR } :: after))
      ino (dotEntries parent ino) }

/-- `ext2fs_symlink`, with the new entry between the given ones. -/
def makeSymlink (volume : Volume) (parent ino : Ino) (name : Name) (target : Path)
    (mode : BitVec 16) (before after : List DirEntry) : Volume :=
  { volume with
    inUse := Function.update volume.inUse ino true
    mode := Function.update volume.mode ino mode
    links := Function.update volume.links ino 1
    target := Function.update volume.target ino target
    entries := Function.update volume.entries parent
      (before ++ { inode := ino, name := name, fileType := EXT2_FT_SYMLINK } :: after) }

end Volume

/-- Path lookup below the root: `ext2fs_namei` and `ext2fs_namei_follow`. The trail of a path has
the directories and the names that the lookup visits. -/
structure Resolver where
  walk : Volume → Path → Except Errcode Ino
  walkFollow : Volume → Path → Except Errcode Ino
  trail : Volume → Path → List (Ino × Name)
  /-- An empty path is the root. -/
  walk_nil (volume : Volume) : walk volume [] = .ok EXT2_ROOT_INO
  /-- A path without slashes is a name in the root. -/
  walk_name (volume : Volume) (name : Name) (nonempty : name ≠ []) (clean : slash ∉ name) :
    walk volume name = volume.lookup EXT2_ROOT_INO name
  /-- The last component is looked up in the directory of the rest. -/
  walk_split (volume : Volume) (before : Path) (name : Name) (nonempty : name ≠ [])
    (clean : slash ∉ name) : walk volume (before ++ slash :: name) =
      (walk volume (before ++ [slash])).bind fun dir => volume.lookup dir name
  /-- A slash at the end of a directory's path changes nothing. -/
  walk_slash (volume : Volume) (before : Path) (dir ino : Ino)
    (outer : walk volume (before ++ [slash]) = .ok dir) (inner : walk volume before = .ok ino)
    (isDir : volume.isDir ino = true) : ino = dir
  /-- A slash at the end leaves nothing to follow. -/
  walkFollow_slash (volume : Volume) (before : Path) :
    walkFollow volume (before ++ [slash]) = walk volume (before ++ [slash])
  /-- What is no symbolic link is not followed. -/
  walkFollow_of_walk (volume : Volume) (path : Path) (ino : Ino) (found : walk volume path = .ok ino)
    (plain : volume.isLnk ino = false) : walkFollow volume path = .ok ino
  /-- A lookup depends on the entries on its trail and on the inodes they name. -/
  walk_frame (volume volume' : Volume) (path : Path)
    (same : ∀ step ∈ trail volume path, volume'.lookup step.1 step.2 = volume.lookup step.1 step.2 ∧
      ∀ ino, volume.lookup step.1 step.2 = .ok ino →
        volume'.isLnk ino = volume.isLnk ino ∧
          (volume.isLnk ino = true → volume'.target ino = volume.target ino)) :
    walk volume' path = walk volume path

/-- A path as `node_ext2fs_open` looks it up. -/
def Resolver.lookedUp (resolver : Resolver) (volume : Volume) (path : Path) (flags : BitVec 32) :
    Except Errcode Ino :=
  if !hasFlag flags O_NOFOLLOW then resolver.walkFollow volume path else resolver.walk volume path

end NodeExt2fs.Library
