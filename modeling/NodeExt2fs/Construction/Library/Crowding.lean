import NodeExt2fs.Construction.Glue.Links
import NodeExt2fs.Construction.Glue.Rename
import NodeExt2fs.Construction.Library.Reference

/-!
This file follows the entries of one directory while a name is added to it, and the room in its blocks.
-/

namespace NodeExt2fs.Library
open Programs Glue

/-- The entries of the directory, and whether its blocks have room for one more. -/
structure Crowd where
  entries : List DirEntry
  room : Bool
  deriving DecidableEq

/-- The place of a new name, with the inodes of the other paths that are looked up. The inodes that are
taken before the call are given, and which of them are directories. -/
structure Site where
  dir : Ino
  path : Path
  name : Name
  resolve : Path → Option Ino
  taken : Ino → Bool
  isDir : Ino → Bool
  directories : ∀ ino, isDir ino = true → taken ino = true

/-- What a lookup finds: the path of the new name leads to its entry, if there is one. -/
def Site.lookup (site : Site) (entries : List DirEntry) (path : Path) : Option Ino :=
  if path = site.path then (entries.find? fun entry => entry.name = site.name).map DirEntry.inode
  else site.resolve path

/-- The answer of a lookup. -/
def found : Option Ino → Errcode × Ino
  | some ino => (0, ino)
  | none => (EXT2_ET_FILE_NOT_FOUND, 0)

/-- The entry is new, and all others are the old ones. -/
def Added (crowd : Crowd) (entry : DirEntry) (entries : List DirEntry) : Prop :=
  ∃ before after, crowd.entries = before ++ after ∧ entries = before ++ entry :: after

/-- Such an entry is added where there is room, and the call fails without a change where there is
none. -/
def Entered (crowd : Crowd) (such : DirEntry → Prop) (code : Errcode) (crowd' : Crowd) : Prop :=
  if crowd.room then code = 0 ∧ ∃ entry, such entry ∧ Added crowd entry crowd'.entries
  else code = EXT2_ET_DIR_NO_SPACE ∧ crowd' = crowd

/-- The entry has the name, and an inode that was free. -/
def Site.Fresh (site : Site) (name : Name) (entry : DirEntry) : Prop :=
  entry.name = name ∧ entry.inode ≠ 0 ∧ site.taken entry.inode = false

/-- What libext2fs does with the directory while nothing but the room in its blocks is missing. -/
def crowding (site : Site) : Contract Call Answer Crowd where
  permits _ _ := True
  allows crowd call answer crowd' :=
    match call, answer with
    | .namei path, answer | .nameiFollow path, answer =>
        answer = found (site.lookup crowd.entries path) ∧ crowd' = crowd
    | .link dir name ino fileType, code =>
        if dir = site.dir ∧ ino ≠ 0 then
          Entered crowd (fun entry => entry = { inode := ino, name := name, fileType := fileType })
            code crowd'
        else crowd' = crowd
    | .mkdir dir ino name, code =>
        if dir = site.dir ∧ ino ≠ 0 then
          Entered crowd
            (fun entry => entry = { inode := ino, name := name, fileType := EXT2_FT_DIR }) code crowd'
        else crowd' = crowd
    | .symlink dir name _, code =>
        if dir = site.dir then Entered crowd (site.Fresh name) code crowd' else crowd' = crowd
    | .expandDir dir, code => code = 0 ∧ crowd'.entries = crowd.entries ∧
        crowd'.room = (crowd.room || dir == site.dir)
    | .unlink dir name, code => code = 0 ∧ crowd'.entries = if dir = site.dir then
          crowd.entries.eraseP fun entry => entry.name = name
        else crowd.entries
    | .dirIterate dir _, answer => answer.1 = 0 ∧ (dir ≠ site.dir → crowd' = crowd)
    | .newInode _ _, answer =>
        answer.1 = 0 ∧ answer.2 ≠ 0 ∧ site.taken answer.2 = false ∧ crowd' = crowd
    | .strdup, answer => answer = true ∧ crowd' = crowd
    -- A file that the operation has made is no directory.
    | .checkDirectory ino, code => (code = 0 ↔ site.isDir ino = true) ∧ crowd' = crowd
    | call, answer => call.code answer = 0 ∧ crowd' = crowd

/-- One more entry at the end, if there is room. -/
def Crowd.enter (crowd : Crowd) (entry : DirEntry) : Errcode × Crowd :=
  if crowd.room then (0, { crowd with entries := crowd.entries ++ [entry] })
  else (EXT2_ET_DIR_NO_SPACE, crowd)

/-- The directory in memory. Every new inode has the number 13, and a call succeeds where the directory
is not concerned. -/
def crowded (site : Site) : Handler Call Answer Crowd
  | .namei path, crowd | .nameiFollow path, crowd =>
      (found (site.lookup crowd.entries path), crowd)
  | .link dir name ino fileType, crowd =>
      if dir = site.dir ∧ ino ≠ 0 then
        crowd.enter { inode := ino, name := name, fileType := fileType }
      else ((0 : Errcode), crowd)
  | .mkdir dir ino name, crowd =>
      if dir = site.dir ∧ ino ≠ 0 then
        crowd.enter { inode := ino, name := name, fileType := EXT2_FT_DIR }
      else ((0 : Errcode), crowd)
  | .symlink dir name _, crowd =>
      if dir = site.dir then
        crowd.enter { inode := 13, name := name, fileType := EXT2_FT_SYMLINK }
      else ((0 : Errcode), crowd)
  | .expandDir dir, crowd =>
      ((0 : Errcode), { crowd with room := crowd.room || dir == site.dir })
  | .unlink dir name, crowd =>
      ((0 : Errcode), { crowd with
        entries := if dir = site.dir then crowd.entries.eraseP fun entry => entry.name = name
          else crowd.entries })
  | .dirIterate _ _, crowd => (((0 : Errcode), []), crowd)
  | .newInode _ _, crowd => (((0 : Errcode), 13), crowd)
  | .checkDirectory ino, crowd =>
      (if site.isDir ino then (0 : Errcode) else EXT2_ET_NO_DIRECTORY, crowd)
  | call, crowd => ((reference call (Volume.holding [])).1, crowd)

/-- The operations that add a name. -/
inductive Creation where
  | open (path : Path) (flags mode : BitVec 32)
  | mkdir (path : Path) (mode : BitVec 32)
  | link (src dest : Path)
  | symlink (src dest : Path)
  | rename (fromPath toPath : Path)
  deriving DecidableEq

def Creation.routine : Creation → Routine Int
  | .open path flags mode => nodeExt2fsOpen path flags mode
  | .mkdir path mode => nodeExt2fsMkdir path mode
  | .link src dest => nodeExt2fsLink src dest
  | .symlink src dest => nodeExt2fsSymlink src dest
  | .rename fromPath toPath => nodeExt2fsRename fromPath toPath

/-- The path of the new name. -/
def Creation.path : Creation → Path
  | .open path _ _ | .mkdir path _ | .link _ path | .symlink _ path | .rename _ path => path

/-- The operations that expand a directory without room, and accept what they have made. An `open` that
asks for a directory makes a file first. -/
def Creation.recovers : Creation → Bool
  | .open _ flags _ => !hasFlag flags O_DIRECTORY
  | .mkdir _ _ => false
  | .link _ _ | .symlink _ _ | .rename _ _ => true

/-- The inode of the new name: that of the other path, or one that was free. -/
def Creation.Names (site : Site) (entry : DirEntry) : Creation → Prop
  | .open _ _ _ | .mkdir _ _ | .symlink _ _ => site.Fresh site.name entry
  | .link src _ => entry.name = site.name ∧ site.resolve src = some entry.inode
  | .rename fromPath _ => entry.name = site.name ∧ site.resolve fromPath = some entry.inode

/-- The entries without the old name of a rename inside the directory. -/
def Creation.leaves (site : Site) (entries : List DirEntry) : Creation → List DirEntry
  | .rename fromPath _ =>
      match strrchr fromPath with
      | some (source, fromName) =>
          if site.resolve source = some site.dir then
            entries.eraseP fun entry => entry.name = fromName
          else entries
      | none => entries
  | _ => entries

/-- The other paths of a creation lead to inodes: an existing file, and for a rename the directory of its
old name. No directory is moved into itself. -/
def Creation.Sourced (site : Site) : Creation → Prop
  | .open _ flags _ => hasFlag flags O_CREAT = true
  | .mkdir _ _ | .symlink _ _ => True
  | .link src _ => src ≠ site.path ∧ ∃ ino, site.resolve src = some ino ∧ ino ≠ 0
  | .rename fromPath _ =>
      fromPath ≠ site.path ∧ (∃ ino, site.resolve fromPath = some ino ∧ ino ≠ 0 ∧ ino ≠ site.dir) ∧
        ∃ source fromName fromDir outer, strrchr fromPath = some (source, fromName) ∧
          source ≠ site.path ∧ source ++ [slash] ≠ site.path ∧ site.resolve source = some fromDir ∧
          site.resolve (source ++ [slash]) = some outer ∧ outer ≠ 0 ∧
          (fromDir = site.dir → fromName ≠ site.name)

/-- Nothing but room can be missing: the path is that of a new name in the directory, and its parent and
the other paths of the operation are there. -/
structure Creation.Ready (site : Site) (crowd : Crowd) (creation : Creation) : Prop where
  path : creation.path = site.path
  parent : ∃ before, strrchr site.path = some (before, site.name) ∧
    site.resolve (before ++ [slash]) = some site.dir
  dir : site.dir ≠ 0
  name : site.name ≠ []
  absent : (crowd.entries.find? fun entry => entry.name = site.name) = none
  sourced : creation.Sourced site

/-- The operation succeeds, and the directory has its old entries and the new one. -/
def Creation.Creates (site : Site) (crowd : Crowd) (creation : Creation) (ret : Int) (crowd' : Crowd) :
    Prop :=
  0 ≤ ret ∧ ∃ entry entries, creation.Names site entry ∧ Added crowd entry entries ∧
    crowd'.entries = creation.leaves site entries

end NodeExt2fs.Library
