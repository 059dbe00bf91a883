import NodeExt2fs.Construction.Library.Volume
import NodeExt2fs.Structures.Shelves

/-!
This file counts the names of a volume, and says what is well-formed about them and how they may
change.
-/

namespace NodeExt2fs.Library
open Structures Glue

/-- The inodes below are reserved, the root apart. -/
abbrev EXT2_GOOD_OLD_FIRST_INO : Ino := 11

/-- A name that is neither of the two that every directory has. -/
def Plain (entry : DirEntry) : Prop := entry.name ≠ dot ∧ entry.name ≠ dotdot

instance : DecidablePred Plain := fun _ => instDecidableAnd

/-- An entry with its directory. -/
abbrev Place := Ino × DirEntry

/-- The inodes of a filesystem with their links, and the places of the names. -/
structure Census where
  inUse : Ino → Bool
  isDir : Ino → Bool
  links : Ino → Nat
  names : Multiset Place

namespace Census

/-- A directory that is in use. -/
def Live (census : Census) (dir : Ino) : Prop :=
  census.inUse dir = true ∧ census.isDir dir = true

/-- The names that refer to an inode. -/
def references (census : Census) (ino : Ino) : Nat :=
  census.names.countP fun place => place.2.inode = ino

/-- The names that refer to an inode, without those that every directory has. -/
def outer (census : Census) (ino : Ino) : Nat :=
  census.names.countP fun place => place.2.inode = ino ∧ Plain place.2

/-- The entries of one name in a directory. -/
def named (census : Census) (dir : Ino) (name : Name) : Nat :=
  census.names.countP fun place => place.1 = dir ∧ place.2.name = name

/-- Each directory but the root has one name, and its entries for itself and for the directory of
that name. -/
structure Shaped (census : Census) : Prop where
  null : census.inUse 0 = false
  root : census.Live EXT2_ROOT_INO
  held : ∀ place ∈ census.names, census.Live place.1 ∧ census.inUse place.2.inode = true ∧
    place.2.name ≠ []
  selfOnce : ∀ dir, census.Live dir → census.named dir dot = 1
  self : ∀ place ∈ census.names, place.2.name = dot → place.2.inode = place.1
  parentOnce : ∀ dir, census.Live dir → census.named dir dotdot = 1
  rootParent : ∀ place ∈ census.names, place.2.name = dotdot → place.1 = EXT2_ROOT_INO →
    place.2.inode = EXT2_ROOT_INO
  rootAlone : census.outer EXT2_ROOT_INO = 0
  once : ∀ dir, census.Live dir → dir ≠ EXT2_ROOT_INO → census.outer dir = 1
  parent : ∀ place ∈ census.names, place.2.name = dotdot → place.1 ≠ EXT2_ROOT_INO →
    ∃ name ∈ census.names, name.2.inode = place.1 ∧ Plain name.2 ∧ name.1 = place.2.inode

/-- The count of an inode is that of its names. Where the counts are not exact, that of a file may
be too high. -/
structure Counted (exact : Prop) (census : Census) (ino : Ino) : Prop where
  counted : 0 < census.references ino → census.isDir ino = true ∨ exact →
    census.links ino = census.references ino
  covered : census.isDir ino = false → census.references ino ≤ census.links ino
  referred : exact → census.inUse ino = true → census.isDir ino = false →
    EXT2_GOOD_OLD_FIRST_INO ≤ ino → 0 < census.references ino

structure Sound (exact : Prop) (census : Census) : Prop extends Shaped census where
  counts : ∀ ino, census.Counted exact ino

/-- The second directory is the first one or below it. -/
inductive Inside (census : Census) (top : Ino) : Ino → Prop where
  | here : Inside census top top
  | deeper {place : Place} (above : Inside census top place.1) (member : place ∈ census.names)
      (plain : Plain place.2) (live : census.Live place.2.inode) : Inside census top place.2.inode

/-- Every directory is below the root. -/
def Rooted (census : Census) : Prop := ∀ dir, census.Live dir → census.Inside EXT2_ROOT_INO dir

/-- A place for the name of a file or a directory. -/
structure Proper (census : Census) (place : Place) : Prop where
  holder : census.Live place.1
  plain : Plain place.2
  nonempty : place.2.name ≠ []

/-- The changes of the names, with the changes of the counts that go with them. The count of a file
may be too high, and a directory may be moved into itself, where the parameters allow it. -/
inductive Edit (exact rooted : Prop) (before : Census) : Census → Prop where
  | file (place : Place) (proper : before.Proper place)
      (fresh : before.inUse place.2.inode = false) (positive : place.2.inode ≠ 0) :
      Edit exact rooted before
        { inUse := Function.update before.inUse place.2.inode true
          isDir := Function.update before.isDir place.2.inode false
          links := Function.update before.links place.2.inode 1
          names := place ::ₘ before.names }
  | directory (place : Place) (own up : DirEntry) (proper : before.Proper place)
      (fresh : before.inUse place.2.inode = false) (positive : place.2.inode ≠ 0)
      (ownName : own.name = dot) (ownInode : own.inode = place.2.inode)
      (upName : up.name = dotdot) (upInode : up.inode = place.1) :
      Edit exact rooted before
        { inUse := Function.update before.inUse place.2.inode true
          isDir := Function.update before.isDir place.2.inode true
          links := Function.update
            (Function.update before.links place.1 (before.links place.1 + 1)) place.2.inode 2
          names := place ::ₘ (place.2.inode, own) ::ₘ (place.2.inode, up) ::ₘ before.names }
  | name (place : Place) (count : Nat) (proper : before.Proper place)
      (used : before.inUse place.2.inode = true) (isFile : before.isDir place.2.inode = false)
      (exactly : exact → count = before.references place.2.inode + 1)
      (covers : before.references place.2.inode + 1 ≤ count) :
      Edit exact rooted before
        { before with
          links := Function.update before.links place.2.inode count
          names := place ::ₘ before.names }
  | count (ino : Ino) (count : Nat) (isFile : before.isDir ino = false)
      (exactly : exact → count = before.links ino)
      (covers : before.references ino ≤ count) :
      Edit exact rooted before { before with links := Function.update before.links ino count }
  | unname (place : Place) (rest : Multiset Place) (split : before.names = place ::ₘ rest)
      (isFile : before.isDir place.2.inode = false) :
      Edit exact rooted before
        { before with
          inUse :=
            if before.links place.2.inode = 1 then Function.update before.inUse place.2.inode false
            else before.inUse
          links := Function.update before.links place.2.inode (before.links place.2.inode - 1)
          names := rest }
  | undirectory (place : Place) (own up : DirEntry) (rest : Multiset Place)
      (split : before.names =
        place ::ₘ (place.2.inode, own) ::ₘ (place.2.inode, up) ::ₘ rest)
      (isDirectory : before.isDir place.2.inode = true) (plain : Plain place.2)
      (ownName : own.name = dot) (upName : up.name = dotdot) (apart : place.1 ≠ place.2.inode)
      (vacant : ∀ other ∈ rest, other.1 ≠ place.2.inode) :
      Edit exact rooted before
        { before with
          inUse := Function.update before.inUse place.2.inode false
          links := Function.update
            (Function.update before.links place.1 (before.links place.1 - 1)) place.2.inode 0
          names := rest }
  | move (place place' : Place) (rest : Multiset Place) (split : before.names = place ::ₘ rest)
      (same : place'.2.inode = place.2.inode) (isFile : before.isDir place.2.inode = false)
      (proper : before.Proper place') :
      Edit exact rooted before { before with names := place' ::ₘ rest }
  | moveDirectory (place place' : Place) (up up' : DirEntry) (rest : Multiset Place)
      (split : before.names = place ::ₘ (place.2.inode, up) ::ₘ rest)
      (same : place'.2.inode = place.2.inode) (isDirectory : before.isDir place.2.inode = true)
      (plain : Plain place.2) (proper : before.Proper place') (upName : up.name = dotdot)
      (upName' : up'.name = dotdot) (upInode' : up'.inode = place'.1)
      (apart : rooted → ¬before.Inside place.2.inode place'.1) :
      Edit exact rooted before
        { before with
          links :=
            let taken := Function.update before.links place.1 (before.links place.1 - 1)
            Function.update taken place'.1 (taken place'.1 + 1)
          names := place' ::ₘ (place.2.inode, up') ::ₘ rest }

end Census

namespace Volume

/-- The entries of a directory that is in use. -/
def liveEntries (volume : Volume) (dir : Ino) : List DirEntry :=
  if volume.inUse dir && volume.isDir dir then volume.entries dir else []

/-- The number of live entries that refer to an inode. -/
def references (volume : Volume) (ino : Ino) : Nat :=
  ∑ dir ∈ Finset.range (volume.inodesCount + 1),
    (volume.liveEntries dir).countP fun entry => entry.inode = ino

def census (volume : Volume) : Census where
  inUse := volume.inUse
  isDir := volume.isDir
  links ino := (volume.links ino).toNat
  names := places volume.liveEntries volume.inodesCount

/-- A filesystem without errors, as far as its names go. -/
structure Placed (volume : Volume) : Prop where
  shaped : volume.census.Shaped
  bounded : ∀ ino, volume.inUse ino = true → ino ≤ volume.inodesCount

/-- A filesystem without errors, as far as its names and its counts go. -/
structure WellFormed (exact rooted : Prop) (volume : Volume) : Prop where
  sound : volume.census.Sound exact
  rooted : rooted → volume.census.Rooted
  bounded : ∀ ino, volume.inUse ino = true → ino ≤ volume.inodesCount

theorem WellFormed.placed {exact rooted : Prop} {volume : Volume}
    (formed : volume.WellFormed exact rooted) : volume.Placed :=
  ⟨formed.sound.toShaped, formed.bounded⟩

/-- Every count is that of the live entries, every entry refers to an inode in use, and no inode
stays in use after its last entry. The reserved inodes without entries have their own counts. -/
structure Balanced (volume : Volume) : Prop where
  counted : ∀ ino, volume.inUse ino = true →
    EXT2_GOOD_OLD_FIRST_INO ≤ ino ∨ 0 < volume.references ino →
    (volume.links ino).toNat = volume.references ino
  inUse : ∀ dir, ∀ entry ∈ volume.liveEntries dir, volume.inUse entry.inode = true
  freed : ∀ ino, volume.inUse ino = true → EXT2_GOOD_OLD_FIRST_INO ≤ ino →
    0 < volume.references ino

/-- An entry of a directory in use, for itself and its parent apart. -/
def Named (volume : Volume) (holder : Ino) (entry : DirEntry) : Prop :=
  entry ∈ volume.liveEntries holder ∧ Plain entry

/-- The directories that names lead to from the root. -/
inductive Reachable (volume : Volume) : Ino → Prop where
  | root : Reachable volume EXT2_ROOT_INO
  | deeper {holder : Ino} {entry : DirEntry} (above : Reachable volume holder)
      (named : volume.Named holder entry) : Reachable volume entry.inode

/-- Every directory in use is reachable, has one name outside itself, and its entry for its parent
refers to the directory of that name. The parent of the root is the root, which has no name. -/
structure Tree (volume : Volume) : Prop where
  reachable : ∀ dir, volume.inUse dir = true → volume.isDir dir = true → volume.Reachable dir
  named : ∀ dir, volume.inUse dir = true → volume.isDir dir = true → dir ≠ EXT2_ROOT_INO →
    ∃ holder entry, volume.Named holder entry ∧ entry.inode = dir ∧ holder ≠ dir ∧
      (∑ other ∈ Finset.range (volume.inodesCount + 1), (volume.liveEntries other).countP
        fun entry => entry.inode = dir ∧ Plain entry) = 1 ∧
      ∀ up ∈ volume.liveEntries dir, up.name = dotdot → up.inode = holder
  root : (∀ holder entry, volume.Named holder entry → entry.inode ≠ EXT2_ROOT_INO) ∧
    ∀ up ∈ volume.liveEntries EXT2_ROOT_INO, up.name = dotdot → up.inode = EXT2_ROOT_INO

end Volume

/-- A lookup finds only what the directories hold, from the root on. -/
def Resolver.Closed (resolver : Resolver) : Prop :=
  ∀ (volume : Volume) (found : Ino → Prop), found EXT2_ROOT_INO →
    (∀ dir name ino, found dir → volume.lookup dir name = .ok ino → found ino) →
    ∀ path ino, resolver.walk volume path = .ok ino ∨ resolver.walkFollow volume path = .ok ino →
      found ino

end NodeExt2fs.Library
