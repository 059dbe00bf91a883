import NodeExt2fs.Construction.Js.Names
import NodeExt2fs.Construction.Library.Census
import NodeExt2fs.Construction.Library.Contract

/-!
This file says which updates of link counts are safe, and how the counts and the names of a filesystem
go together when directories may have stopped counting.
-/

namespace NodeExt2fs.Library
open Programs Structures Glue

/-- The names are well-formed. A file has no more names than its count says, and a directory that is
in use is referred to at least as often as its count says, which is not zero. -/
structure Census.Tallied (census : Census) : Prop extends Shaped census where
  files : ∀ ino, census.isDir ino = false → census.references ino ≤ census.links ino
  directories : ∀ dir, census.Live dir →
    0 < census.links dir ∧ census.links dir ≤ census.references dir

namespace Volume

/-- The root has its path, and any other inode needs an entry in a directory that is in use. -/
def HasName (volume : Volume) (ino : Ino) : Prop :=
  ino = EXT2_ROOT_INO ∨ ∃ place ∈ volume.census.names, Plain place.2 ∧ place.2.inode = ino

/-- An update keeps a count or changes it by one, and zero is only for an inode without a name. -/
def SafeCount (volume : Volume) (ino : Ino) (count : BitVec 16) : Prop :=
  count = volume.links ino ∨ count.toNat = (volume.links ino).toNat + 1 ∨
    count.toNat + 1 = (volume.links ino).toNat ∧ (count = 0 → ¬volume.HasName ino)

/-- A filesystem whose directories may have stopped counting. -/
structure Tallied (volume : Volume) : Prop where
  census : volume.census.Tallied
  bounded : ∀ ino, volume.inUse ino = true → ino ≤ volume.inodesCount

theorem Tallied.placed {volume : Volume} (tallied : volume.Tallied) : volume.Placed :=
  ⟨tallied.census.toShaped, tallied.bounded⟩

/-- An inode with a name is in use, and its count is not zero. -/
def Counts (volume : Volume) : Prop :=
  ∀ ino, volume.HasName ino → volume.inUse ino = true ∧ volume.links ino ≠ 0

end Volume

/-- A record that is stored has a safe count, and an inode that is freed has no name. -/
def safeCall (volume : Volume) : Call → Prop
  | .writeInode ino inode => volume.SafeCount ino inode.iLinksCount
  | .writeInodeFull ino inode => volume.SafeCount ino inode.iLinksCount
  | .freeExtAttr ino inode => volume.SafeCount ino inode.iLinksCount
  | .punch ino inode => volume.SafeCount ino inode.iLinksCount
  | .inodeAllocStats ino inuse _ => inuse < 0 → ¬volume.HasName ino
  | _ => True

/-- The contract of a steady library that permits only safe updates. -/
def updating (resolver : Resolver) : Contract Call Answer Volume where
  permits := safeCall
  allows := effect resolver True

/-- Whatever the library does, each update of the call is safe. -/
def Careful (resolver : Resolver) (volume : Volume) (operation : Js.NameOperation) : Prop :=
  ∀ routine, operation.routine? = some routine →
    Program.wp (updating resolver) routine (fun _ _ => True) volume

/-- The calls that change the counts of inodes that exist. -/
def recounts : Js.NameOperation → Bool
  | .link _ _ | .rename _ _ | .unlink _ | .rmdir _ => true
  | .open _ _ _ | .mkdir _ _ | .symlink _ _ => false

end NodeExt2fs.Library
