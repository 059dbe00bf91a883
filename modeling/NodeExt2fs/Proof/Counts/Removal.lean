import NodeExt2fs.Proof.Counts.Updates
import NodeExt2fs.Proof.Trees.Freeing

/-!
This file shows that `remove_inode` is safe on an inode whose last count goes with its last name.
-/

namespace NodeExt2fs.Counting
open Programs Structures Glue Library
open Program (wp wp_pure wp_bind wp_ite wp_mono)
open Trees (mem_names)

variable {resolver : Resolver} {volume volume' volume'' : Volume}

/-- The directories in use have no entries that they did not have. -/
structure Fewer (volume volume' : Volume) : Prop where
  inodesCount : volume'.inodesCount = volume.inodesCount
  inUse : ∀ ino, volume'.inUse ino = true → volume.inUse ino = true
  isDir : volume'.isDir = volume.isDir
  entries : ∀ dir entry, volume'.inUse dir = true → entry ∈ volume'.entries dir →
    entry ∈ volume.entries dir

theorem Fewer.names (fewer : Fewer volume volume') {place : Place}
    (member : place ∈ volume'.census.names) : place ∈ volume.census.names := by
  obtain ⟨bounded, live, entry⟩ := mem_names.mp member
  have directory : volume'.isDir place.1 = true := live.2
  rw [fewer.isDir] at directory
  rw [fewer.inodesCount] at bounded
  exact mem_names.mpr ⟨bounded, ⟨fewer.inUse _ live.1, directory⟩, fewer.entries _ _ live.1 entry⟩

theorem Fewer.hasName (fewer : Fewer volume volume') {ino : Ino} (named : volume'.HasName ino) :
    volume.HasName ino := by
  rcases named with root | ⟨place, member, plain, refers⟩
  · exact .inl root
  · exact .inr ⟨place, fewer.names member, plain, refers⟩

theorem Fewer.trans (first : Fewer volume volume') (second : Fewer volume' volume'') :
    Fewer volume volume'' where
  inodesCount := second.inodesCount.trans first.inodesCount
  inUse ino used := first.inUse ino (second.inUse ino used)
  isDir := second.isDir.trans first.isDir
  entries dir entry used member :=
    first.entries dir entry (second.inUse dir used) (second.entries dir entry used member)

theorem fewer_written {ino : Ino} {mode links : BitVec 16} (same : mode = volume.mode ino) :
    Fewer volume (volume.written ino mode links) where
  inodesCount := rfl
  inUse _ used := used
  isDir := by
    funext other
    rw [Volume.isDir, same]
    show linuxSIsdir (Function.update volume.mode ino (volume.mode ino) other) = _
    rw [Function.update_eq_self]
    rfl
  entries _ _ _ member := member

theorem fewer_like (like : volume.Like volume') : Fewer volume volume' := by
  obtain ⟨fits, grows, same⟩ := like
  rw [same]
  exact ⟨rfl, fun _ used => used, rfl, fun _ _ _ member => member⟩

theorem fewer_sublist {ino : Ino} {entries : List DirEntry}
    (sublist : entries.Sublist (volume.entries ino)) : Fewer volume (volume.setEntries ino entries) where
  inodesCount := rfl
  inUse _ used := used
  isDir := rfl
  entries dir entry _ member := by
    change entry ∈ Function.update volume.entries ino entries dir at member
    by_cases same : dir = ino
    · rw [same, Function.update_self] at member
      rw [same]
      exact sublist.subset member
    · rwa [Function.update_of_ne same] at member

theorem fewer_broken (volume : Volume) (ino : Ino) : Fewer volume (volume.breakHandles ino) :=
  ⟨rfl, fun _ used => used, rfl, fun _ _ _ member => member⟩

/-- `remove_inode` adds no names. -/
theorem fewer_taken {ino : Ino} (taken : Trees.Taken volume volume' ino) : Fewer volume volume' where
  inodesCount := taken.inodesCount
  inUse other used := by
    rw [taken.inUse] at used
    by_cases last : volume.links ino = 1
    · rw [if_pos last] at used
      by_cases same : other = ino
      · rw [same, Function.update_self] at used
        cases used
      · rwa [Function.update_of_ne same] at used
    · rwa [if_neg last] at used
  isDir := by
    funext other
    rw [Volume.isDir, Volume.isDir, taken.mode]
  entries dir entry used member := by
    by_cases same : dir = ino
    · rw [same] at used member ⊢
      by_cases last : volume.links ino = 1
      · rw [taken.inUse, if_pos last, Function.update_self] at used
        cases used
      · rwa [taken.entries last] at member
    · rwa [taken.others dir same] at member

/-- An inode without a name whose count is at most one. -/
structure Leaving (volume : Volume) (ino : Ino) (mode : BitVec 16) : Prop where
  unnamed : ¬volume.HasName ino
  count : volume.links ino = 0 ∨ volume.links ino = 1
  mode : volume.mode ino = mode

/-- Its count may become zero. -/
theorem Leaving.safe {ino : Ino} {mode count : BitVec 16} (leaving : Leaving volume ino mode)
    (zero : count = 0) : volume.SafeCount ino count := by
  rw [zero]
  rcases leaving.count with none | one
  · exact .inl none.symm
  · refine .inr (.inr ⟨?_, fun _ => leaving.unnamed⟩)
    rw [one]
    rfl

theorem Leaving.written {ino : Ino} {mode count : BitVec 16} (leaving : Leaving volume ino mode)
    (zero : count = 0) : Leaving (volume.written ino mode count) ino mode where
  unnamed named := leaving.unnamed ((fewer_written leaving.mode.symm).hasName named)
  count := .inl ((Function.update_self _ _ _).trans zero)
  mode := Function.update_self _ _ _

theorem Leaving.fewer {ino : Ino} {mode : BitVec 16} (leaving : Leaving volume ino mode)
    (fewer : Fewer volume volume') (links : volume'.links ino = volume.links ino)
    (kind : volume'.mode ino = volume.mode ino) : Leaving volume' ino mode where
  unnamed named := leaving.unnamed (fewer.hasName named)
  count := links ▸ leaving.count
  mode := kind.trans leaving.mode

/-- `write_out` with a safe count. -/
theorem writeOut_careful {ino : Ino} {inode : InodeLarge} (ret : Int)
    (safe : volume.SafeCount ino inode.iLinksCount) :
    CarefulOn resolver volume (writeOut ino inode ret) := by
  rw [writeOut, CarefulOn, wp_bind]
  apply wp_safe (.writeInodeFull ino inode) safe
  exact fun code volume₁ _ => careful_ite (fun _ => translateError_careful _ _) fun _ => trivial

theorem Leaving.like {ino : Ino} {mode : BitVec 16} (leaving : Leaving volume ino mode)
    (like : volume.Like volume') : Leaving volume' ino mode := by
  have fewer := fewer_like like
  obtain ⟨fits, grows, same⟩ := like
  rw [same] at fewer ⊢
  exact leaving.fewer fewer rfl rfl

/-- What a punch leaves of an inode that leaves. -/
theorem punch_leaving {ino : Ino} {mode count : BitVec 16} {entries : List DirEntry}
    (leaving : Leaving volume ino mode) (zero : count = 0)
    (sublist : entries.Sublist (volume.entries ino))
    (like : ((volume.breakHandles ino).setEntries ino entries).Like volume' ∨
      (((volume.breakHandles ino).written ino mode count).setEntries ino entries).Like volume') :
    Leaving volume' ino mode := by
  have broken := leaving.fewer (fewer_broken volume ino) rfl rfl
  rcases like with like | like
  · have emptied := broken.fewer (@fewer_sublist (volume.breakHandles ino) ino entries sublist) rfl rfl
    exact emptied.like like
  · have stored := broken.written zero
    have emptied := stored.fewer
      (@fewer_sublist ((volume.breakHandles ino).written ino mode count) ino entries sublist) rfl rfl
    exact emptied.like like

/-- The end of `remove_inode`, with a record whose count is zero. -/
theorem freeInode_careful {ino : Ino} {inode : InodeLarge} (leaving : Leaving volume ino inode.iMode)
    (zero : inode.iLinksCount = 0) : CarefulOn resolver volume (freeInode ino inode) := by
  rw [freeInode, CarefulOn, wp_bind]
  apply wp_safe (.freeExtAttr ino inode) (leaving.safe zero)
  intro freed volume₁ allowed
  obtain ⟨keeps, _, stored⟩ := allowed
  have leaving₁ : Leaving volume₁ ino inode.iMode := by
    rcases stored with same | written
    · rw [same]
      exact leaving
    · rw [written]
      exact leaving.written zero
  have zero₁ : freed.2.iLinksCount = 0 := keeps.2.trans zero
  apply careful_ite
  · exact fun _ => writeOut_careful 0 (leaving₁.safe zero₁)
  intro _
  have punched : wp (updating resolver) (punchBlocks ino freed.2) (fun answer volume₂ =>
      answer.2.iLinksCount = 0 ∧ Leaving volume₂ ino inode.iMode) volume₁ := by
    rw [punchBlocks, wp_bind]
    apply wp_safe (.inodeHasValidBlocks freed.2.toInode) trivial
    intro blocks volume₂ same
    rw [show volume₂ = _ from same]
    simp only [wp_ite, wp_bind, wp_pure]
    refine ⟨fun _ => ?_, fun _ => ⟨zero₁, leaving₁⟩⟩
    apply wp_safe (.punch ino freed.2.toInode) (leaving₁.safe zero₁)
    intro answer volume₃ allowed
    obtain ⟨keeps', _, entries, sublist, like⟩ := allowed
    have kind : freed.2.iMode = inode.iMode := keeps.1
    refine ⟨keeps'.2.trans zero₁, ?_⟩
    rw [show freed.2.toInode.iMode = inode.iMode from kind] at like
    exact punch_leaving leaving₁ zero₁ sublist like
  rw [CarefulOn, wp_bind]
  apply wp_mono punched
  intro answer volume₂ outcome
  obtain ⟨zero₂, leaving₂⟩ := outcome
  apply careful_ite
  · intro _
    apply careful_bind (translateError_careful answer.1 volume₂) (translateError_quiet answer.1)
    intro ret volume₃ quiet
    rw [quiet.1]
    exact writeOut_careful ret (leaving₂.safe zero₂)
  · intro _
    rw [CarefulOn, wp_bind]
    apply wp_safe (.inodeAllocStats ino (-1) _) fun _ => leaving₂.unnamed
    intro _ volume₃ marked
    rw [show volume₃ = volume₂.allocStats ino (-1) from marked]
    apply writeOut_careful
    have unmarked : Fewer volume₂ (volume₂.allocStats ino (-1)) := by
      refine ⟨rfl, ?_, rfl, fun _ _ _ member => member⟩
      intro other used
      change Function.update volume₂.inUse ino false other = true at used
      by_cases same : other = ino
      · rw [same, Function.update_self] at used
        cases used
      · rwa [Function.update_of_ne same] at used
    exact (leaving₂.fewer unmarked rfl rfl).safe zero₂

/-- `remove_inode` is safe if the last count belongs to no name. -/
theorem removeInode_careful {ino : Ino} (last : volume.links ino = 1 → ¬volume.HasName ino) :
    CarefulOn resolver volume (removeInode ino) := by
  rw [removeInode, CarefulOn, wp_bind]
  apply wp_safe (.readInodeFull ino) trivial
  intro answer volume₁ allowed
  obtain ⟨same, read, _⟩ := allowed
  rw [same]
  refine careful_ite (fun _ => translateError_careful _ _) fun zero => ?_
  have record := read (not_not.mp zero)
  have count : answer.2.iLinksCount = volume.links ino := record.2
  refine careful_ite (fun _ => trivial) fun linked => ?_
  have takes : (takeLink answer.2).Only fun call => idle call = true := by
    rw [takeLink]
    apply Program.only_ite
    · exact Program.only_bind (only_call .time rfl) fun _ => trivial
    · trivial
  apply careful_bind (careful_idle takes volume) (takeLink_counted answer.2)
  intro taken volume₂ took
  obtain ⟨same, mode, links⟩ := took
  rw [same]
  apply careful_bind (updateCtime_careful ino (some taken) volume) (updateCtime_some ino taken)
  intro updated volume₃ stamped
  obtain ⟨same, _, keeps⟩ := stamped
  have left : updated.2.iLinksCount = volume.links ino - 1 := by
    rw [keeps.2, links, count]
  have kind : updated.2.iMode = volume.mode ino := keeps.1.trans (mode.trans record.1)
  have more : (volume.links ino - 1).toNat + 1 = (volume.links ino).toNat := by
    rw [count] at linked
    bv_omega
  rw [same]
  refine careful_ite (fun _ => trivial) fun _ => careful_ite (fun some => ?_) fun none => ?_
  · apply writeOut_careful
    rw [left] at some ⊢
    exact .inr (.inr ⟨more, fun none => absurd none some⟩)
  · have empty : updated.2.iLinksCount = 0 := not_not.mp none
    have one : volume.links ino = 1 := by
      rw [left] at empty
      exact eq_of_sub_eq_zero empty
    exact freeInode_careful ⟨last one, .inr one, kind.symm⟩ empty

/-- The count of the parent stays above zero. -/
theorem dropParentLink_careful (parent : Ino) (volume : Volume) :
    CarefulOn resolver volume (dropParentLink parent) := by
  rw [dropParentLink, CarefulOn, wp_bind]
  apply wp_safe (.readInodeFull parent) trivial
  intro answer volume₁ allowed
  obtain ⟨same, read, _⟩ := allowed
  rw [same]
  refine careful_ite (fun _ => translateError_careful _ _) fun zero => ?_
  have count : answer.2.iLinksCount = volume.links parent := (read (not_not.mp zero)).2
  apply careful_bind (updateMtime_careful parent (some _) volume) (updateMtime_some parent _)
  intro updated volume₂ outcome
  obtain ⟨same, _, keeps⟩ := outcome
  rw [same]
  refine careful_ite (fun _ => trivial) fun _ => ?_
  rw [CarefulOn, wp_bind]
  apply wp_safe (.writeInodeFull parent updated.2)
  · have stored : updated.2.iLinksCount = _ := keeps.2
    show volume.SafeCount parent updated.2.iLinksCount
    rw [stored]
    by_cases more : answer.2.iLinksCount > 1
    · rw [if_pos more]
      rw [count] at more
      show volume.SafeCount parent (answer.2.iLinksCount - 1)
      rw [count]
      refine .inr (.inr ⟨by bv_omega, fun none => ?_⟩)
      rw [eq_of_sub_eq_zero none] at more
      exact absurd more (by decide)
    · rw [if_neg more]
      exact .inl count
  · exact fun code volume₃ _ => careful_ite (fun _ => translateError_careful _ _) fun _ => trivial

/-- A change of the count of a directory, when it is safe. -/
theorem renameCount_careful {dir : Ino} {change : BitVec 16}
    (safe : volume.SafeCount dir (volume.links dir + change)) :
    CarefulOn resolver volume (renameCount dir change) := by
  rw [renameCount, CarefulOn, wp_bind]
  apply wp_safe (.readInode dir) trivial
  intro answer volume₁ allowed
  obtain ⟨same, read, _⟩ := allowed
  rw [same]
  refine careful_ite (fun _ => translateError_careful _ _) fun zero => ?_
  have count : answer.2.iLinksCount = volume.links dir := (read (not_not.mp zero)).2
  rw [CarefulOn, wp_bind]
  apply wp_safe (.writeInode dir _)
  · rw [← count] at safe
    exact safe
  · exact fun code volume₂ _ => careful_ite (fun _ => translateError_careful _ _) fun _ => trivial

end NodeExt2fs.Counting
