import NodeExt2fs.Proof.Counts.Removal
import NodeExt2fs.Proof.Counts.Tallies
import NodeExt2fs.Proof.Trees.Removing
import NodeExt2fs.Proof.Trees.Linking

/-!
This file follows `link` and `unlink` where directories may have stopped counting.
-/

namespace NodeExt2fs.Counting
open Programs Structures Glue Library
open Program (wp wp_pure wp_bind wp_ite wp_mono)
open Trees (Linkable Unfiled ne_null place_of_entry used_of_walk)

variable {resolver : Resolver} {volume volume' : Volume}

theorem tallied_like (tallied : volume.Tallied) (like : volume.Like volume') : volume'.Tallied := by
  obtain ⟨fits, grows, same⟩ := like
  rw [same]
  exact ⟨tallied.census, tallied.bounded⟩

/-- A call that changes no count. -/
theorem wp_idle (call : Call) (listed : idle call = true) {post : Answer call → Volume → Prop}
    (rest : ∀ answer volume', effect resolver True volume call answer volume' →
      post answer volume') : wp (updating resolver) call.perform post volume :=
  wp_safe call (safe_of_idle volume call listed) rest

/-- Adding a name makes no update of a count. -/
theorem expanding_careful (dir : Ino) (name : Name) (ino : Ino) (fileType : Nat) (volume : Volume) :
    CarefulOn resolver volume (expanding dir (ext2fsLink dir name ino fileType)) := by
  have expands : idle (.expandDir dir) = true := rfl
  exact careful_idle (expanding_only expands (only_call (.link dir name ino fileType) rfl)) volume

/-- `link` raises a count that can grow. -/
theorem linkInto_careful (src : Path) (parent : Ino) (name : Name)
    (room : ∀ ino, resolver.walk volume src = .ok ino → volume.links ino ≠ 0xffff#16) :
    CarefulOn resolver volume (linkInto src parent name) := by
  rw [linkInto, CarefulOn, wp_bind]
  apply wp_idle (.namei src) rfl
  intro source volume₁ allowed
  obtain ⟨same, resolved⟩ := allowed
  rw [same]
  refine careful_ite (fun _ => translateError_careful _ _) fun known => ?_
  have walked := (walk_of_resolved resolved (not_not.mp fun bad => known (.inl bad))).1
  rw [CarefulOn, wp_bind]
  apply wp_idle (.readInodeFull source.2) rfl
  intro answer volume₂ allowed
  obtain ⟨same, read, _⟩ := allowed
  rw [same]
  refine careful_ite (fun _ => translateError_careful _ _) fun fine => ?_
  have links : answer.2.iLinksCount = volume.links source.2 := (read (not_not.mp fine)).2
  apply careful_bind (updateCtime_careful source.2 (some _) volume) (updateCtime_some source.2 _)
  intro stamped volume₃ outcome
  obtain ⟨same, _, keeps⟩ := outcome
  rw [same]
  refine careful_ite (fun _ => trivial) fun _ => ?_
  rw [CarefulOn, wp_bind]
  have raised : volume.SafeCount source.2 stamped.2.iLinksCount := by
    have stored : stamped.2.iLinksCount = answer.2.iLinksCount + 1 := keeps.2
    rw [stored, links]
    exact .inr (.inl (Trees.increment_toNat (room source.2 walked)))
  apply wp_safe (.writeInodeFull source.2 stamped.2) raised
  intro code volume₄ _
  refine careful_ite (fun _ => translateError_careful _ _) fun _ => ?_
  apply careful_then (expanding_careful parent name source.2 _ volume₄)
  intro code' volume₅
  refine careful_ite (fun _ => translateError_careful _ _) fun _ => ?_
  exact careful_then (updateMtime_careful parent none volume₅) fun _ _ => trivial

theorem linkInto_tallied (closed : resolver.Closed) (tallied : volume.Tallied) (src : Path)
    {parent : Ino} {name : Name} (used : volume.inUse parent = true) (nonempty : name ≠ [])
    (linkable : ∀ ino, resolver.walk volume src = .ok ino → Linkable False volume ino parent name) :
    wp (updating resolver) (linkInto src parent name) (fun _ volume' => volume'.Tallied) volume := by
  apply wp_mono (wp_updating
    (linkInto_careful src parent name fun ino walked => (linkable ino walked).uncounted)
    (Trees.linkInto_raised trivial src parent name))
  intro ret volume' outcome
  rcases outcome with ⟨_, same⟩ | ⟨ino, walked, raised⟩
  · rw [same]
    exact tallied
  obtain ⟨isFile, uncounted, proper, _⟩ := linkable ino walked
  have covered := tallied.census.files ino isFile
  rcases raised with ⟨_, like, _⟩ | ⟨_, directory, fileType, before, after, _, split, like⟩
  · obtain ⟨census, bounded⟩ := Trees.raised_census tallied.placed uncounted like
    refine ⟨?_, bounded⟩
    rw [census]
    exact tallied_count tallied.census isFile (Nat.le_succ_of_le covered)
  · have holder : volume.census.Live parent := ⟨used, directory⟩
    obtain ⟨census, bounded⟩ := Trees.linked_census tallied.placed uncounted holder split like
    refine ⟨?_, bounded⟩
    rw [census]
    exact @tallied_name _ (parent, { inode := ino, name := name, fileType := fileType })
      tallied.census _ ⟨holder, proper directory, nonempty⟩
      (used_of_walk closed tallied.placed (.inl walked)) isFile (Nat.succ_le_succ covered)

theorem nodeExt2fsLink_tallied (closed : resolver.Closed) (tallied : volume.Tallied) (src dest : Path)
    (nonempty : ∀ before name, strrchr dest = some (before, name) → name ≠ [])
    (linkable : ∀ before name parent ino, strrchr dest = some (before, name) →
      resolver.walk volume (before ++ [slash]) = .ok parent → resolver.walk volume src = .ok ino →
      Linkable False volume ino parent name) :
    wp (updating resolver) (nodeExt2fsLink src dest) (fun _ volume' => volume'.Tallied) volume := by
  rw [nodeExt2fsLink, wp_bind]
  apply wp_idle .strdup rfl
  intro duplicated volume₁ same
  rw [show volume₁ = _ from same, wp_ite]
  refine ⟨fun _ => tallied, fun _ => ?_⟩
  rcases split : strrchr dest with _ | ⟨before, name⟩
  · exact tallied
  · dsimp only
    rw [wp_bind]
    apply wp_idle (.namei (before ++ [slash])) rfl
    intro parent volume₂ allowed
    obtain ⟨same, resolved⟩ := allowed
    rw [same, wp_ite]
    refine ⟨fun _ => tallied, fun fine => ?_⟩
    have there := (walk_of_resolved resolved (not_not.mp fine)).1
    exact linkInto_tallied closed tallied src (used_of_walk closed tallied.placed (.inl there))
      (nonempty before name split) fun ino found => linkable before name parent.2 ino split there found

/-- A file whose only counted name goes has no name left. -/
theorem unnamed_file (closed : resolver.Closed) (tallied : volume.Tallied) {path : Path}
    {dir ino : Ino} {name : Name} (located : Located resolver volume path dir name)
    (erased : Erased volume dir name volume') (walked : resolver.walk volume path = .ok ino)
    (isFile : volume.isDir ino = false) (last : volume'.links ino = 1) : ¬volume'.HasName ino := by
  obtain ⟨holder, _, entry, there, _, refers, _, relisted⟩ :=
    Trees.erased_entry closed tallied.placed located erased walked
  have split := relisted.dropped (tallied.bounded dir holder.1) holder
  have covered := tallied.census.files ino isFile
  have one : volume.census.links ino = 1 := by
    show (volume.links ino).toNat = 1
    rw [← relisted.links, last]
    rfl
  rw [Trees.references_eq, split, Trees.references_cons, if_pos refers, one] at covered
  have unnamed := Multiset.countP_eq_zero.mp (Nat.le_zero.mp (Nat.le_of_succ_le_succ covered))
  intro named
  rcases named with root | ⟨place, member, _, same⟩
  · rw [root] at isFile
    exact absurd (isFile.symm.trans tallied.census.root.2) Bool.noConfusion
  · exact unnamed place member same

theorem nodeExt2fsUnlink_careful (closed : resolver.Closed) (tallied : volume.Tallied) (path : Path) :
    CarefulOn resolver volume (nodeExt2fsUnlink path) := by
  rw [nodeExt2fsUnlink, CarefulOn, wp_bind]
  apply wp_idle (.namei path) rfl
  intro answer volume₁ found
  rw [found.1]
  refine careful_ite (fun _ => translateError_careful _ _) fun fine => ?_
  have walked := (walk_of_resolved found.2 (not_not.mp fine)).1
  rw [CarefulOn, wp_bind]
  apply wp_idle (.checkDirectory answer.2) rfl
  intro code volume₂ checked
  rw [checked.1]
  refine careful_ite (fun _ => trivial) fun other => ?_
  have isFile : volume.isDir answer.2 = false := by
    cases kind : volume.isDir answer.2 with
    | false => rfl
    | true => exact absurd (checked.2.2 trivial kind) other
  apply careful_bind (unlinkFileByName_careful path volume) (unlinkFileByName_erased path)
  intro ret volume₃ removed
  refine careful_ite (fun _ => trivial) fun zero => ?_
  rcases removed with ⟨dir, name, located, erased, _⟩ | ⟨_, bad, _⟩
  · exact removeInode_careful (unnamed_file closed tallied located erased walked isFile)
  · exact absurd bad zero

/-- The volume after `unlink` has removed a name. -/
theorem tallied_unfiled (tallied : volume.Tallied) {path : Path} {dir : Ino} {name : Name}
    {entry : DirEntry} (unfiled : Unfiled resolver volume path dir name entry volume') :
    volume'.Tallied := by
  obtain ⟨rest, split, census⟩ := unfiled.census tallied.placed
  refine ⟨?_, unfiled.bounded tallied.placed⟩
  rw [census]
  exact tallied_unname tallied.census split unfiled.isFile

theorem nodeExt2fsUnlink_tallied (closed : resolver.Closed) (tallied : volume.Tallied) (path : Path) :
    wp (updating resolver) (nodeExt2fsUnlink path) (fun _ volume' => volume'.Tallied) volume := by
  apply wp_mono (wp_updating (nodeExt2fsUnlink_careful closed tallied path)
    (Trees.nodeExt2fsUnlink_unfiled trivial closed tallied.placed path))
  intro ret volume' outcome
  rcases outcome with ⟨_, dir, name, entry, unfiled⟩ | ⟨_, same⟩
  · exact tallied_unfiled tallied unfiled
  · rw [same]
    exact tallied

end NodeExt2fs.Counting
