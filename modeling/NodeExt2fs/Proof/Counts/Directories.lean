import NodeExt2fs.Proof.Counts.Files

/-!
This file follows `rmdir` where directories may have stopped counting.
-/

namespace NodeExt2fs.Counting
open Programs Structures Glue Library
open Program (wp wp_pure wp_bind wp_ite wp_mono wp_counting)
open Trees (Vacant Emptied Taken removeInode_taken used_of_walk)

variable {resolver : Resolver} {volume volume' : Volume}

/-- A vacant directory has one link or two. -/
theorem few_links (tallied : volume.Tallied) (dir : Ino) (entry : DirEntry)
    (member : (dir, entry) ∈ volume.census.names) (plain : Plain entry)
    (vacant : Vacant volume entry.inode) :
    volume.links entry.inode = 1 ∨ volume.links entry.inode = 2 := by
  have shaped := tallied.census.toShaped
  obtain ⟨others, split⟩ := Multiset.exists_cons_of_mem member
  obtain ⟨own, up, rest, same, ownName, upName, apart, free⟩ :=
    Trees.vacant_split tallied.placed split plain vacant
  rw [same] at split
  have count := Trees.references_undirectory shaped split vacant.1 plain ownName upName entry.inode
  have unnamed : ∀ place ∈ rest, place.2.inode ≠ entry.inode := fun _ =>
    Trees.vacant_unnamed shaped split vacant.1 plain ownName upName apart free
  rw [if_neg apart, if_pos rfl, Multiset.countP_eq_zero.mpr unnamed] at count
  obtain ⟨positive, covered⟩ :=
    tallied.census.directories entry.inode ⟨(shaped.held _ member).2.1, vacant.1⟩
  rw [count] at covered
  have links : volume.census.links entry.inode = (volume.links entry.inode).toNat := rfl
  bv_omega

/-- A directory whose name goes has no name left. -/
theorem unnamed_directory (closed : resolver.Closed) (tallied : volume.Tallied) {path : Path}
    {dir ino : Ino} {name : Name} (located : Located resolver volume path dir name)
    (erased : Erased volume dir name volume') (walked : resolver.walk volume path = .ok ino)
    (directory : volume.isDir ino = true) (proper : name ≠ dot ∧ name ≠ dotdot) :
    ¬volume'.HasName ino := by
  have shaped := tallied.census.toShaped
  obtain ⟨holder, _, entry, _, named, refers, member, relisted⟩ :=
    Trees.erased_entry closed tallied.placed located erased walked
  have split := relisted.dropped (tallied.bounded dir holder.1) holder
  have plain : Plain entry := by
    rw [Plain, named]
    exact proper
  have root : ino ≠ EXT2_ROOT_INO := refers ▸ Trees.ne_root shaped member plain
  have once := shaped.once ino ⟨refers ▸ (shaped.held _ member).2.1, directory⟩ root
  rw [Census.outer, split, Multiset.countP_cons_of_pos _ ⟨refers, plain⟩] at once
  have unnamed := Multiset.countP_eq_zero.mp (Nat.succ.inj once)
  intro left
  rcases left with same | ⟨place, kept, plainly, same⟩
  · exact root same
  · exact unnamed place kept ⟨same, plainly⟩

/-- A step that ends its routine where it fails. -/
theorem continuing_careful {step next : Routine Int} {post : Int → Volume → Prop}
    (careful : CarefulOn resolver volume step) (before : wp (libext2fs resolver True) step post volume)
    (rest : ∀ volume', post 0 volume' → CarefulOn resolver volume' next) :
    CarefulOn resolver volume (continuing step next) := by
  apply wp_continuing
  apply wp_mono (wp_updating careful before)
  intro ret volume' outcome
  refine ⟨fun _ => trivial, fun zero => rest volume' ?_⟩
  rw [zero] at outcome
  exact outcome

/-- An inode without a name may be removed twice. -/
theorem removeTwice_careful {ino : Ino} {next : Routine Int} (unnamed : ¬volume.HasName ino)
    (rest : ∀ volume', CarefulOn resolver volume' next) :
    CarefulOn resolver volume (removeTwice ino next) := by
  apply continuing_careful (removeInode_careful fun _ => unnamed) (removeInode_taken trivial ino)
  intro volume₁ outcome
  have still : ¬volume₁.HasName ino := fun named => unnamed ((fewer_taken outcome.2).hasName named)
  apply continuing_careful (removeInode_careful fun _ => still) (removeInode_taken trivial ino)
  exact fun volume₂ _ => rest volume₂

theorem nodeExt2fsRmdir_careful (closed : resolver.Closed) (tallied : volume.Tallied) (path : Path)
    (proper : ∀ ino dir name, resolver.walk volume path = .ok ino → Vacant volume ino →
      Located resolver volume path dir name → name ≠ dot ∧ name ≠ dotdot) :
    CarefulOn resolver volume (nodeExt2fsRmdir path) := by
  rw [nodeExt2fsRmdir, CarefulOn, wp_bind]
  apply wp_idle (.namei path) rfl
  intro answer volume₁ found
  rw [found.1]
  refine careful_ite (fun _ => translateError_careful _ _) fun fine => ?_
  have walked := (walk_of_resolved found.2 (not_not.mp fine)).1
  rw [CarefulOn, wp_bind]
  apply wp_idle (.dirIterate answer.2 .rmdirProc) rfl
  intro visited volume₂ iterated
  obtain ⟨same, listed⟩ := rmdirProc_effect iterated
  rw [same]
  refine careful_ite (fun _ => translateError_careful _ _) fun zero => ?_
  obtain ⟨directory, entries⟩ := listed (not_not.mp zero)
  refine careful_ite (fun _ => trivial) fun empty => ?_
  have vacant : Vacant volume answer.2 := by
    rw [entries] at empty
    exact Trees.vacant_of_foundEmpty tallied.placed
      ⟨used_of_walk closed tallied.placed (.inl walked), directory⟩ (by simpa [Volume.FoundEmpty] using empty)
  apply continuing_careful (unlinkFileByName_careful path volume) (unlinkFileByName_erased path)
  intro volume₃ removed
  rcases removed with ⟨dir, name, located, erased, _⟩ | ⟨_, bad, _⟩
  · apply removeTwice_careful (unnamed_directory closed tallied located erased walked directory
      (proper answer.2 dir name walked vacant located))
    exact fun volume₄ => careful_ite (fun _ => dropParentLink_careful _ _) fun _ => trivial
  · exact absurd rfl bad

/-- The volume after `rmdir` has removed a directory. -/
theorem tallied_emptied (tallied : volume.Tallied) {path : Path} {dir : Ino} {name : Name}
    {entry : DirEntry} (emptied : Emptied resolver volume path dir name entry volume') :
    volume'.Tallied := by
  obtain ⟨own, up, rest, split, ownName, upName, free, census⟩ := emptied.census tallied.placed
  refine ⟨?_, emptied.bounded tallied.placed⟩
  rw [census]
  exact tallied_undirectory tallied.census split emptied.vacant.1 emptied.plain ownName upName
    emptied.apart free

theorem nodeExt2fsRmdir_tallied (closed : resolver.Closed) (tallied : volume.Tallied) (path : Path)
    (proper : ∀ ino dir name, resolver.walk volume path = .ok ino → Vacant volume ino →
      Located resolver volume path dir name → name ≠ dot ∧ name ≠ dotdot) :
    wp (updating resolver) (nodeExt2fsRmdir path) (fun _ volume' => volume'.Tallied) volume := by
  apply wp_updating (nodeExt2fsRmdir_careful closed tallied path proper)
  apply (@wp_counting _ _ _ _ _ Trees.frees _ _ _ 0).mp
  apply wp_mono (Trees.nodeExt2fsRmdir_emptied trivial closed tallied.placed (few_links tallied) path
    (fun ino dir name walked vacant located _ => proper ino dir name walked vacant located) 0)
  intro ret state' outcome
  rcases outcome.1 with ⟨_, _, dir, name, entry, emptied⟩ | ⟨_, same⟩
  · exact tallied_emptied tallied emptied
  · rw [same]
    exact tallied

end NodeExt2fs.Counting
