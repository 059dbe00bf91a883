import NodeExt2fs.Proof.Library.Spacious
import NodeExt2fs.Proof.Trees.Balanced

/-!
This file says when `rmdir` removes exactly the directory that its path names.
-/

namespace NodeExt2fs.Trees
open Programs Structures Glue Library
open Program (wp wp_pure wp_bind wp_ite wp_mono may may_bind may_mono not_wp_of_may wp_counting)

variable {resolver : Resolver} {exact rooted : Prop} {volume volume' : Volume}

/-- The directory is gone with its name and its link on the directory of that name, and nothing else
has changed. -/
structure Removed (volume volume' : Volume) (child dir : Ino) (entry : DirEntry) : Prop where
  vacant : Vacant volume child
  named : volume.Named dir entry
  refers : entry.inode = child
  gone : ∃ before after, volume.entries dir = before ++ entry :: after ∧
    volume'.entries dir = before ++ after
  unreferred : ∀ other, other ≠ child → ∀ left ∈ volume'.liveEntries other, left.inode ≠ child
  inUse : volume'.inUse = Function.update volume.inUse child false
  links : volume'.links =
    Function.update (Function.update volume.links dir (volume.links dir - 1)) child 0
  less : (volume'.links dir).toNat + 1 = (volume.links dir).toNat
  others : ∀ other, other ≠ dir → other ≠ child → volume'.entries other = volume.entries other
  mode : volume'.mode = volume.mode
  target : volume'.target = volume.target
  inodesCount : volume'.inodesCount = volume.inodesCount

/-- A call that returns zero has removed the directory of the path and freed it once. A directory with
other entries is refused, and nothing changes. -/
def RemovesExactly (resolver : Resolver) (volume : Volume) (path : Path) (ret : Int)
    (state' : Volume × Nat) : Prop :=
  (ret = 0 → state'.2 = 1 ∧ ∃ child dir entry, resolver.walk volume path = .ok child ∧
    Removed volume state'.1 child dir entry) ∧
  ∀ child, resolver.walk volume path = .ok child → volume.isDir child = true →
    (∃ entry ∈ volume.entries child, Plain entry) → ret = -ENOTEMPTY ∧ state' = (volume, 0)

/-- An empty directory is not named by one of its own entries. -/
def NamedOutside (resolver : Resolver) (volume : Volume) (path : Path) : Prop :=
  ∀ child dir name, resolver.walk volume path = .ok child → Vacant volume child →
    Located resolver volume path dir name → volume.isDir dir = true → name ≠ dot ∧ name ≠ dotdot

theorem removed_of_undirectoried (formed : volume.WellFormed exact rooted) {path : Path} {dir : Ino}
    {name : Name} {entry : DirEntry}
    (gone : Undirectoried resolver volume path dir name entry volume') :
    Removed volume volume' entry.inode dir entry := by
  obtain ⟨erased, freed, removed, taken, written⟩ := gone.steps
  have relisted := relisted_erase gone.found removed.2.2
  have formed' := (vacated_of_undirectoried formed gone).1
  have inUse : volume'.inUse = Function.update volume.inUse entry.inode false := by
    rw [written, ← relisted.inUse, ← taken.inUse]
    rfl
  have links : volume'.links = Function.update
      (Function.update volume.links dir (volume.links dir - 1)) entry.inode 0 := by
    rw [written]
    show Function.update freed.links dir (freed.links dir - 1) = _
    rw [taken.links, relisted.links, Function.update_of_ne gone.apart,
      Function.update_comm gone.apart]
  have listed (other : Ino) (different : other ≠ entry.inode) :
      volume'.entries other = erased.entries other := by
    rw [written]
    exact taken.others other different
  obtain ⟨_, before, after, split, earlier⟩ := List.find?_eq_some_iff_append.mp gone.found
  constructor
  · exact gone.vacant
  · exact ⟨mem_liveEntries.mpr ⟨gone.holder, List.mem_of_find?_eq_some gone.found⟩, gone.plain⟩
  · rfl
  · refine ⟨before, after, split, ?_⟩
    rw [listed dir gone.apart, erased_like removed, split, List.eraseP_append_right]
    · rw [List.eraseP_cons_of_pos]
      exact decide_eq_true (find_name gone.found)
    · intro other member
      have not := earlier other member
      rwa [Bool.not_eq_true', ← Bool.not_eq_true] at not
  · intro other _ left member same
    have place := mem_liveEntries.mp member
    have used := (formed'.sound.held _ (place_of_entry formed'.placed place.1 place.2)).2.1
    have unused : volume'.census.inUse left.inode = false := by
      show volume'.inUse left.inode = false
      rw [inUse, same, Function.update_self]
    exact absurd (unused.symm.trans used) Bool.noConfusion
  · exact inUse
  · exact links
  · rw [links, Function.update_of_ne gone.apart, Function.update_self,
      BitVec.toNat_sub_of_le (BitVec.le_of_lt gone.more)]
    exact Nat.sub_add_cancel (Nat.le_of_lt (BitVec.lt_def.mp gone.more))
  · intro other elsewhere different
    rw [listed other different, relisted.others other elsewhere]
  · rw [written, ← relisted.mode, ← taken.mode]
    exact Function.update_eq_self _ _
  · rw [written]
    exact taken.target.trans relisted.target
  · rw [written]
    exact taken.inodesCount.trans relisted.inodesCount

/-- A special entry that leads to a vacant directory is its own. -/
theorem special_own (formed : volume.WellFormed exact rooted) {child dir : Ino} {name : Name}
    (vacant : Vacant volume child) (holder : volume.census.Live dir)
    (special : name = dot ∨ name = dotdot) (looked : volume.lookup dir name = .ok child) :
    dir = child := by
  have shaped := formed.sound.toShaped
  obtain ⟨_, entry, there, named, refers⟩ := find_of_lookup looked
  have member := place_of_entry formed.placed holder (List.mem_of_find?_eq_some there)
  rcases special with own | up
  · exact (shaped.self _ member (named.trans own)).symm.trans refers
  · by_cases root : dir = EXT2_ROOT_INO
    · rw [root, ← refers]
      exact (shaped.rootParent _ member (named.trans up) root).symm
    · -- The parent of another directory has a name for it.
      obtain ⟨place, inside, _, plain, same⟩ := shaped.parent _ member (named.trans up) root
      have listed := (mem_names.mp inside).2.2
      rw [same, refers] at listed
      rcases vacant.2 place.2 listed with own | up
      · exact absurd own plain.1
      · exact absurd up plain.2

/-- A directory that is removed by one of its own entries keeps its name in its parent. -/
theorem may_rmdir_own (closed : resolver.Closed) (formed : volume.WellFormed exact rooted)
    {path : Path} {child : Ino} {name : Name} (walked : resolver.walk volume path = .ok child)
    (vacant : Vacant volume child) (located : Located resolver volume path child name)
    (special : name = dot ∨ name = dotdot) :
    may (libext2fs resolver True) (nodeExt2fsRmdir path)
      (fun ret volume' => ret = 0 ∧ ∀ other, other ≠ child →
        volume'.entries other = volume.entries other) volume := by
  have used := used_of_walk closed formed.placed (.inl walked)
  have nonzero := ne_null formed.placed used
  obtain ⟨_, looked, _⟩ := lookup_special formed.placed ⟨used, vacant.1⟩ special
  obtain ⟨_, entry, there, _⟩ := find_of_lookup looked
  have removes := removeInode_only records_plain child ⟨fun _ => rfl, fun _ => rfl, fun _ => rfl⟩
  rw [nodeExt2fsRmdir, may_bind]
  refine may_library (.namei path) (0, child) ⟨rfl, ?_⟩ ?_
  · rw [walked]
    exact .inl ⟨rfl, rfl, nonzero⟩
  dsimp only
  rw [if_neg (not_not.mpr rfl), may_bind]
  have iterated : effect resolver True volume (.dirIterate child .rmdirProc)
      (0, volume.entries child) volume := by
    refine .inl ⟨rfl, vacant.1, ?_, ?_⟩
    · rw [iterate_rmdirProc]
    · rw [iterate_rmdirProc]
      exact (volume.setEntries_self child).symm
  refine may_library (.dirIterate child .rmdirProc) (0, volume.entries child) iterated ?_
  dsimp only
  rw [if_neg (not_not.mpr rfl), fold_vacant _ fun entry member _ => vacant.2 entry member,
    if_neg (by decide), may_bind]
  apply may_mono (may_loosely (may_unlinkFileByName located nonzero vacant.1 (by rw [there]; rfl)))
  intro ret₁ volume₁ outcome
  rw [outcome.1, if_neg (not_not.mpr rfl), may_bind]
  apply may_mono (may_of_plain removes (removeInode_taken trivial child))
  intro ret₂ volume₂ first
  rw [first.1, if_neg (not_not.mpr rfl), may_bind]
  apply may_mono (may_of_plain removes (removeInode_taken trivial child))
  intro ret₃ volume₃ second
  have kept (other : Ino) (different : other ≠ child) :
      volume₃.entries other = volume.entries other := by
    rw [second.2.others other different, first.2.others other different, outcome.2.1.2.2.entries]
    exact Function.update_of_ne different _ _
  rw [second.1, if_neg (not_not.mpr rfl)]
  split
  · apply may_mono (may_of_plain (dropParentLink_only records_plain _)
      (dropParentLink_written trivial _))
    intro ret₄ volume₄ dropped
    rw [dropped.2]
    exact ⟨dropped.1, kept⟩
  · exact ⟨rfl, kept⟩

/-- A path that names an empty directory by one of its own entries. -/
theorem refutes_own (closed : resolver.Closed) (formed : volume.WellFormed exact rooted) {path : Path}
    {child dir : Ino} {name : Name} (walked : resolver.walk volume path = .ok child)
    (vacant : Vacant volume child) (located : Located resolver volume path dir name)
    (directory : volume.isDir dir = true) (special : name = dot ∨ name = dotdot) :
    may (libext2fs resolver True) (nodeExt2fsRmdir path)
      (fun ret volume' => ¬(ret = 0 → ∃ child dir entry, resolver.walk volume path = .ok child ∧
        Removed volume volume' child dir entry)) volume := by
  have holder : volume.census.Live dir := ⟨used_of_located closed formed.placed located, directory⟩
  have nonempty : name ≠ [] := by
    rcases special with own | up
    · rw [own]
      decide
    · rw [up]
      decide
  have own := special_own formed vacant holder special
    (located_lookup located directory nonempty walked)
  rw [own] at located
  apply may_mono (may_rmdir_own closed formed walked vacant located special)
  intro ret volume' outcome removes
  obtain ⟨child', dir', entry, walked', removed⟩ := removes outcome.1
  have same : child = child' := Except.ok.inj (walked.symm.trans walked')
  -- The entry in the parent is neither gone nor one of the directory's own.
  have apart : dir' ≠ child := by
    intro inside
    have member := (mem_liveEntries.mp removed.named.1).2
    rw [inside] at member
    rcases vacant.2 entry member with own | up
    · exact removed.named.2.1 own
    · exact removed.named.2.2 up
  obtain ⟨before, after, split, left⟩ := removed.gone
  have lengths := congrArg List.length ((outcome.2 dir' apart).symm.trans left)
  rw [split] at lengths
  simp at lengths

/-- A path that names no empty directory by its own entries is removed exactly. -/
theorem nodeExt2fsRmdir_exactly (closed : resolver.Closed) (formed : volume.WellFormed exact rooted)
    {path : Path} (outside : NamedOutside resolver volume path) :
    wp ((libext2fs resolver True).counting frees) (nodeExt2fsRmdir path)
      (RemovesExactly resolver volume path) (volume, 0) := by
  apply wp_mono (nodeExt2fsRmdir_counted trivial closed formed path outside 0)
  intro ret state' outcome
  obtain ⟨cleared, refuses⟩ := outcome
  refine ⟨fun zero => ?_, fun child walked directory other => ?_⟩
  · rcases cleared with ⟨_, counted, dir, name, entry, gone⟩ | ⟨bad, _⟩
    · exact ⟨counted, entry.inode, dir, entry, gone.walked, removed_of_undirectoried formed gone⟩
    · exact absurd zero bad
  · have refused := refuses child walked directory other
    refine ⟨refused, ?_⟩
    rcases cleared with ⟨zero, _⟩ | ⟨_, same⟩
    · rw [refused] at zero
      exact absurd zero (by decide)
    · exact same

/-- Each run on a library that keeps to its contract removes exactly, and frees with one call. -/
theorem rmdir_run_exactly {Hidden : Type} {handler : Handler Call Answer Hidden}
    {view : Hidden → Volume} {hidden : Hidden}
    (honoured : (libext2fs resolver True).Honoured handler view) (closed : resolver.Closed)
    (formed : (view hidden).WellFormed exact rooted) {path : Path}
    (outside : NamedOutside resolver (view hidden) path) :
    RemovesExactly resolver (view hidden) path ((nodeExt2fsRmdir path).run handler hidden).1
      (view ((nodeExt2fsRmdir path).run handler hidden).2,
        ((nodeExt2fsRmdir path).events handler hidden).countP fun event => frees event.1) := by
  have removes := Program.run_of_wp_counting honoured (nodeExt2fsRmdir_exactly closed formed outside)
  rwa [Nat.zero_add] at removes

/-- `rmdir` removes exactly the directory that its path names, unless the path names an empty directory
by an entry of its own. -/
theorem removesExactly_iff (closed : resolver.Closed) (formed : volume.WellFormed exact rooted)
    (path : Path) :
    wp ((libext2fs resolver True).counting frees) (nodeExt2fsRmdir path)
      (RemovesExactly resolver volume path) (volume, 0) ↔ NamedOutside resolver volume path := by
  apply Iff.intro
  · intro exactly child dir name walked vacant located directory
    rw [← not_or]
    intro special
    have plainly : wp (libext2fs resolver True) (nodeExt2fsRmdir path)
        (fun ret volume' => ret = 0 → ∃ child dir entry, resolver.walk volume path = .ok child ∧
          Removed volume volume' child dir entry) volume := by
      apply (@wp_counting _ _ _ _ _ frees _ _ _ 0).mp
      apply wp_mono exactly
      exact fun ret state' removes zero => (removes.1 zero).2
    exact absurd plainly
      (not_wp_of_may (refutes_own closed formed walked vacant located directory special))
  · exact nodeExt2fsRmdir_exactly closed formed

/-- A root with the file `/a` and the empty directory `/d`. -/
def holdingDirectory : Volume :=
  ((nodeExt2fsMkdir [slash, 0x64] 0o755).run reference (Volume.holding [[0x61]])).2

theorem formed_holdingDirectory : holdingDirectory.WellFormed exact rooted := by
  have formed := @formed_holding [0x61] (by decide) (List.cons_ne_nil _ _) exact rooted
  have made := @nodeExt2fsMkdir_formed linkless True exact rooted _ trivial linkless_closed formed
    [slash, 0x64] 0o755 ?_
  · exact Program.run_of_wp (reference_honours True) made
  · intro before name parent split there _
    have parts : ([], [0x64]) = (before, name) := Option.some.inj split
    rw [← (Prod.mk.inj parts).1] at there
    have root : EXT2_ROOT_INO = parent := Except.ok.inj there
    rw [← root]
    decide

/-- The empty directory is removed by its name. -/
theorem rmdir_by_name :
    wp ((libext2fs linkless True).counting frees) (nodeExt2fsRmdir [slash, 0x64])
      (RemovesExactly linkless holdingDirectory [slash, 0x64]) (holdingDirectory, 0) := by
  refine (removesExactly_iff linkless_closed (@formed_holdingDirectory True True) _).mpr ?_
  intro child dir name _ _ located _
  have parts : strrchr [slash, 0x64] = some ([], [0x64]) := rfl
  rw [← ((located_some parts).mp located).2]
  decide

/-- The empty directory is removed as `/d/.`, and its name stays. -/
theorem rmdir_own_entry :
    ((nodeExt2fsRmdir [slash, 0x64, slash, 0x2e]).run reference holdingDirectory).1 = 0 ∧
    ¬RemovesExactly linkless holdingDirectory [slash, 0x64, slash, 0x2e]
      ((nodeExt2fsRmdir [slash, 0x64, slash, 0x2e]).run reference holdingDirectory).1
      (((nodeExt2fsRmdir [slash, 0x64, slash, 0x2e]).run reference holdingDirectory).2,
        ((nodeExt2fsRmdir [slash, 0x64, slash, 0x2e]).events reference holdingDirectory).countP
          fun event => frees event.1) := by
  refine ⟨rfl, fun removes => ?_⟩
  obtain ⟨_, child, dir, entry, walked, removed⟩ := removes.1 rfl
  have same : 12 = child := Except.ok.inj walked
  refine removed.unreferred EXT2_ROOT_INO ?_
    { inode := 12, name := [0x64], fileType := EXT2_FT_DIR } ?_ same
  · rw [← same]
    decide
  · decide

end NodeExt2fs.Trees
