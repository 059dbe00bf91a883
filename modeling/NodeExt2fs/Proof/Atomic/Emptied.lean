import NodeExt2fs.Proof.Atomic.Replacing

/-!
This file shows what the removal of the target of a rename may leave: any part of what it held, and no
space in it.
-/

namespace NodeExt2fs.Atomic
open Programs Structures Glue Library
open Program (wp wp_mono may may_bind may_mono)

variable {resolver : Resolver} {volume volume' volume'' : Volume}

/-- The directory can take no more names. -/
def Stuck (volume : Volume) (dir : Ino) : Prop :=
  (∀ name, volume.fits dir name = false) ∧ volume.grows dir = false

/-- A removal that drops the given entries, and with them all space. -/
structure Empties (volume volume' : Volume) (ino : Ino) (left : List DirEntry) (loses : Prop) : Prop
    extends Dropped volume volume' ino loses where
  left : volume'.entries ino = left
  stuck : loses → Stuck volume' ino

theorem Empties.trans {ino : Ino} {left left' : List DirEntry} {first second : Prop}
    (before : Empties volume volume' ino left first)
    (after : Empties volume' volume'' ino left' second) :
    Empties volume volume'' ino left' (first ∨ second) where
  toDropped := before.toDropped.trans after.toDropped
  left := after.left
  stuck loses := by
    by_cases later : second
    · exact after.stuck later
    · obtain ⟨fits, grows⟩ := before.stuck (loses.resolve_right later)
      obtain ⟨_, fits', grows'⟩ := after.kept later
      rw [Stuck, fits', grows']
      exact ⟨fits, grows⟩

theorem Empties.written {ino : Ino} {left : List DirEntry} {loses : Prop}
    (empties : Empties volume volume' ino left loses) (parent : Ino) (links : BitVec 16) :
    Empties volume (volume'.written parent (volume'.mode parent) links) ino left loses where
  toDropped := empties.toDropped.written parent links
  left := empties.left
  stuck := empties.stuck

/-- The volume after the last link: the blocks are gone with their space. -/
def emptied (volume : Volume) (ino : Ino) (left : List DirEntry) : Volume :=
  { (volume.breakHandles ino).setEntries ino left with
    fits := Function.update volume.fits ino fun _ => false
    grows := fun _ => false }

theorem empties_emptied {ino : Ino} {left : List DirEntry} (fewer : left.Sublist (volume.entries ino)) :
    Empties volume (((emptied volume ino left).allocStats ino (-1)).written ino (volume.mode ino) 0) ino
      left True where
  others _ different := Function.update_of_ne different _ _
  fewer := by
    show (Function.update volume.entries ino left ino).Sublist _
    rw [Function.update_self]
    exact fewer
  mode := Function.update_eq_self _ _
  target := rfl
  fits _ different := Function.update_of_ne different _ _
  kept loses := absurd trivial loses
  left := Function.update_self _ _ _
  stuck _ := by
    refine ⟨fun name => ?_, rfl⟩
    show Function.update volume.fits ino (fun _ => false) ino name = false
    rw [Function.update_self]

/-- The blocks may go with any part of what the inode holds. -/
theorem may_punchBlocks {ino : Ino} {left : List DirEntry} (fewer : left.Sublist (volume.entries ino))
    (inode : InodeLarge) :
    may (spacious resolver) (punchBlocks ino inode)
      (fun answer volume' => answer = (0, inode) ∧ volume' = emptied volume ino left) volume := by
  rw [punchBlocks, may_bind]
  refine may_spacious (.inodeHasValidBlocks inode.toInode) true ⟨rfl, trivial, trivial⟩ ?_
  rw [if_pos rfl, may_bind]
  have punched : (spacious resolver).allows volume (.punch ino inode.toInode) (0, inode.toInode)
      (emptied volume ino left) :=
    ⟨⟨⟨rfl, rfl⟩, fun _ => rfl, left, fewer, .inl ⟨_, _, rfl⟩⟩, trivial,
      fun other different => Function.update_of_ne different _ _⟩
  exact may_spacious (.punch ino inode.toInode) (0, inode.toInode) punched ⟨rfl, rfl⟩

/-- The last link may go with any part of what the inode holds. -/
theorem may_freeInode {ino : Ino} {inode : InodeLarge} {left : List DirEntry}
    (fewer : left.Sublist (volume.entries ino)) (mode : inode.iMode = volume.mode ino)
    (links : inode.iLinksCount = 0) :
    may (spacious resolver) (freeInode ino inode)
      (fun ret volume' => ret = 0 ∧ Empties volume volume' ino left True ∧ volume'.links ino = 0)
      volume := by
  rw [freeInode, may_bind]
  refine may_spacious (.freeExtAttr ino inode) (0, inode)
    ⟨⟨⟨rfl, rfl⟩, fun _ => rfl, .inl rfl⟩, trivial, trivial⟩ ?_
  dsimp only
  rw [if_neg (not_not.mpr rfl), may_bind]
  apply may_mono (may_punchBlocks fewer inode)
  intro answer volume₁ outcome
  rw [outcome.1, outcome.2]
  dsimp only
  rw [if_neg (not_not.mpr rfl), may_bind]
  refine may_spacious (.inodeAllocStats ino (-1) _) () ⟨rfl, trivial, trivial⟩ ?_
  rw [writeOut, may_bind]
  refine may_spacious (.writeInodeFull ino inode) (0 : Errcode)
    ⟨.inl ⟨rfl, rfl⟩, trivial, trivial⟩ ?_
  rw [if_neg (not_not.mpr rfl), mode, links]
  exact ⟨rfl, empties_emptied fewer, Function.update_self _ _ _⟩

/-- `remove_inode` may leave any part of what the inode held, when it takes the last link. -/
theorem may_removeInode {ino : Ino} {left : List DirEntry} (fewer : left.Sublist (volume.entries ino))
    (kept : volume.links ino ≠ 1 → left = volume.entries ino) :
    may (spacious resolver) (removeInode ino)
      (fun ret volume' => ret = 0 ∧ Empties volume volume' ino left (volume.links ino = 1) ∧
        volume'.links ino = if volume.links ino = 0 then 0 else volume.links ino - 1) volume := by
  by_cases last : volume.links ino = 1
  · rw [last, removeInode, may_bind]
    refine may_spacious (.readInodeFull ino) (0, volume.inodeLarge ino)
      ⟨⟨rfl, fun _ => ⟨rfl, rfl⟩, fun _ => rfl⟩, trivial, trivial⟩ ?_
    have count : (volume.inodeLarge ino).iLinksCount = 1 := last
    dsimp only
    rw [if_neg (not_not.mpr rfl), count, if_neg (by decide), may_bind]
    apply may_mono (may_calm (takeLink_only records_plain _) (wp_calm (takeLink_counted _)))
    intro taken volume₁ outcome
    obtain ⟨same, mode, links⟩ := outcome
    rw [same, may_bind]
    apply may_mono (may_calm (updateCtime_only records_plain ino _) (wp_calm (updateCtime_some ino taken)))
    intro updated volume₂ outcome
    obtain ⟨same, fine, keeps⟩ := outcome
    have none : updated.2.iLinksCount = 0 := by
      rw [keeps.2, links, count]
      decide
    rw [same, if_neg (not_not.mpr fine), if_neg (not_not.mpr none)]
    apply may_mono (may_freeInode fewer (keeps.1.trans mode) none)
    intro ret volume₃ freed
    rw [eq_self, if_neg (by decide)]
    exact ⟨freed.1, freed.2.1, freed.2.2⟩
  · apply may_mono (may_calm (removeInode_only records_plain ino ⟨fun _ => rfl, fun _ => rfl, fun _ => rfl⟩)
      (removeInode_dropped ino))
    intro ret volume' outcome
    obtain ⟨zero, dropped, links⟩ := outcome
    refine ⟨zero, ⟨dropped, ?_, fun loses => absurd loses last⟩, links⟩
    rw [kept last, (dropped.kept last).1]

/-- Two removals may leave any part as well. -/
theorem may_removeTwice {ino : Ino} {left : List DirEntry} {next : Routine Int}
    {post : Int → Volume → Prop} (fewer : left.Sublist (volume.entries ino))
    (kept : ¬(volume.links ino = 1 ∨ volume.links ino = 2) → left = volume.entries ino)
    (rest : ∀ volume', Empties volume volume' ino left
      (volume.links ino = 1 ∨ volume.links ino = 2) → may (spacious resolver) next post volume') :
    may (spacious resolver) (removeTwice ino next) post volume := by
  have second {volume₁ : Volume} {middle : List DirEntry}
      (first : Empties volume volume₁ ino middle (volume.links ino = 1))
      (links : volume₁.links ino = if volume.links ino = 0 then 0 else volume.links ino - 1)
      (fewer' : left.Sublist middle) (kept' : volume₁.links ino ≠ 1 → left = middle) :
      may (spacious resolver) (continuing (removeInode ino) next) post volume₁ := by
    rw [← first.left] at fewer' kept'
    apply may_continuing
    apply may_mono (may_removeInode fewer' kept')
    intro ret volume₂ outcome
    obtain ⟨zero, second, _⟩ := outcome
    have both := first.trans second
    rw [links, twice_iff] at both
    exact ⟨zero, rest volume₂ both⟩
  apply may_continuing
  by_cases last : volume.links ino = 1
  · apply may_mono (may_removeInode fewer fun more => absurd last more)
    intro ret volume₁ outcome
    obtain ⟨zero, first, links⟩ := outcome
    exact ⟨zero, second first links (.refl left) fun _ => rfl⟩
  · apply may_mono (may_removeInode (.refl (volume.entries ino)) fun _ => rfl)
    intro ret volume₁ outcome
    obtain ⟨zero, first, links⟩ := outcome
    refine ⟨zero, second first links fewer fun more => kept fun either => ?_⟩
    rw [← twice_iff, ← links] at either
    exact either.elim last more

/-- The target goes, with any part of what it held. -/
theorem may_unlinked {move : Move} {toPath : Path} {next : Routine Int} {post : Int → Volume → Prop}
    (split : strrchr toPath = some (move.target, move.toName)) (positive : move.toDir ≠ 0)
    (replaces : move.Replaces resolver volume)
    (rest : ∀ volume', Erased volume move.toDir move.toName volume' →
      volume'.fits move.toDir move.toName = true → may (spacious resolver) next post volume') :
    may (spacious resolver) (continuing (unlinkFileByName toPath) next) post volume := by
  apply may_continuing
  apply may_mono (may_unlinkFileByName ((located_some split).mpr ⟨replaces.holder, rfl⟩) positive
    replaces.directory replaces.present)
  intro ret volume' outcome
  obtain ⟨zero, erased, fits⟩ := outcome
  exact ⟨zero, rest volume' erased fits⟩

/-- The target has gone, with the given entries left, and with all space where it was freed. -/
def Move.ReplacedBy (volume : Volume) (move : Move) (left : Ino → List DirEntry) (ret : Int)
    (volume' : Volume) : Prop :=
  ret = 0 ∧ move.Replaced volume volume' ∧ volume'.entries = left ∧
    (move.Frees volume → Stuck volume' move.toIno)

theorem replacedBy_of_empties {move : Move} {left : Ino → List DirEntry} {loses : Prop}
    (leaves : move.Leaves volume left) (frees : move.Frees volume ↔ loses)
    (erased : Erased volume move.toDir move.toName volume')
    (fits : volume'.fits move.toDir move.toName = true)
    (empties : Empties volume' volume'' move.toIno (left move.toIno) loses) :
    move.ReplacedBy volume left 0 volume'' := by
  refine ⟨rfl, replaced_of_dropped frees.mpr erased fits empties.toDropped, ?_,
    fun freed => empties.stuck (frees.mp freed)⟩
  funext other
  by_cases here : other = move.toIno
  · rw [here]
    exact empties.left
  · rw [empties.others other here, leaves.others other here, erased.2.2.entries]

/-- The entries that may be left of the target's directory and of the target. -/
theorem leaves_erased {move : Move} {left : Ino → List DirEntry} (leaves : move.Leaves volume left)
    (erased : Erased volume move.toDir move.toName volume') :
    (left move.toIno).Sublist (volume'.entries move.toIno) ∧
      (¬move.Frees volume → left move.toIno = volume'.entries move.toIno) := by
  have same : volume'.entries = (volume.erased move.toDir move.toName).entries := erased.2.2.entries
  rw [same]
  exact ⟨leaves.fewer, fun keeps => congrFun (leaves.kept keeps) move.toIno⟩

theorem erased_links {dir : Ino} {name : Name} (erased : Erased volume dir name volume') :
    volume'.links = volume.links := by
  obtain ⟨_, _, same⟩ := erased.2.2
  rw [same]
  rfl

/-- "If the target exists, unlink it first": what is left may be each of what can be left. -/
theorem may_renameTarget {move : Move} {toPath : Path} {left : Ino → List DirEntry}
    (split : strrchr toPath = some (move.target, move.toName))
    (walked : resolver.walk volume toPath = .ok move.toIno) (there : move.toIno ≠ 0)
    (positive : move.toDir ≠ 0) (replaces : move.Replaces resolver volume)
    (leaves : move.Leaves volume left) :
    may (spacious resolver) (renameTarget move.toIno toPath) (move.ReplacedBy volume left) volume := by
  have found : (spacious resolver).allows volume (.namei toPath) (0, move.toIno) volume := by
    refine ⟨⟨rfl, ?_⟩, trivial, trivial⟩
    rw [walked]
    exact .inl ⟨rfl, rfl, there⟩
  rw [renameTarget, if_pos there, may_bind]
  refine may_spacious (.readInode move.toIno) (0, volume.inode move.toIno)
    ⟨⟨rfl, fun _ => ⟨rfl, rfl⟩, fun _ => rfl⟩, trivial, trivial⟩ ?_
  dsimp only
  rw [if_neg (not_not.mpr rfl)]
  by_cases directory : volume.isDir move.toIno = true
  · rw [if_pos (show linuxSIsdir (volume.inode move.toIno).iMode = true from directory), nodeExt2fsRmdir,
      may_bind]
    refine may_spacious (.namei toPath) (0, move.toIno) found ?_
    dsimp only
    rw [if_neg (not_not.mpr rfl), may_bind]
    have iterated : (spacious resolver).allows volume (.dirIterate move.toIno .rmdirProc)
        (0, volume.entries move.toIno) volume := by
      refine ⟨.inl ⟨rfl, directory, ?_, ?_⟩, trivial, trivial⟩
      · rw [iterate_rmdirProc]
      · rw [iterate_rmdirProc]
        exact (volume.setEntries_self move.toIno).symm
    refine may_spacious (.dirIterate move.toIno .rmdirProc) (0, volume.entries move.toIno) iterated ?_
    dsimp only
    rw [if_neg (not_not.mpr rfl), Trees.fold_vacant _ (replaces.empty directory), if_neg (by decide)]
    apply may_unlinked split positive replaces
    intro volume₁ erased fits
    obtain ⟨fewer, kept⟩ := leaves_erased leaves erased
    have frees : move.Frees volume ↔ volume₁.links move.toIno = 1 ∨ volume₁.links move.toIno = 2 := by
      rw [Move.Frees, erased_links erased, and_iff_right directory]
    rw [frees] at kept
    apply may_removeTwice fewer kept
    intro volume₂ empties
    split
    · apply may_mono (may_calm (dropParentLink_only records_plain _)
        (wp_calm (Trees.dropParentLink_written trivial _)))
      intro ret volume₃ outcome
      rw [outcome.1, outcome.2]
      exact replacedBy_of_empties leaves frees erased fits (empties.written _ _)
    · exact replacedBy_of_empties leaves frees erased fits empties
  · rw [if_neg (show ¬linuxSIsdir (volume.inode move.toIno).iMode = true from directory),
      nodeExt2fsUnlink, may_bind]
    refine may_spacious (.namei toPath) (0, move.toIno) found ?_
    dsimp only
    rw [if_neg (not_not.mpr rfl), may_bind]
    refine may_spacious (.checkDirectory move.toIno) EXT2_ET_NO_DIRECTORY
      ⟨⟨rfl, fun bad => absurd bad (by decide : EXT2_ET_NO_DIRECTORY ≠ 0),
        fun _ bad => absurd bad directory⟩, trivial, trivial⟩ ?_
    rw [if_neg (by decide)]
    apply may_unlinked split positive replaces
    intro volume₁ erased fits
    obtain ⟨fewer, kept⟩ := leaves_erased leaves erased
    have frees : move.Frees volume ↔ volume₁.links move.toIno = 1 := by
      rw [Move.Frees, erased_links erased]
      exact or_iff_left fun both => directory both.1
    rw [frees] at kept
    apply may_mono (may_removeInode fewer kept)
    intro ret volume₂ outcome
    rw [outcome.1]
    exact replacedBy_of_empties leaves frees erased fits outcome.2.1

end NodeExt2fs.Atomic
