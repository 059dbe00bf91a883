import NodeExt2fs.Proof.Trees.Volumes
import NodeExt2fs.Proof.Library.Effects
import NodeExt2fs.Proof.Library.Requests

/-!
This file follows `remove_inode` on a disk that does not fail.
-/

namespace NodeExt2fs.Trees
open Programs Structures Glue Library
open Program (wp wp_pure wp_bind wp_ite wp_mono wp_true wp_counting_none)
open Census (Live Shaped Sound Proper Edit Inside Rooted)

variable {resolver : Resolver} {steady exact rooted : Prop} {volume volume' volume'' : Volume}

/-- What an inode holds may go, and its count may change. -/
structure Drained (volume volume' : Volume) (ino : Ino) : Prop where
  inodesCount : volume'.inodesCount = volume.inodesCount
  inUse : volume'.inUse = volume.inUse
  mode : volume'.mode = volume.mode
  target : volume'.target = volume.target
  links : ∀ other, other ≠ ino → volume'.links other = volume.links other
  entries : ∀ other, other ≠ ino → volume'.entries other = volume.entries other

theorem Drained.refl (volume : Volume) (ino : Ino) : Drained volume volume ino :=
  ⟨rfl, rfl, rfl, rfl, fun _ _ => rfl, fun _ _ => rfl⟩

theorem Drained.trans {ino : Ino} (first : Drained volume volume' ino)
    (second : Drained volume' volume'' ino) : Drained volume volume'' ino where
  inodesCount := second.inodesCount.trans first.inodesCount
  inUse := second.inUse.trans first.inUse
  mode := second.mode.trans first.mode
  target := second.target.trans first.target
  links other different := (second.links other different).trans (first.links other different)
  entries other different := (second.entries other different).trans (first.entries other different)

theorem drained_written {ino : Ino} {mode links : BitVec 16} (same : mode = volume.mode ino) :
    Drained volume (volume.written ino mode links) ino where
  inodesCount := rfl
  inUse := rfl
  mode := by
    rw [same]
    exact Function.update_eq_self _ _
  target := rfl
  links _ different := Function.update_of_ne different _ _
  entries _ _ := rfl

theorem drained_entries (volume : Volume) (ino : Ino) (entries : List DirEntry) :
    Drained volume ((volume.breakHandles ino).setEntries ino entries) ino where
  inodesCount := rfl
  inUse := rfl
  mode := rfl
  target := rfl
  links _ _ := rfl
  entries _ different := Function.update_of_ne different _ _

theorem drained_like {ino : Ino} (like : volume.Like volume') : Drained volume volume' ino := by
  obtain ⟨fits, grows, same⟩ := like
  rw [same]
  exact ⟨rfl, rfl, rfl, rfl, fun _ _ => rfl, fun _ _ => rfl⟩

/-- One link is taken from an inode, and the last one frees it. -/
structure Taken (volume volume' : Volume) (ino : Ino) : Prop where
  inodesCount : volume'.inodesCount = volume.inodesCount
  inUse : volume'.inUse =
    if volume.links ino = 1 then Function.update volume.inUse ino false else volume.inUse
  mode : volume'.mode = volume.mode
  target : volume'.target = volume.target
  links : volume'.links = Function.update volume.links ino
    (if volume.links ino = 0 then 0 else volume.links ino - 1)
  others : ∀ other, other ≠ ino → volume'.entries other = volume.entries other
  entries : volume.links ino ≠ 1 → volume'.entries ino = volume.entries ino

/-- The end of `remove_inode` keeps the type that the record has. -/
theorem freeInode_taken (calm : steady) {ino : Ino} {inode : InodeLarge}
    (last : volume.links ino = 1) (mode : inode.iMode = volume.mode ino)
    (links : inode.iLinksCount = 0) :
    wp (libext2fs resolver steady) (freeInode ino inode)
      (fun ret volume' => ret = 0 ∧ Taken volume volume' ino) volume := by
  rw [freeInode, wp_bind]
  apply wp_library (.freeExtAttr ino inode)
  intro freed volume₁ allowed
  obtain ⟨keeps, fine, stored⟩ := allowed
  have drained₁ : Drained volume volume₁ ino := by
    rcases stored with same | written
    · rw [same]
      exact .refl volume ino
    · rw [written]
      exact drained_written mode
  dsimp only
  rw [wp_ite]
  refine ⟨fun bad => absurd (fine calm) bad, fun _ => ?_⟩
  rw [wp_bind]
  have punched : wp (libext2fs resolver steady) (punchBlocks ino freed.2)
      (fun answer volume₂ => answer.1 = 0 ∧ Keeps inode.toInode answer.2.toInode ∧
        Drained volume volume₂ ino) volume₁ := by
    rw [punchBlocks, wp_bind]
    apply wp_library (.inodeHasValidBlocks freed.2.toInode)
    intro blocks volume₂ same
    rw [show volume₂ = _ from same]
    simp only [wp_ite, wp_bind, wp_pure]
    refine ⟨fun _ => ?_, fun _ => ⟨trivial, keeps, drained₁⟩⟩
    apply wp_library (.punch ino freed.2.toInode)
    intro answer volume₃ allowed
    obtain ⟨keeps', fine', entries, _, like⟩ := allowed
    refine ⟨fine' calm, keeps.trans keeps', ?_⟩
    rcases like with like | like
    · exact drained₁.trans ((drained_entries volume₁ ino entries).trans (drained_like like))
    · have kind : freed.2.iMode = volume₁.mode ino := by
        rw [drained₁.mode, ← mode]
        exact keeps.1
      have written := @drained_written (volume₁.breakHandles ino) ino freed.2.iMode
        freed.2.iLinksCount kind
      have broken : Drained volume₁ (volume₁.breakHandles ino) ino :=
        ⟨rfl, rfl, rfl, rfl, fun _ _ => rfl, fun _ _ => rfl⟩
      have emptied : Drained ((volume₁.breakHandles ino).written ino freed.2.iMode
          freed.2.iLinksCount) (((volume₁.breakHandles ino).written ino freed.2.iMode
          freed.2.iLinksCount).setEntries ino entries) ino :=
        ⟨rfl, rfl, rfl, rfl, fun _ _ => rfl, fun _ different => Function.update_of_ne different _ _⟩
      exact drained₁.trans (broken.trans (written.trans (emptied.trans (drained_like like))))
  apply wp_mono punched
  intro answer volume₂ outcome
  obtain ⟨zero, keeps', drained₂⟩ := outcome
  rw [wp_ite]
  refine ⟨fun bad => absurd zero bad, fun _ => ?_⟩
  rw [wp_bind]
  apply wp_library (.inodeAllocStats ino (-1) _)
  intro _ volume₃ marked
  have volume_three : volume₃ = volume₂.allocStats ino (-1) := marked
  rw [writeOut, wp_bind]
  apply wp_library (.writeInodeFull ino answer.2)
  intro code volume₄ wrote
  have written : code = 0 ∧ volume₄ =
      volume₃.written ino answer.2.iMode answer.2.iLinksCount := by
    rcases wrote with done | ⟨unsteady, _⟩
    · exact done
    · exact absurd calm unsteady
  rw [wp_ite]
  refine ⟨fun bad => absurd written.1 bad, fun _ => ⟨rfl, ?_⟩⟩
  have mode₄ : answer.2.iMode = volume.mode ino := keeps'.1.trans mode
  have links₄ : answer.2.iLinksCount = 0 := keeps'.2.trans links
  rw [written.2, volume_three, mode₄, links₄]
  constructor
  · exact drained₂.inodesCount
  · rw [if_pos last]
    show Function.update volume₂.inUse ino _ = _
    rw [drained₂.inUse]
    rfl
  · show Function.update volume₂.mode ino _ = _
    rw [drained₂.mode, Function.update_eq_self]
  · exact drained₂.target
  · rw [last]
    show Function.update volume₂.links ino 0 = Function.update volume.links ino 0
    funext other
    by_cases same : other = ino
    · rw [same, Function.update_self, Function.update_self]
    · rw [Function.update_of_ne same, Function.update_of_ne same, drained₂.links other same]
  · exact fun other different => drained₂.entries other different
  · exact fun more => absurd last more

theorem taken_counted {ino : Ino} (held : volume.links ino ≠ 1) :
    Taken volume (volume.counted ino) ino := by
  rw [Volume.counted]
  by_cases none : volume.links ino = 0
  · rw [if_pos none]
    refine ⟨rfl, (if_neg held).symm, rfl, rfl, ?_, fun _ _ => rfl, fun _ => rfl⟩
    rw [if_pos none]
    exact (Function.update_eq_self_iff.mpr none.symm).symm
  · rw [if_neg none]
    refine ⟨rfl, (if_neg held).symm, Function.update_eq_self _ _, rfl, ?_, fun _ _ => rfl,
      fun _ => rfl⟩
    rw [if_neg none]
    rfl

/-- `remove_inode` takes one link. -/
theorem removeInode_taken (calm : steady) (ino : Ino) :
    wp (libext2fs resolver steady) (removeInode ino)
      (fun ret volume' => ret = 0 ∧ Taken volume volume' ino) volume := by
  by_cases last : volume.links ino = 1
  · rw [removeInode, wp_bind]
    apply wp_library (.readInodeFull ino)
    intro answer volume₁ allowed
    obtain ⟨same, read, fine⟩ := allowed
    rw [same, wp_ite]
    refine ⟨fun bad => absurd (fine calm) bad, fun zero => ?_⟩
    have record := read (not_not.mp zero)
    have count : answer.2.iLinksCount = 1 := record.2.trans last
    rw [wp_ite]
    refine ⟨fun unlinked => absurd (count.symm.trans unlinked) (by decide), fun _ => ?_⟩
    rw [wp_bind]
    apply wp_mono (takeLink_counted answer.2)
    intro taken volume₂ took
    obtain ⟨same, mode, links⟩ := took
    rw [same, wp_bind]
    apply wp_mono (updateCtime_some ino taken)
    intro updated volume₃ stamped
    obtain ⟨same, fine, keeps⟩ := stamped
    have left : updated.2.iLinksCount = 0 := by
      rw [keeps.2, links, count]
      decide
    rw [same, wp_ite]
    refine ⟨fun bad => absurd fine bad, fun _ => ?_⟩
    rw [wp_ite]
    refine ⟨fun more => absurd left more, fun _ => ?_⟩
    exact freeInode_taken calm last (keeps.1.trans (mode.trans record.1)) left
  · apply wp_mono (removeInode_counted ino last)
    intro ret volume' counted
    rcases counted with ⟨same, fine⟩ | ⟨_, _, unsteady⟩
    · rw [same]
      exact ⟨fine calm, taken_counted last⟩
    · exact absurd calm unsteady

/-- The calls that free an inode. -/
def frees : Call → Bool
  | .inodeAllocStats _ inuse _ => decide (inuse < 0)
  | _ => false

theorem upkeep_free (call : Call) (listed : upkeep call = true) : frees call = false := by
  cases call with
  | inodeAllocStats ino inuse isdir => cases listed
  | _ => rfl

theorem records_free : ∀ call, records call = true → frees call = false := records_basic upkeep_free

/-- A call of the library may have each of its effects, and it is counted when it frees an inode. -/
theorem wp_counted {count : Nat} (call : Call) {post : Answer call → Volume × Nat → Prop}
    (rest : ∀ answer volume', effect resolver steady volume call answer volume' →
      post answer (volume', count + (frees call).toNat)) :
    wp ((libext2fs resolver steady).counting frees) call.perform post (volume, count) := by
  refine ⟨trivial, fun answer state' allowed => ?_⟩
  have same : state' = (state'.1, count + (frees call).toNat) := Prod.ext rfl allowed.2
  rw [same]
  exact rest answer state'.1 allowed.1

/-- A part without such calls is followed without the counter. -/
theorem wp_uncounted {A : Type} {routine : Routine A} {post : A → Volume → Prop} {count : Nat}
    (none : routine.Only fun call => frees call = false)
    (before : wp (libext2fs resolver steady) routine post volume) :
    wp ((libext2fs resolver steady).counting frees) routine
      (fun value state' => ∃ volume', post value volume' ∧ state' = (volume', count))
      (volume, count) := by
  apply wp_mono (wp_counting_none none before)
  intro value state' outcome
  exact ⟨state'.1, outcome.1, Prod.ext rfl outcome.2⟩

/-- A part without such calls leaves the counter. -/
theorem wp_counter {A : Type} {routine : Routine A} {count : Nat}
    (none : routine.Only fun call => frees call = false) :
    wp ((libext2fs resolver steady).counting frees) routine (fun _ state' => state'.2 = count)
      (volume, count) := by
  apply wp_mono (wp_counting_none none (wp_true (fun _ _ => trivial) routine volume))
  exact fun _ _ outcome => outcome.2

theorem punchBlocks_fine (calm : steady) (ino : Ino) (inode : InodeLarge) :
    wp (libext2fs resolver steady) (punchBlocks ino inode) (fun answer _ => answer.1 = 0) volume := by
  rw [punchBlocks, wp_bind]
  apply wp_library (.inodeHasValidBlocks inode.toInode)
  intro blocks volume₁ _
  rw [wp_ite]
  refine ⟨fun _ => ?_, fun _ => rfl⟩
  rw [wp_bind]
  apply wp_library (.punch ino inode.toInode)
  intro answer volume₂ allowed
  exact allowed.2.1 calm

theorem freeInode_frees (calm : steady) (ino : Ino) (inode : InodeLarge) (count : Nat) :
    wp ((libext2fs resolver steady).counting frees) (freeInode ino inode)
      (fun _ state' => state'.2 = count + 1) (volume, count) := by
  rw [freeInode, wp_bind]
  apply wp_counted (.freeExtAttr ino inode)
  intro freed volume₁ allowed
  dsimp only
  rw [wp_ite]
  refine ⟨fun bad => absurd (allowed.2.1 calm) bad, fun _ => ?_⟩
  rw [wp_bind]
  apply wp_mono (wp_uncounted (punchBlocks_only records_free ino (fun _ => rfl) freed.2)
    (punchBlocks_fine calm ino freed.2))
  intro answer state' outcome
  obtain ⟨volume₂, fine, same⟩ := outcome
  rw [same, wp_ite]
  refine ⟨fun bad => absurd fine bad, fun _ => ?_⟩
  rw [wp_bind]
  apply wp_counted (.inodeAllocStats ino (-1) _)
  intro _ volume₃ _
  exact wp_counter (writeOut_only records_free ino answer.2 0)

/-- `remove_inode` frees the inode with its last link, and once. -/
theorem removeInode_frees (calm : steady) (ino : Ino) (count : Nat) :
    wp ((libext2fs resolver steady).counting frees) (removeInode ino)
      (fun _ state' => state'.2 = count + if volume.links ino = 1 then 1 else 0) (volume, count) := by
  rw [removeInode, wp_bind]
  apply wp_counted (.readInodeFull ino)
  intro answer volume₁ allowed
  obtain ⟨_, read, fine⟩ := allowed
  rw [wp_ite]
  refine ⟨fun bad => absurd (fine calm) bad, fun zero => ?_⟩
  have links : answer.2.iLinksCount = volume.links ino := (read (not_not.mp zero)).2
  rw [← links, wp_ite]
  refine ⟨fun none => ?_, fun some => ?_⟩
  · rw [none, if_neg (by decide)]
    rfl
  · rw [wp_bind]
    apply wp_mono (wp_uncounted (takeLink_only records_free answer.2) (takeLink_counted answer.2))
    intro taken state' outcome
    obtain ⟨volume₂, took, same⟩ := outcome
    rw [same, wp_bind]
    apply wp_mono (wp_uncounted (updateCtime_only records_free ino _) (updateCtime_some ino taken))
    intro updated state' outcome
    obtain ⟨volume₃, stamped, same⟩ := outcome
    have left : updated.2.iLinksCount = answer.2.iLinksCount - 1 := stamped.2.2.2.trans took.2.2
    rw [same, wp_ite]
    refine ⟨fun bad => absurd stamped.2.1 bad, fun _ => ?_⟩
    rw [wp_ite]
    refine ⟨fun more => ?_, fun last => ?_⟩
    · have held : answer.2.iLinksCount ≠ 1 := by
        intro one
        rw [left, one] at more
        exact more (by decide)
      rw [if_neg held]
      exact wp_counter (writeOut_only records_free ino updated.2 updated.1)
    · have one : answer.2.iLinksCount = 1 := by
        rw [left] at last
        exact eq_of_sub_eq_zero (not_not.mp last)
      rw [if_pos one]
      exact freeInode_frees calm ino updated.2 count

end NodeExt2fs.Trees
