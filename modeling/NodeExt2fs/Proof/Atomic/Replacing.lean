import NodeExt2fs.Proof.Library.Spacious
import NodeExt2fs.Proof.Trees.Removing

/-!
This file follows the removal of the target of a rename, with what it leaves of the space.
-/

namespace NodeExt2fs.Atomic
open Programs Structures Glue Library
open Program (wp wp_bind wp_ite wp_mono wp_and wp_of_only)

variable {resolver : Resolver} {volume volume' volume'' : Volume}

/-- The parts of both paths, and the inodes that a rename finds; a target of zero is none. -/
structure Move where
  source : Path
  fromName : Name
  target : Path
  toName : Name
  fromIno : Ino
  fromDir : Ino
  toIno : Ino
  toDir : Ino

/-- The target can be removed: it is found once more without the slash, and a directory has no other
entries. -/
structure Move.Replaces (resolver : Resolver) (volume : Volume) (move : Move) : Prop where
  holder : resolver.walk volume move.target = .ok move.toDir
  directory : volume.isDir move.toDir = true
  present : (volume.find move.toDir move.toName).isSome = true
  empty : volume.isDir move.toIno = true → ∀ entry ∈ volume.entries move.toIno, entry.inode ≠ 0 →
    entry.name = dot ∨ entry.name = dotdot

/-- The target has no link after a removal, which takes two links from a directory. -/
def Move.Frees (volume : Volume) (move : Move) : Prop :=
  volume.links move.toIno = 1 ∨ volume.isDir move.toIno = true ∧ volume.links move.toIno = 2

theorem erased_here (volume : Volume) (dir : Ino) (name : Name) :
    (volume.erased dir name).entries dir =
      (volume.entries dir).eraseP fun entry => entry.name = name :=
  Function.update_self _ _ _

/-- The entries that are left when the target has gone. What it held may go with its last link. -/
structure Move.Leaves (volume : Volume) (move : Move) (entries : Ino → List DirEntry) : Prop where
  others : ∀ other, other ≠ move.toIno →
    entries other = (volume.erased move.toDir move.toName).entries other
  fewer : (entries move.toIno).Sublist ((volume.erased move.toDir move.toName).entries move.toIno)
  kept : ¬move.Frees volume → entries = (volume.erased move.toDir move.toName).entries

/-- What a removal of the target makes of the volume. -/
structure Move.Replaced (volume : Volume) (move : Move) (volume' : Volume) : Prop where
  leaves : move.Leaves volume volume'.entries
  mode : volume'.mode = volume.mode
  target : volume'.target = volume.target
  fits : move.toDir ≠ move.toIno ∨ ¬move.Frees volume →
    volume'.fits move.toDir move.toName = true

/-- What an inode holds may go, but only where it loses its last link. -/
structure Dropped (volume volume' : Volume) (ino : Ino) (loses : Prop) : Prop where
  others : ∀ other, other ≠ ino → volume'.entries other = volume.entries other
  fewer : (volume'.entries ino).Sublist (volume.entries ino)
  mode : volume'.mode = volume.mode
  target : volume'.target = volume.target
  fits : ∀ other, other ≠ ino → volume'.fits other = volume.fits other
  kept : ¬loses → volume'.entries = volume.entries ∧ volume'.fits = volume.fits ∧
    volume'.grows = volume.grows

theorem Dropped.trans {ino : Ino} {first second : Prop} (before : Dropped volume volume' ino first)
    (after : Dropped volume' volume'' ino second) : Dropped volume volume'' ino (first ∨ second) where
  others other different := (after.others other different).trans (before.others other different)
  fewer := after.fewer.trans before.fewer
  mode := after.mode.trans before.mode
  target := after.target.trans before.target
  fits other different := (after.fits other different).trans (before.fits other different)
  kept loses := by
    obtain ⟨not, neither⟩ := not_or.mp loses
    obtain ⟨entries, fits, grows⟩ := before.kept not
    obtain ⟨entries', fits', grows'⟩ := after.kept neither
    exact ⟨entries'.trans entries, fits'.trans fits, grows'.trans grows⟩

/-- A count that is written drops nothing. -/
theorem Dropped.written {ino : Ino} {loses : Prop} (dropped : Dropped volume volume' ino loses)
    (parent : Ino) (links : BitVec 16) :
    Dropped volume (volume'.written parent (volume'.mode parent) links) ino loses where
  others := dropped.others
  fewer := dropped.fewer
  mode := (Function.update_eq_self _ _).trans dropped.mode
  target := dropped.target
  fits := dropped.fits
  kept := dropped.kept

/-- Entries may go, and no space of another directory than the given one changes. -/
def Narrows (ino : Ino) (volume volume' : Volume) : Prop :=
  (volume'.entries ino).Sublist (volume.entries ino) ∧
    ∀ other, other ≠ ino → volume'.fits other = volume.fits other

theorem Narrows.refl (ino : Ino) (volume : Volume) : Narrows ino volume volume :=
  ⟨List.Sublist.refl _, fun _ _ => rfl⟩

theorem Narrows.trans (ino : Ino) (first second third : Volume) (before : Narrows ino first second)
    (after : Narrows ino second third) : Narrows ino first third :=
  ⟨after.1.trans before.1,
    fun other different => (after.2 other different).trans (before.2 other different)⟩

/-- Each effect of a call narrows an inode at most. -/
def Narrowing (resolver : Resolver) (ino : Ino) (call : Call) : Prop :=
  ∀ volume answer volume', (spacious resolver).allows volume call answer volume' →
    Narrows ino volume volume'

theorem narrows_same {ino : Ino} (same : volume' = volume) : Narrows ino volume volume' :=
  same ▸ .refl ino volume

theorem narrows_written {ino other : Ino} {inode : Inode} {code : Errcode}
    (wrote : WrittenTo True volume other inode code volume') : Narrows ino volume volume' := by
  rcases wrote with ⟨_, same⟩ | ⟨unsteady, _⟩
  · rw [same]
    exact ⟨List.Sublist.refl _, fun _ _ => rfl⟩
  · exact absurd trivial unsteady

theorem records_narrowing (ino : Ino) (call : Call) (listed : records call = true) :
    Narrowing resolver ino call := by
  intro volume answer volume' allowed
  have held := allowed.1
  cases call with
  | writeNewInode other inode => exact narrows_written held
  | writeInode other inode => exact narrows_written held
  | writeInodeFull other inode => exact narrows_written held
  | link | unlink | mkdir | symlink | expandDir | dirIterate | inodeAllocStats | freeExtAttr | punch
    | fileOpen | fileSetSize | fileWrite | fileFlush | fileClose | storeFileInode => cases listed
  | _ => first | exact narrows_same held | exact narrows_same held.1

theorem frees_narrowing (ino : Ino) : Frees (Narrowing resolver ino) ino where
  freeExtAttr inode volume answer volume' allowed := by
    rcases allowed.1.2.2 with same | same
    · exact narrows_same same
    · rw [same]
      exact ⟨List.Sublist.refl _, fun _ _ => rfl⟩
  punch inode volume answer volume' allowed := by
    obtain ⟨⟨_, _, entries, fewer, like⟩, _, fits⟩ := allowed
    refine ⟨?_, fits⟩
    rcases like with ⟨_, _, same⟩ | ⟨_, _, same⟩
    · rw [same]
      show (Function.update volume.entries ino entries ino).Sublist _
      rw [Function.update_self]
      exact fewer
    · rw [same]
      show (Function.update volume.entries ino entries ino).Sublist _
      rw [Function.update_self]
      exact fewer
  allocStats isdir volume answer volume' allowed := by
    rw [show volume' = _ from allowed.1]
    exact ⟨List.Sublist.refl _, fun _ _ => rfl⟩

/-- `remove_inode` takes a link, and leaves the space of other inodes. -/
theorem removeInode_dropped (ino : Ino) :
    wp (spacious resolver) (removeInode ino)
      (fun ret volume' => ret = 0 ∧ Dropped volume volume' ino (volume.links ino = 1) ∧
        volume'.links ino = if volume.links ino = 0 then 0 else volume.links ino - 1) volume := by
  have narrows : wp (spacious resolver) (removeInode ino) (fun _ volume' => Narrows ino volume volume')
      volume := by
    have each (volume : Volume) (call : Call) (narrowing : Narrowing resolver ino call) :
        (spacious resolver).permits volume call ∧ ∀ answer volume',
          (spacious resolver).allows volume call answer volume' → Narrows ino volume volume' :=
      ⟨trivial, narrowing volume⟩
    exact wp_of_only (Narrows.refl ino) (Narrows.trans ino) each
      (removeInode_only (records_narrowing ino) ino (frees_narrowing ino)) volume
  have kept : wp (spacious resolver) (removeInode ino)
      (fun _ volume' => volume.links ino ≠ 1 → volume' = volume.counted ino) volume := by
    by_cases last : volume.links ino = 1
    · exact wp_mono narrows fun _ _ _ more => absurd last more
    · apply wp_mono (wp_calm (removeInode_counted ino last))
      intro ret volume' counted _
      rcases counted with ⟨same, _⟩ | ⟨_, _, unsteady⟩
      · exact same
      · exact absurd trivial unsteady
  apply wp_mono (wp_and (wp_calm (Trees.removeInode_taken trivial ino)) (wp_and narrows kept))
  intro ret volume' outcome
  obtain ⟨⟨zero, taken⟩, narrowed, counted⟩ := outcome
  refine ⟨zero, ⟨taken.others, narrowed.1, taken.mode, taken.target, narrowed.2, fun more => ?_⟩, ?_⟩
  · rw [counted more, Volume.counted]
    split
    · exact ⟨rfl, rfl, rfl⟩
    · exact ⟨rfl, rfl, rfl⟩
  · rw [taken.links, Function.update_self]

/-- The last of two links goes with either call. -/
theorem twice_iff {links : BitVec 16} :
    links = 1 ∨ (if links = 0 then 0 else links - 1) = 1 ↔ links = 1 ∨ links = 2 := by
  by_cases none : links = 0
  · rw [if_pos none, none]
    decide
  · rw [if_neg none]
    apply or_congr_right
    constructor
    · intro one
      bv_omega
    · intro two
      bv_omega

/-- A directory is "removed" twice. -/
theorem removeTwice_dropped {ino : Ino} {next : Routine Int} {post : Int → Volume → Prop}
    (rest : ∀ volume', Dropped volume volume' ino (volume.links ino = 1 ∨ volume.links ino = 2) →
      wp (spacious resolver) next post volume') :
    wp (spacious resolver) (removeTwice ino next) post volume := by
  apply wp_continuing
  apply wp_mono (removeInode_dropped ino)
  intro ret₁ volume₁ outcome
  obtain ⟨zero, first, links⟩ := outcome
  refine ⟨fun bad => absurd zero bad, fun _ => ?_⟩
  apply wp_continuing
  apply wp_mono (removeInode_dropped ino)
  intro ret₂ volume₂ outcome
  obtain ⟨zero', second, _⟩ := outcome
  refine ⟨fun bad => absurd zero' bad, fun _ => ?_⟩
  apply rest
  have both := first.trans second
  rwa [links, twice_iff] at both

theorem replaced_of_dropped {move : Move} {loses : Prop}
    (frees : loses → move.Frees volume)
    (erased : Erased volume move.toDir move.toName volume')
    (fits : volume'.fits move.toDir move.toName = true)
    (dropped : Dropped volume' volume'' move.toIno loses) : move.Replaced volume volume'' := by
  obtain ⟨_, _, _, _, same⟩ := erased
  have entries : volume'.entries = (volume.erased move.toDir move.toName).entries := by
    rw [same]
  refine ⟨⟨fun other different => ?_, ?_, fun keeps => ?_⟩, ?_, ?_, fun apart => ?_⟩
  · rw [dropped.others other different, entries]
  · rw [← entries]
    exact dropped.fewer
  · rw [(dropped.kept fun loses => keeps (frees loses)).1, entries]
  · rw [dropped.mode, same]
    rfl
  · rw [dropped.target, same]
    rfl
  · rcases apart with apart | keeps
    · rw [dropped.fits _ apart]
      exact fits
    · rw [(dropped.kept fun loses => keeps (frees loses)).2.1]
      exact fits

/-- The target has gone, with what its removal needs, or the call fails and nothing has changed. -/
def Move.Outcome (resolver : Resolver) (volume : Volume) (move : Move) (ret : Int)
    (volume' : Volume) : Prop :=
  ret = 0 ∧ move.Replaces resolver volume ∧ move.Replaced volume volume' ∨ ret ≠ 0 ∧ volume' = volume

theorem outcome_failed {move : Move} (err : Errcode) (bad : err ≠ 0) :
    wp (spacious resolver) (translateError err) (move.Outcome resolver volume) volume := by
  apply wp_mono (wp_calm (translateError_quiet err))
  exact fun ret volume' quiet => .inr ⟨quiet.2 bad, quiet.1⟩

/-- The name of the target goes first. -/
theorem removal_outcome {move : Move} {toPath : Path} {next : Routine Int}
    (split : strrchr toPath = some (move.target, move.toName))
    (parent : resolver.walk volume (move.target ++ [slash]) = .ok move.toDir)
    (empty : volume.isDir move.toIno = true → ∀ entry ∈ volume.entries move.toIno, entry.inode ≠ 0 →
      entry.name = dot ∨ entry.name = dotdot)
    (rest : ∀ volume', volume'.links = volume.links → wp (spacious resolver) next
      (fun ret after => ret = 0 ∧ Dropped volume' after move.toIno (move.Frees volume)) volume') :
    wp (spacious resolver) (continuing (unlinkFileByName toPath) next)
      (move.Outcome resolver volume) volume := by
  apply wp_continuing
  apply wp_mono (unlinkFileByName_fits split)
  intro ret volume' outcome
  rcases outcome with ⟨zero, dir, found, erased, fits⟩ | ⟨bad, same⟩
  · refine ⟨fun bad => absurd zero bad, fun _ => ?_⟩
    have here := resolver.walk_slash volume move.target move.toDir dir parent found erased.1
    rw [here] at found erased fits
    have links : volume'.links = volume.links := by
      obtain ⟨_, _, same⟩ := erased.2.2
      rw [same]
      rfl
    apply wp_mono (rest volume' links)
    intro ret' after outcome
    exact .inl ⟨outcome.1, ⟨found, erased.1, erased.2.1, empty⟩,
      replaced_of_dropped id erased fits outcome.2⟩
  · exact ⟨fun _ => .inr ⟨bad, same⟩, fun zero => absurd zero bad⟩

/-- "If the target exists, unlink it first". -/
theorem renameTarget_outcome {move : Move} {toPath : Path}
    (split : strrchr toPath = some (move.target, move.toName))
    (parent : resolver.walk volume (move.target ++ [slash]) = .ok move.toDir)
    (walked : resolver.walk volume toPath = .ok move.toIno) (there : move.toIno ≠ 0) :
    wp (spacious resolver) (renameTarget move.toIno toPath) (move.Outcome resolver volume) volume := by
  have found {answer : Errcode × Ino} (resolved : Resolved True (resolver.walk volume toPath) answer)
      (fine : answer.1 = 0) : answer.2 = move.toIno :=
    Except.ok.inj ((walk_of_resolved resolved fine).1.symm.trans walked)
  rw [renameTarget, if_pos there, wp_bind]
  apply wp_spacious (.readInode move.toIno)
  intro answer volume₁ allowed
  obtain ⟨⟨same, read, fine⟩, _⟩ := allowed
  rw [same, wp_ite]
  refine ⟨fun bad => absurd (fine trivial) bad, fun zero => ?_⟩
  have kind : linuxSIsdir answer.2.iMode = volume.isDir move.toIno :=
    congrArg linuxSIsdir (read (not_not.mp zero)).1
  rw [kind, wp_ite]
  refine ⟨fun directory => ?_, fun isFile => ?_⟩
  · rw [nodeExt2fsRmdir, wp_bind]
    apply wp_spacious (.namei toPath)
    intro child volume₂ allowed
    obtain ⟨⟨same, resolved⟩, _⟩ := allowed
    rw [same, wp_ite]
    refine ⟨fun bad => outcome_failed child.1 bad, fun fine => ?_⟩
    have known := found resolved (not_not.mp fine)
    rw [known, wp_bind]
    apply wp_spacious (.dirIterate move.toIno .rmdirProc)
    intro visited volume₃ allowed
    obtain ⟨same, listed⟩ := rmdirProc_effect allowed.1
    rw [same, wp_ite]
    refine ⟨fun bad => outcome_failed visited.1 bad, fun fine => ?_⟩
    obtain ⟨_, entries⟩ := listed (not_not.mp fine)
    dsimp only
    rw [wp_ite]
    refine ⟨fun _ => .inr ⟨by decide, rfl⟩, fun empty => ?_⟩
    rw [Bool.not_eq_true', Bool.not_eq_false, entries] at empty
    have special := ((Trees.rmdirProc_fold (volume.entries move.toIno)
      { parent := 0, empty := true }).1 empty).2
    apply removal_outcome split parent fun _ => special
    intro volume' links
    apply removeTwice_dropped
    intro volume'' dropped
    rw [links] at dropped
    have freed : Dropped volume' volume'' move.toIno (move.Frees volume) := by
      refine ⟨dropped.others, dropped.fewer, dropped.mode, dropped.target, dropped.fits, ?_⟩
      intro keeps
      apply dropped.kept
      intro either
      rcases either with one | two
      · exact keeps (.inl one)
      · exact keeps (.inr ⟨directory, two⟩)
    rw [wp_ite]
    refine ⟨fun _ => ?_, fun _ => ⟨rfl, freed⟩⟩
    apply wp_mono (wp_calm (Trees.dropParentLink_written trivial _))
    intro ret after outcome
    rw [outcome.2]
    exact ⟨outcome.1, freed.written _ _⟩
  · rw [nodeExt2fsUnlink, wp_bind]
    apply wp_spacious (.namei toPath)
    intro child volume₂ allowed
    obtain ⟨⟨same, resolved⟩, _⟩ := allowed
    rw [same, wp_ite]
    refine ⟨fun bad => outcome_failed child.1 bad, fun fine => ?_⟩
    have known := found resolved (not_not.mp fine)
    rw [known, wp_bind]
    apply wp_spacious (.checkDirectory move.toIno)
    intro code volume₃ allowed
    rw [allowed.1.1, wp_ite]
    refine ⟨fun _ => .inr ⟨by decide, rfl⟩, fun _ => ?_⟩
    apply removal_outcome split parent fun directory => absurd directory isFile
    intro volume' links
    apply wp_mono (removeInode_dropped move.toIno)
    intro ret after outcome
    obtain ⟨zero, dropped, _⟩ := outcome
    rw [links] at dropped
    refine ⟨zero, dropped.others, dropped.fewer, dropped.mode, dropped.target, dropped.fits, ?_⟩
    exact fun keeps => dropped.kept fun one => keeps (.inl one)

end NodeExt2fs.Atomic
