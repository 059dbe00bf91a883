import NodeExt2fs.Construction.Library.Space
import NodeExt2fs.Proof.Library.Possible

/-!
This file says what the parts of the operations do to the space of directories, and what they may come
to.
-/

namespace NodeExt2fs.Library
open Programs Glue
open Program (wp wp_bind wp_ite wp_mono wp_refines may may_bind may_mono may_of_wp may_refines)

variable {resolver : Resolver} {volume : Volume}

/-- A call of the library may have each of its effects. -/
theorem wp_spacious (call : Call) {post : Answer call → Volume → Prop}
    (rest : ∀ answer volume', (spacious resolver).allows volume call answer volume' →
      post answer volume') : wp (spacious resolver) call.perform post volume :=
  ⟨trivial, rest⟩

theorem may_spacious (call : Call) {post : Answer call → Volume → Prop} (answer : Answer call)
    {volume' : Volume} (allowed : (spacious resolver).allows volume call answer volume')
    (rest : post answer volume') : may (spacious resolver) call.perform post volume :=
  ⟨answer, volume', allowed, rest⟩

/-- What always holds on the library holds when it keeps to its space as well. -/
theorem wp_calm {A : Type} {routine : Routine A} {post : A → Volume → Prop}
    (before : wp (libext2fs resolver True) routine post volume) :
    wp (spacious resolver) routine post volume :=
  wp_refines (spacious_refines resolver) before

/-- Every call apart from the lookups has an answer. -/
theorem spacious_answered (volume : Volume) (call : Call) (plain : looksUp call = false) :
    ∃ answer volume', (spacious resolver).allows volume call answer volume' := by
  cases call with
  | link dir name ino fileType =>
      by_cases takes : volume.isDir dir = true ∧ volume.fits dir name = true
      · refine ⟨(0 : Errcode), _, .inl ⟨rfl, takes.1, [], volume.entries dir, rfl, volume.fits,
          volume.grows, rfl⟩, fun _ => takes.2, trivial⟩
      · refine ⟨EXT2_ET_DIR_NO_SPACE, volume, .inr ⟨(by decide : EXT2_ET_DIR_NO_SPACE ≠ 0), rfl,
          fun _ directory => ⟨rfl, ?_⟩⟩, fun fine => absurd fine (by decide : EXT2_ET_DIR_NO_SPACE ≠ 0),
          trivial⟩
        exact Bool.eq_false_iff.mpr fun fits => takes ⟨directory, fits⟩
  | unlink dir name =>
      by_cases holds : volume.isDir dir = true ∧ (volume.find dir name).isSome = true
      · exact ⟨(0 : Errcode), { volume.setEntries dir ((volume.entries dir).eraseP fun entry =>
          entry.name = name) with fits := fun _ _ => true }, .inl ⟨rfl, holds.1, holds.2, _, _, rfl⟩,
          trivial, fun _ => rfl⟩
      · refine ⟨EXT2_ET_DIR_NO_SPACE, volume, .inr ⟨(by decide : EXT2_ET_DIR_NO_SPACE ≠ 0), rfl,
          fun _ directory => ?_⟩, trivial,
          fun fine => absurd fine (by decide : EXT2_ET_DIR_NO_SPACE ≠ 0)⟩
        exact Option.not_isSome_iff_eq_none.mp fun present => holds ⟨directory, present⟩
  | expandDir dir =>
      by_cases grows : volume.grows dir = true
      · exact ⟨(0 : Errcode), { volume with fits := fun _ _ => true },
          .inl ⟨rfl, ⟨_, _, rfl⟩, fun _ => rfl⟩, fun _ => grows, trivial⟩
      · exact ⟨EXT2_ET_BLOCK_ALLOC_FAIL, volume,
          .inr ⟨(by decide : EXT2_ET_BLOCK_ALLOC_FAIL ≠ 0), rfl,
            fun _ _ => Bool.eq_false_iff.mpr grows⟩,
          fun fine => absurd fine (by decide : EXT2_ET_BLOCK_ALLOC_FAIL ≠ 0), trivial⟩
  | punch ino inode =>
      exact ⟨(0, inode), (volume.breakHandles ino).setEntries ino [],
        ⟨⟨rfl, rfl⟩, fun _ => rfl, [], List.nil_sublist _, .inl ⟨_, _, rfl⟩⟩, trivial, fun _ _ => rfl⟩
  | flush2 => exact ⟨(0 : Errcode), volume, rfl, trivial, rfl⟩
  | _ =>
      obtain ⟨answer, volume', allowed⟩ := @answered resolver volume _ plain
      exact ⟨answer, volume', allowed, trivial, trivial⟩

/-- A part without lookups may come to what it always comes to. -/
theorem may_calm {A : Type} {routine : Routine A} {post : A → Volume → Prop}
    (plain : routine.Only fun call => looksUp call = false)
    (before : wp (spacious resolver) routine post volume) :
    may (spacious resolver) routine post volume :=
  may_of_wp spacious_answered plain before

/-- What may happen with regard to space may happen on the library. -/
theorem may_loosely {A : Type} {routine : Routine A} {post : A → Volume → Prop}
    (run : may (spacious resolver) routine post volume) :
    may (libext2fs resolver True) routine post volume :=
  may_refines (spacious_refines resolver) run

/-- A call that fails is reported. -/
theorem may_translateError {err : Errcode} (bad : err ≠ 0) :
    may (spacious resolver) (translateError err) (fun ret volume' => ret ≠ 0 ∧ volume' = volume)
      volume :=
  may_mono (may_calm (translateError_only records_plain err) (wp_calm (translateError_quiet err)))
    fun _ _ quiet => ⟨quiet.2 bad, quiet.1⟩

/-- A name is added where it has space, or where it is given some. -/
theorem expanding_room (dir : Ino) (name : Name) (ino : Ino) (fileType : Nat) :
    wp (spacious resolver) (expanding dir (ext2fsLink dir name ino fileType))
      (fun code _ => code = 0 → volume.fits dir name = true ∨ volume.grows dir = true) volume := by
  rw [expanding, wp_bind]
  apply wp_spacious (.link dir name ino fileType)
  intro code volume₁ first
  obtain ⟨added, fits, _⟩ := first
  rw [wp_ite]
  refine ⟨fun full => ?_, fun _ fine => .inl (fits fine)⟩
  have same : volume₁ = volume := by
    rcases added with ⟨fine, _⟩ | ⟨_, same, _⟩
    · exact absurd (fine.symm.trans full) (by decide : (0 : Errcode) ≠ EXT2_ET_DIR_NO_SPACE)
    · exact same
  rw [same, wp_bind]
  apply wp_spacious (.expandDir dir)
  intro grown volume₂ expanded
  obtain ⟨held, grows, _⟩ := expanded
  rw [wp_ite]
  refine ⟨fun bad fine => absurd fine bad, fun fine => ?_⟩
  apply wp_spacious (.link dir name ino fileType)
  exact fun _ _ _ _ => .inr (grows (not_not.mp fine))

/-- A name may be added at each place of a directory that has space or can be given some. -/
theorem may_expanding_inserted {dir : Ino} {name : Name} {before after : List DirEntry}
    (directory : volume.isDir dir = true)
    (room : volume.fits dir name = true ∨ volume.grows dir = true)
    (split : volume.entries dir = before ++ after) (ino : Ino) (fileType : Nat) :
    may (spacious resolver) (expanding dir (ext2fsLink dir name ino fileType))
      (fun code volume' => code = 0 ∧ (volume.setEntries dir
        (before ++ { inode := ino, name := name, fileType := fileType } :: after)).Like volume')
      volume := by
  rw [expanding, may_bind]
  by_cases fits : volume.fits dir name = true
  · refine may_spacious (.link dir name ino fileType) (0 : Errcode)
      ⟨.inl ⟨rfl, directory, before, after, split, volume.fits, volume.grows, rfl⟩, fun _ => fits,
        trivial⟩ ?_
    rw [if_neg (by decide)]
    exact ⟨rfl, volume.fits, volume.grows, rfl⟩
  · have full : volume.fits dir name = false := Bool.eq_false_iff.mpr fits
    refine may_spacious (.link dir name ino fileType) EXT2_ET_DIR_NO_SPACE
      ⟨.inr ⟨(by decide : EXT2_ET_DIR_NO_SPACE ≠ 0), rfl, fun _ _ => ⟨rfl, full⟩⟩,
        fun fine => absurd fine (by decide : EXT2_ET_DIR_NO_SPACE ≠ 0), trivial⟩ ?_
    rw [if_pos rfl, may_bind]
    let grown : Volume := { volume with fits := fun _ _ => true }
    refine may_spacious (.expandDir dir) (0 : Errcode)
      ⟨.inl ⟨rfl, ⟨fun _ _ => true, volume.grows, rfl⟩, fun _ => rfl⟩,
        fun _ => room.resolve_left fits, trivial⟩ ?_
    rw [if_neg (by decide)]
    refine may_spacious (.link dir name ino fileType) (0 : Errcode)
      ⟨.inl ⟨rfl, directory, before, after, split, grown.fits, grown.grows, rfl⟩, fun _ => rfl,
        trivial⟩ ?_
    exact ⟨rfl, grown.fits, grown.grows, rfl⟩

/-- No name need be added to a file, or to a full directory. -/
theorem may_expanding_full {dir : Ino} {name : Name} (stuck : volume.isDir dir = true →
      volume.fits dir name = false ∧ volume.grows dir = false) (ino : Ino) (fileType : Nat) :
    may (spacious resolver) (expanding dir (ext2fsLink dir name ino fileType))
      (fun code volume' => code ≠ 0 ∧ volume' = volume) volume := by
  rw [expanding, may_bind]
  rcases directory : volume.isDir dir with _ | _
  · refine may_spacious (.link dir name ino fileType) EXT2_ET_NO_DIRECTORY
      ⟨.inr ⟨(by decide : EXT2_ET_NO_DIRECTORY ≠ 0), rfl, fun _ bad => ?_⟩,
        fun fine => absurd fine (by decide : EXT2_ET_NO_DIRECTORY ≠ 0), trivial⟩ ?_
    · exact absurd (directory.symm.trans bad) Bool.noConfusion
    · rw [if_neg (by decide)]
      exact ⟨by decide, rfl⟩
  · obtain ⟨full, fixed⟩ := stuck directory
    refine may_spacious (.link dir name ino fileType) EXT2_ET_DIR_NO_SPACE
      ⟨.inr ⟨(by decide : EXT2_ET_DIR_NO_SPACE ≠ 0), rfl, fun _ _ => ⟨rfl, full⟩⟩,
        fun fine => absurd fine (by decide : EXT2_ET_DIR_NO_SPACE ≠ 0), trivial⟩ ?_
    rw [if_pos rfl, may_bind]
    refine may_spacious (.expandDir dir) EXT2_ET_BLOCK_ALLOC_FAIL
      ⟨.inr ⟨(by decide : EXT2_ET_BLOCK_ALLOC_FAIL ≠ 0), rfl, fun _ _ => fixed⟩,
        fun fine => absurd fine (by decide : EXT2_ET_BLOCK_ALLOC_FAIL ≠ 0), trivial⟩ ?_
    rw [if_pos (by decide)]
    exact ⟨by decide, rfl⟩

/-- A name that is removed leaves its space. -/
theorem unlinkName_fits (dir : Ino) (name : Name) :
    wp (spacious resolver) (unlinkName dir name)
      (fun ret volume' => ret = 0 ∧ Erased volume dir name volume' ∧ volume'.fits dir name = true ∨
        ret ≠ 0 ∧ volume' = volume ∧ (volume.isDir dir = true → volume.find dir name = none))
      volume := by
  rw [unlinkName, wp_bind]
  apply wp_spacious (.unlink dir name)
  intro code volume₁ allowed
  obtain ⟨removed, _, settled⟩ := allowed
  rw [wp_ite]
  rcases removed with ⟨fine, directory, present, like⟩ | ⟨bad, same, missing⟩
  · refine ⟨fun bad => absurd fine bad, fun _ => ?_⟩
    rw [wp_bind]
    apply wp_mono (wp_calm (updateMtime_none dir))
    intro stamped volume₂ outcome
    rw [outcome.1]
    exact .inl ⟨outcome.2 trivial, ⟨directory, present, like⟩, settled fine⟩
  · refine ⟨fun _ => ?_, fun fine => absurd bad fine⟩
    apply wp_mono (wp_calm (translateError_quiet code))
    intro ret volume₂ quiet
    rw [quiet.1]
    exact .inr ⟨quiet.2 bad, same, missing trivial⟩

/-- `unlink_file_by_name` leaves space for the name that it removes. -/
theorem unlinkFileByName_fits {path before : Path} {name : Name}
    (split : strrchr path = some (before, name)) :
    wp (spacious resolver) (unlinkFileByName path)
      (fun ret volume' => (ret = 0 ∧ ∃ dir, resolver.walk volume before = .ok dir ∧
          Erased volume dir name volume' ∧ volume'.fits dir name = true) ∨
        ret ≠ 0 ∧ volume' = volume) volume := by
  rw [unlinkFileByName, split]
  dsimp only
  rw [wp_bind]
  apply wp_spacious (.namei before)
  intro answer volume₁ allowed
  obtain ⟨⟨same, resolved⟩, _⟩ := allowed
  rw [same, wp_ite]
  refine ⟨fun bad => ?_, fun fine => ?_⟩
  · apply wp_mono (wp_calm (translateError_quiet answer.1))
    exact fun ret volume₂ quiet => .inr ⟨quiet.2 bad, quiet.1⟩
  · have walked := (walk_of_resolved resolved (not_not.mp fine)).1
    apply wp_mono (unlinkName_fits answer.2 name)
    intro ret volume₂ removed
    rcases removed with ⟨zero, erased⟩ | ⟨bad, same, _⟩
    · exact .inl ⟨zero, answer.2, walked, erased⟩
    · exact .inr ⟨bad, same⟩

/-- `unlink_file_by_name` may remove what the last component names in its directory. -/
theorem may_unlinkFileByName {path : Path} {dir : Ino} {name : Name}
    (located : Located resolver volume path dir name) (nonzero : dir ≠ 0)
    (directory : volume.isDir dir = true) (present : (volume.find dir name).isSome = true) :
    may (spacious resolver) (unlinkFileByName path)
      (fun ret volume' => ret = 0 ∧ Erased volume dir name volume' ∧ volume'.fits dir name = true)
      volume := by
  have unlinked : may (spacious resolver) (unlinkName dir name)
      (fun ret volume' => ret = 0 ∧ Erased volume dir name volume' ∧ volume'.fits dir name = true)
      volume := by
    apply may_mono (may_calm (unlinkName_only records_plain (fun _ _ => rfl) dir name)
      (unlinkName_fits dir name))
    intro ret volume' removed
    rcases removed with erased | ⟨_, _, missing⟩
    · exact erased
    · rw [missing directory] at present
      cases present
  rw [unlinkFileByName]
  rcases split : strrchr path with _ | ⟨before, after⟩
  · obtain ⟨root, same⟩ := (located_none split).mp located
    rw [← root, ← same] at unlinked ⊢
    exact unlinked
  · obtain ⟨outer, same⟩ := (located_some split).mp located
    dsimp only
    rw [may_bind]
    have found : (spacious resolver).allows volume (.namei before) (0, dir) volume := by
      refine ⟨⟨rfl, ?_⟩, trivial, trivial⟩
      rw [outer]
      exact .inl ⟨rfl, rfl, nonzero⟩
    refine may_spacious (.namei before) (0, dir) found ?_
    dsimp only
    rw [if_neg (not_not.mpr rfl), same]
    exact unlinked

end NodeExt2fs.Library
