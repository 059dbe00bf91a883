import NodeExt2fs.Proof.Atomic.Emptied
import NodeExt2fs.Proof.Atomic.Renaming

/-!
This file shows that a rename that is not ready may leave a half-done move.
-/

namespace NodeExt2fs.Atomic
open Programs Structures Glue Library
open Program (wp wp_pure wp_mono may may_bind may_mono not_wp_of_may)

variable {resolver : Resolver} {volume volume' : Volume}

/-- The entries of a directory for one inode. -/
def refers (ino : Ino) (entries : List DirEntry) : Nat :=
  entries.countP fun entry => entry.inode = ino

/-- What is redirected to an inode refers to it all the more. -/
theorem refers_redirected (ino : Ino) (entries : List DirEntry) :
    refers ino entries ≤ refers ino ((DirProc.updateDotdotHelper ino).iterate entries).2 := by
  induction entries with
  | nil => exact Nat.le_refl _
  | cons entry rest ih =>
      rw [Trees.iterate_dotdot_cons]
      split
      · have more : refers ino ({ entry with inode := ino } :: rest) = refers ino rest + 1 :=
          List.countP_cons_of_pos (by simp)
        rw [more]
        show (entry :: rest).countP _ ≤ rest.countP _ + 1
        rw [List.countP_cons]
        apply Nat.add_le_add_left
        split
        · exact Nat.le_refl _
        · exact Nat.zero_le _
      · rw [refers, refers, List.countP_cons, List.countP_cons]
        exact Nat.add_le_add_right ih _

/-- The entry that goes with the target does not refer to the moved inode. -/
theorem gone_other {fromPath toPath : Path} {move : Move} {entry : DirEntry}
    (found : move.Found resolver volume fromPath toPath) (there : move.toIno ≠ 0)
    (replaces : move.Replaces resolver volume)
    (present : volume.find move.toDir move.toName = some entry) : entry.inode ≠ move.fromIno := by
  rcases found.targeted with ⟨none, _⟩ | ⟨_, walked, differ⟩
  · exact absurd none there
  · by_cases empty : move.toName = []
    · -- The target is the directory itself, which has no other inode under the empty name.
      have path : toPath = move.target ++ [slash] := by
        rw [(strrchr_eq_some found.toSplit).1, empty]
      rw [path, found.toParent] at walked
      have same : move.toDir = move.toIno := Except.ok.inj walked
      have special := replaces.empty (same ▸ replaces.directory) entry
        (same ▸ List.mem_of_find?_eq_some present)
      intro refers
      have named : entry.name = [] := (Trees.find_name present).trans empty
      rcases special (refers ▸ found.positive) with own | up
      · rw [named] at own
        cases own
      · rw [named] at up
        cases up
    · rw [Trees.lookup_of_walk found.toSplit empty found.toParent,
        Trees.lookup_of_find replaces.directory present] at walked
      rw [Except.ok.inj walked]
      exact differ

/-- Without the target, as many entries of its directory refer to the moved inode. -/
theorem refers_cleared {fromPath toPath : Path} {move : Move} {left : Ino → List DirEntry}
    (found : move.Found resolver volume fromPath toPath) (writes : move.Writes resolver volume)
    (stays : ¬(move.toDir = move.toIno ∧ move.Frees volume)) (clears : move.Clears volume left) :
    refers move.fromIno (left move.toDir) = refers move.fromIno (volume.entries move.toDir) := by
  rw [Move.Writes] at writes
  rw [Move.Clears] at clears
  by_cases none : move.toIno = 0
  · rw [if_pos none] at clears
    rw [clears]
  · rw [if_neg none] at clears writes
    obtain ⟨entry, present⟩ := Option.isSome_iff_exists.mp writes.present
    have erased : left move.toDir =
        (volume.entries move.toDir).eraseP fun entry => entry.name = move.toName := by
      have kept : left move.toDir = (volume.erased move.toDir move.toName).entries move.toDir := by
        by_cases apart : move.toDir = move.toIno
        · rw [clears.kept fun frees => stays ⟨apart, frees⟩]
        · exact clears.others _ apart
      rw [kept, erased_here]
    have counted := (Trees.eraseP_perm present).countP_eq fun entry => entry.inode = move.fromIno
    have other := gone_other found none writes present
    rw [List.countP_append, List.countP_singleton, if_neg (by simpa using other)] at counted
    rw [erased]
    exact counted

/-- A move that was begun shows in the entries. -/
theorem moves_changed {fromPath toPath : Path} {move : Move} {entries : Ino → List DirEntry}
    (found : move.Found resolver volume fromPath toPath) (writes : move.Writes resolver volume)
    (stays : ¬(move.toDir = move.toIno ∧ move.Frees volume)) (moves : move.Moves volume entries) :
    entries ≠ volume.entries := by
  obtain ⟨left, before, after, clears, split, result⟩ := moves
  intro same
  have cleared := refers_cleared found writes stays clears
  have inserted : refers move.fromIno (before ++ move.entry volume :: after) =
      refers move.fromIno (left move.toDir) + 1 := by
    rw [split, refers, refers, List.countP_append, List.countP_append,
      List.countP_cons_of_pos (by simp [Move.entry]), Nat.add_assoc]
  have grown : refers move.fromIno (before ++ move.entry volume :: after) ≤
      refers move.fromIno (entries move.toDir) := by
    rw [result, Move.redirects]
    split
    · by_cases here : move.toDir = move.fromIno
      · rw [here, Function.update_self, Function.update_self]
        exact refers_redirected move.fromIno _
      · rw [Function.update_of_ne here, Function.update_self]
    · rw [Function.update_self]
  rw [same, inserted, cleared] at grown
  exact absurd grown (Nat.not_succ_le_self _)

/-- The old name is not found once more. -/
theorem may_unlinkFileByName_lost {path before : Path} {name : Name}
    (split : strrchr path = some (before, name)) (lost : Lost resolver volume before name) :
    may (spacious resolver) (unlinkFileByName path) (fun ret volume' => ret ≠ 0 ∧ volume' = volume)
      volume := by
  rw [unlinkFileByName, split]
  dsimp only
  rw [may_bind]
  by_cases fails : LookupFails (resolver.walk volume before)
  · obtain ⟨answer, resolved, bad⟩ := lookupFails_answer fails
    refine may_spacious (.namei before) answer ⟨⟨rfl, resolved⟩, trivial, trivial⟩ ?_
    rw [if_pos bad]
    exact may_translateError bad
  · obtain ⟨dir, walked, missing⟩ := lost.resolve_left fails
    have found : (spacious resolver).allows volume (.namei before) (0, dir) volume := by
      refine ⟨⟨rfl, ?_⟩, trivial, trivial⟩
      rw [walked] at fails ⊢
      exact .inl ⟨rfl, rfl, fails⟩
    refine may_spacious (.namei before) (0, dir) found ?_
    dsimp only
    rw [if_neg (not_not.mpr rfl)]
    apply may_mono (may_calm (unlinkName_only records_plain (fun _ _ => rfl) dir name)
      (unlinkName_fits dir name))
    intro ret volume' removed
    rcases removed with ⟨_, ⟨directory, present, _⟩, _⟩ | ⟨bad, same, _⟩
    · rw [missing directory] at present
      cases present
    · exact ⟨bad, same⟩

/-- "Remove the old file" fails after all that was done. -/
theorem may_renameFinish_lost {fromIno toDir : Ino} {path before : Path} {name : Name}
    (split : strrchr path = some (before, name)) (lost : Lost resolver volume before name) :
    may (spacious resolver) (renameFinish fromIno toDir path)
      (fun ret volume' => ret ≠ 0 ∧ volume' = volume) volume := by
  rw [renameFinish, may_bind]
  apply may_mono (may_calm (updateCtime_only records_plain fromIno none)
    (wp_calm (updateCtime_none fromIno)))
  intro stamped volume₁ outcome
  obtain ⟨same, fine⟩ := outcome
  dsimp only
  rw [same, if_neg (not_not.mpr (fine trivial)), may_bind]
  apply may_mono (may_calm (updateMtime_only records_plain toDir none)
    (wp_calm (updateMtime_none toDir)))
  intro touched volume₂ outcome
  obtain ⟨same, fine⟩ := outcome
  rw [same, if_neg (not_not.mpr (fine trivial)), may_bind]
  apply may_mono (may_unlinkFileByName_lost split lost)
  intro ret volume₃ outcome
  rw [if_pos outcome.1]
  exact outcome

/-- The inode that is read has the type of the new entry. -/
theorem may_renameMove {move : Move} {fromPath : Path} {post : Int → Volume → Prop}
    (cleared : move.Cleared volume volume')
    (adds : may (spacious resolver)
      (expanding move.toDir (ext2fsLink move.toDir move.toName move.fromIno (move.entry volume).fileType))
      (fun code volume'' => (code ≠ 0 → ∀ ret, ret ≠ 0 → post ret volume'') ∧
        (code = 0 → may (spacious resolver) (renameFinish move.fromIno move.toDir fromPath) post
          (move.moved volume''))) volume') :
    may (spacious resolver) (renameMove move.fromIno move.fromDir move.toDir move.toName fromPath) post
      volume' := by
  rw [renameMove, may_bind]
  refine may_spacious (.readInode move.fromIno) (0, volume'.inode move.fromIno)
    ⟨⟨rfl, fun _ => ⟨rfl, rfl⟩, fun _ => rfl⟩, trivial, trivial⟩ ?_
  have fileType : ext2FileType (volume'.inode move.fromIno).iMode = (move.entry volume).fileType :=
    congrArg (fun mode => ext2FileType (mode move.fromIno)) cleared.mode
  dsimp only
  rw [if_neg (not_not.mpr rfl), may_bind, fileType]
  apply may_mono adds
  intro code volume'' outcome
  by_cases fine : code = 0
  · rw [if_neg (not_not.mpr fine), may_bind]
    apply may_mono (may_calm (renameDotdot_only records_plain (fun _ _ => rfl) move.fromIno move.fromDir
      move.toDir) (wp_calm (Trees.renameDotdot_redirected trivial _ _ _)))
    intro ret volume₃ redirected
    rw [if_neg (not_not.mpr redirected.1), redirected.2]
    exact outcome.2 fine
  · rw [if_pos fine]
    apply may_mono (may_translateError fine)
    intro ret volume₃ failed
    rw [failed.2]
    exact outcome.1 fine ret failed.1

/-- A move whose old name is lost fails after its changes. -/
theorem may_renameMove_lost {move : Move} {fromPath toPath : Path} {before after : List DirEntry}
    (found : move.Found resolver volume fromPath toPath) (cleared : move.Cleared volume volume')
    (directory : volume'.isDir move.toDir = true)
    (room : volume'.fits move.toDir move.toName = true ∨ volume'.grows move.toDir = true)
    (split : volume'.entries move.toDir = before ++ after)
    (lost : Lost resolver { volume with entries := move.redirects volume (Function.update
      volume'.entries move.toDir (before ++ move.entry volume :: after)) } move.source move.fromName) :
    may (spacious resolver) (renameMove move.fromIno move.fromDir move.toDir move.toName fromPath)
      (fun ret volume'' => ret ≠ 0 ∧ volume''.entries = move.redirects volume (Function.update
        volume'.entries move.toDir (before ++ move.entry volume :: after))) volume' := by
  apply may_renameMove cleared
  apply may_mono (may_expanding_inserted directory room split move.fromIno
    (move.entry volume).fileType)
  intro code volume'' inserted
  refine ⟨fun bad => absurd inserted.1 bad, fun _ => ?_⟩
  obtain ⟨entries, mode, target⟩ := moved_linked cleared inserted.2
  rw [← entries, lost_same mode target] at lost
  apply may_mono (may_renameFinish_lost found.fromSplit lost)
  intro ret volume₃ failed
  rw [failed.2]
  exact ⟨failed.1, entries⟩

/-- A move into a directory that was freed with the target fails. -/
theorem may_renameMove_stuck {move : Move} {fromPath : Path} (cleared : move.Cleared volume volume')
    (stuck : Stuck volume' move.toDir) :
    may (spacious resolver) (renameMove move.fromIno move.fromDir move.toDir move.toName fromPath)
      (fun ret volume'' => ret ≠ 0 ∧ volume'' = volume') volume' := by
  apply may_renameMove cleared
  apply may_mono (may_expanding_full (fun _ => ⟨stuck.1 move.toName, stuck.2⟩) move.fromIno
    (move.entry volume).fileType)
  intro code volume'' failed
  rw [failed.2]
  exact ⟨fun _ ret bad => ⟨bad, rfl⟩, fun fine => absurd fine failed.1⟩

theorem may_renameParent {path before : Path} {name : Name} {dir : Ino}
    (split : strrchr path = some (before, name))
    (parent : resolver.walk volume (before ++ [slash]) = .ok dir) (positive : dir ≠ 0) :
    may (spacious resolver) (renameParent path)
      (fun result volume' => result = .ok (dir, name) ∧ volume' = volume) volume := by
  rw [renameParent, split]
  dsimp only
  rw [may_bind]
  have found : (spacious resolver).allows volume (.namei (before ++ [slash])) (0, dir) volume := by
    refine ⟨⟨rfl, ?_⟩, trivial, trivial⟩
    rw [parent]
    exact .inl ⟨rfl, rfl, positive⟩
  refine may_spacious (.namei (before ++ [slash])) (0, dir) found ?_
  dsimp only
  rw [if_neg (not_not.mpr rfl), if_neg positive]
  exact ⟨rfl, rfl⟩

/-- The lookup of the target has an answer for the move. -/
theorem target_answer {fromPath toPath : Path} {move : Move}
    (found : move.Found resolver volume fromPath toPath) :
    ∃ answer : Errcode × Ino, Resolved True (resolver.walk volume toPath) answer ∧
      ¬(answer.1 ≠ 0 ∧ answer.1 ≠ EXT2_ET_FILE_NOT_FOUND) ∧
      (if answer.1 = EXT2_ET_FILE_NOT_FOUND then 0 else answer.2) = move.toIno ∧
      move.toIno ≠ move.fromIno := by
  rcases found.targeted with ⟨none, missing⟩ | ⟨there, walked, differ⟩
  · rw [missing, none]
    refine ⟨(EXT2_ET_FILE_NOT_FOUND, 0), ⟨by decide, .inl rfl⟩, fun both => both.2 rfl, if_pos rfl, ?_⟩
    exact found.positive.symm
  · rw [walked]
    exact ⟨(0, move.toIno), .inl ⟨rfl, rfl, there⟩, fun both => both.1 rfl,
      if_neg (by decide : (0 : Errcode) ≠ EXT2_ET_FILE_NOT_FOUND), differ⟩

/-- The call comes to the move that the lookups find. -/
theorem may_nodeExt2fsRename {fromPath toPath : Path} {move : Move} {post : Int → Volume → Prop}
    (found : move.Found resolver volume fromPath toPath)
    (moves : may (spacious resolver) (renameTarget move.toIno toPath)
      (fun ret volume' => ret = 0 ∧ may (spacious resolver)
        (renameMove move.fromIno move.fromDir move.toDir move.toName fromPath) post volume') volume) :
    may (spacious resolver) (nodeExt2fsRename fromPath toPath) post volume := by
  have source : (spacious resolver).allows volume (.namei fromPath) (0, move.fromIno) volume := by
    refine ⟨⟨rfl, ?_⟩, trivial, trivial⟩
    rw [found.walked]
    exact .inl ⟨rfl, rfl, found.positive⟩
  obtain ⟨answer, resolved, known, target, differ⟩ := target_answer found
  rw [nodeExt2fsRename, may_bind]
  refine may_spacious (.namei fromPath) (0, move.fromIno) source ?_
  dsimp only
  rw [if_neg (not_or.mpr ⟨not_not.mpr rfl, found.positive⟩), may_bind]
  refine may_spacious (.namei toPath) answer ⟨⟨rfl, resolved⟩, trivial, trivial⟩ ?_
  rw [if_neg known, target, if_neg fun both => differ both.2, may_bind]
  refine may_spacious .strdup true ⟨rfl, trivial, trivial⟩ ?_
  rw [if_neg (by decide), may_bind]
  refine may_spacious .strdup true ⟨rfl, trivial, trivial⟩ ?_
  rw [if_neg (by decide), renameBetween, may_bind]
  apply may_mono (may_renameParent found.fromSplit found.fromParent found.fromDir)
  intro result volume₁ outcome
  rw [outcome.1, outcome.2]
  dsimp only
  rw [may_bind]
  apply may_mono (may_renameParent found.toSplit found.toParent found.toDir)
  intro result volume₂ outcome
  rw [outcome.1, outcome.2]
  dsimp only
  rw [may_bind]
  apply may_mono moves
  intro ret volume₃ outcome
  rw [if_neg (not_not.mpr outcome.1)]
  exact outcome.2

/-- A target that is freed with the directory of the new name is gone when the move fails. -/
theorem refutes_freed {fromPath toPath : Path} {move : Move}
    (found : move.Found resolver volume fromPath toPath) (replaces : move.Replaces resolver volume)
    (same : move.toDir = move.toIno) (frees : move.Frees volume) :
    may (spacious resolver) (nodeExt2fsRename fromPath toPath)
      (fun ret volume' => ¬Unchanged volume ret volume') volume := by
  have there : move.toIno ≠ 0 := same ▸ found.toDir
  have walked : resolver.walk volume toPath = .ok move.toIno := by
    rcases found.targeted with ⟨none, _⟩ | ⟨_, walked, _⟩
    · exact absurd none there
    · exact walked
  have leaves : move.Leaves volume (volume.erased move.toDir move.toName).entries :=
    ⟨fun _ _ => rfl, .refl _, fun _ => rfl⟩
  apply may_nodeExt2fsRename found
  apply may_mono (may_renameTarget found.toSplit walked there found.toDir replaces leaves)
  intro ret volume₁ outcome
  obtain ⟨zero, replaced, entries, stuck⟩ := outcome
  refine ⟨zero, ?_⟩
  apply may_mono (may_renameMove_stuck (cleared_replaced there replaced) (same ▸ stuck frees))
  intro ret' volume₂ failed unchanged
  have kept := (unchanged failed.1).1
  rw [failed.2, entries] at kept
  obtain ⟨entry, present⟩ := Option.isSome_iff_exists.mp replaces.present
  have shorter := (Trees.eraseP_perm present).length_eq
  have erased := (erased_here volume move.toDir move.toName).symm.trans (congrFun kept move.toDir)
  rw [erased, List.length_append] at shorter
  exact absurd shorter (Nat.succ_ne_self _)

/-- A target that is gone, and a new name, stay when the old name is lost. -/
theorem refutes_lost {fromPath toPath : Path} {move : Move} {entries : Ino → List DirEntry}
    (found : move.Found resolver volume fromPath toPath) (writes : move.Writes resolver volume)
    (stays : ¬(move.toDir = move.toIno ∧ move.Frees volume)) (moves : move.Moves volume entries)
    (lost : Lost resolver { volume with entries := entries } move.source move.fromName) :
    may (spacious resolver) (nodeExt2fsRename fromPath toPath)
      (fun ret volume' => ¬Unchanged volume ret volume') volume := by
  have changed := moves_changed found writes stays moves
  have refutes (ret : Int) (volume' : Volume) (outcome : ret ≠ 0 ∧ volume'.entries = entries) :
      ¬Unchanged volume ret volume' := by
    intro unchanged
    exact changed (outcome.2.symm.trans (unchanged outcome.1).1)
  obtain ⟨left, before, after, clears, split, result⟩ := moves
  rw [Move.Writes] at writes
  rw [Move.Clears] at clears
  rw [result] at lost refutes
  apply may_nodeExt2fsRename found
  by_cases none : move.toIno = 0
  · rw [if_pos none] at writes clears
    rw [clears] at split lost refutes
    rw [renameTarget, if_neg (not_not_intro none)]
    refine ⟨rfl, ?_⟩
    exact may_mono (may_renameMove_lost found (cleared_none none) writes.1 writes.2 split lost) refutes
  · rw [if_neg none] at writes clears
    have walked : resolver.walk volume toPath = .ok move.toIno := by
      rcases found.targeted with ⟨missing, _⟩ | ⟨_, walked, _⟩
      · exact absurd missing none
      · exact walked
    apply may_mono (may_renameTarget found.toSplit walked none found.toDir writes clears)
    intro ret volume' outcome
    obtain ⟨zero, replaced, same, _⟩ := outcome
    have cleared := cleared_replaced none replaced
    rw [← same] at split lost refutes
    refine ⟨zero, ?_⟩
    exact may_mono (may_renameMove_lost found cleared (cleared.isDir ▸ writes.directory)
      (.inl (cleared.fits none stays)) split lost) refutes

/-- A rename that fails has changed nothing, exactly when each move that it may come to keeps the
directory of the new name and still finds the old name. -/
theorem renameUnchanged_iff (resolver : Resolver) (volume : Volume) (fromPath toPath : Path) :
    wp (spacious resolver) (nodeExt2fsRename fromPath toPath) (Unchanged volume) volume ↔
      RenameReady resolver volume fromPath toPath := by
  constructor
  · intro unchanged move found writes
    have stays : ¬(move.toDir = move.toIno ∧ move.Frees volume) := by
      intro both
      have there : move.toIno ≠ 0 := both.1 ▸ found.toDir
      have replaces := writes
      rw [Move.Writes, if_neg there] at replaces
      exact absurd unchanged (not_wp_of_may (refutes_freed found replaces both.1 both.2))
    refine ⟨stays, fun entries moves lost => ?_⟩
    exact absurd unchanged (not_wp_of_may (refutes_lost found writes stays moves lost))
  · exact nodeExt2fsRename_unchanged

/-- The file `/a` goes to the place of the empty directory `/d` by the path `/d/../a`, which the
directory is part of. -/
theorem rename_over_own_path :
    ((nodeExt2fsRename [slash, 0x64, slash, 0x2e, 0x2e, slash, 0x61] [slash, 0x64]).run reference
      Trees.holdingDirectory).1 ≠ 0 ∧
    ¬Unchanged Trees.holdingDirectory
      ((nodeExt2fsRename [slash, 0x64, slash, 0x2e, 0x2e, slash, 0x61] [slash, 0x64]).run reference
        Trees.holdingDirectory).1
      ((nodeExt2fsRename [slash, 0x64, slash, 0x2e, 0x2e, slash, 0x61] [slash, 0x64]).run reference
        Trees.holdingDirectory).2 := by
  refine ⟨by decide, fun unchanged => ?_⟩
  have kept := congrFun (unchanged (by decide)).1 EXT2_ROOT_INO
  exact absurd kept (by decide)

end NodeExt2fs.Atomic
