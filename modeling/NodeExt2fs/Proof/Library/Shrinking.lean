import NodeExt2fs.Construction.Library.Contract
import NodeExt2fs.Proof.Library.Requests

/-!
This file finds the calls that add no name to any directory.
-/

namespace NodeExt2fs.Library
open Programs Glue
open Program (Only wp wp_of_only only_bind only_ite only_perform)

namespace Volume

def names (volume : Volume) (dir : Ino) : List Name := (volume.entries dir).map DirEntry.name

/-- Names may go from directories, and none comes. -/
def Shrinks (volume volume' : Volume) : Prop :=
  ∀ dir, (volume'.names dir).Sublist (volume.names dir)

theorem Shrinks.refl (volume : Volume) : volume.Shrinks volume := fun _ => List.Sublist.refl _

theorem Shrinks.trans (first second third : Volume) (before : first.Shrinks second)
    (after : second.Shrinks third) : first.Shrinks third :=
  fun dir => (after dir).trans (before dir)

theorem Shrinks.of_entries {volume volume' : Volume} (same : volume'.entries = volume.entries) :
    volume.Shrinks volume' := by
  intro dir
  rw [names, names, same]

theorem Like.entries {volume volume' : Volume} (like : volume.Like volume') :
    volume'.entries = volume.entries := by
  obtain ⟨fits, grows, same⟩ := like
  rw [same]

theorem Like.names {volume volume' : Volume} (like : volume.Like volume') (dir : Ino) :
    volume'.names dir = volume.names dir := by
  rw [Volume.names, Volume.names, like.entries]

theorem names_setEntries (volume : Volume) (dir : Ino) (entries : List DirEntry) :
    (volume.setEntries dir entries).names dir = entries.map DirEntry.name := by
  simp only [names, setEntries, Function.update_self]

/-- One directory has lost names. -/
theorem Shrinks.of_update {volume volume' : Volume} {dir : Ino} {entries : List DirEntry}
    (same : volume'.entries = Function.update volume.entries dir entries)
    (fewer : (entries.map DirEntry.name).Sublist (volume.names dir)) : volume.Shrinks volume' := by
  intro dir'
  rw [names, same]
  by_cases here : dir' = dir
  · rw [here, Function.update_self]
    exact fewer
  · rw [Function.update_of_ne here]
    exact List.Sublist.refl _

end Volume

/-- The calls that add no name, and write to no file. -/
def shrinking : Call → Bool
  | .link _ _ _ _ | .mkdir _ _ _ | .symlink _ _ _ | .fileWrite _ _ _ | .fileFlush _
  | .fileClose _ => false
  | _ => true

theorem only_shrinking (call : Call) (listed : shrinking call = true) :
    call.perform.Only fun call => shrinking call = true :=
  (only_perform call).mpr listed

/-- A callback changes no names. -/
theorem iterate_names (proc : DirProc) (entries : List DirEntry) :
    (proc.iterate entries).2.map DirEntry.name = entries.map DirEntry.name := by
  have visited (entry : DirEntry) : (proc.visit entry).1.name = entry.name := by
    cases proc with
    | updateDotdotHelper newDotdot =>
        unfold DirProc.visit Glue.updateDotdotHelper
        by_cases up : entry.name = dotdot
        · simp only [if_pos up]
        · simp only [if_neg up]
    | copyFilenameToResult => rfl
    | rmdirProc => rfl
  induction entries with
  | nil => rfl
  | cons entry rest ih =>
      have stored (changed : Prop) [Decidable changed] :
          (if changed then (proc.visit entry).1 else entry).name = entry.name := by
        by_cases change : changed
        · rw [if_pos change]
          exact visited entry
        · rw [if_neg change]
      unfold DirProc.iterate
      by_cases abort : (proc.visit entry).2 &&& DIRENT_ABORT ≠ 0
      · simp only [if_pos abort, List.map_cons, stored]
      · simp only [if_neg abort, List.map_cons, stored, ih]

/-- `rmdir_proc` changes no entry and sees them all. -/
theorem iterate_rmdirProc (entries : List DirEntry) :
    DirProc.rmdirProc.iterate entries = (entries, entries) := by
  induction entries with
  | nil => rfl
  | cons entry rest ih =>
      unfold DirProc.iterate
      rw [ih]
      rfl

theorem Volume.setEntries_self (volume : Volume) (dir : Ino) :
    volume.setEntries dir (volume.entries dir) = volume := by
  rw [setEntries, Function.update_eq_self]

theorem Volume.setContent_self (volume : Volume) (ino : Ino) :
    volume.setContent ino (volume.entries ino) (volume.target ino) = volume := by
  rw [setContent, setEntries_self, Function.update_eq_self]

/-- The iteration of `rmdir` leaves the volume alone. -/
theorem rmdirProc_effect {resolver : Resolver} {steady : Prop} {volume volume' : Volume} {ino : Ino}
    {answer : Errcode × List DirEntry}
    (allowed : effect resolver steady volume (.dirIterate ino .rmdirProc) answer volume') :
    volume' = volume ∧ (answer.1 = 0 → volume.isDir ino = true ∧ answer.2 = volume.entries ino) := by
  have same : volume.setEntries ino (DirProc.rmdirProc.iterate (volume.entries ino)).2 = volume := by
    rw [iterate_rmdirProc]
    exact volume.setEntries_self ino
  rcases allowed with ⟨_, isDir, visited, after⟩ | ⟨bad, _, after | ⟨_, after⟩⟩
  · rw [iterate_rmdirProc] at visited
    exact ⟨after.trans same, fun _ => ⟨isDir, visited⟩⟩
  · exact ⟨after, fun fine => absurd fine bad⟩
  · exact ⟨after.trans same, fun fine => absurd fine bad⟩

/-- A written file loses at most entries. -/
theorem FileWritten.shrinks {volume volume' : Volume} {file : Ptr}
    (written : FileWritten volume file (fun entries entries' => entries'.Sublist entries) volume') :
    volume.Shrinks volume' := by
  unfold FileWritten at written
  rcases here : volume.files file with _ | handle
  · simp only [here] at written
    exact .of_entries (by rw [written])
  · simp only [here] at written
    obtain ⟨entries, target, fewer, _, _, like | like⟩ := written
    · exact .of_update like.entries (fewer.map _)
    · exact .of_update like.entries (fewer.map _)

theorem shrinks_of_effect {resolver : Resolver} {steady : Prop} {volume volume' : Volume} {call : Call}
    {answer : Answer call} (listed : shrinking call = true)
    (allowed : effect resolver steady volume call answer volume') : volume.Shrinks volume' := by
  have kept (same : volume' = volume) : volume.Shrinks volume' := .of_entries (by rw [same])
  have wrote {ino : Ino} {inode : Inode} {code : Errcode}
      (written : WrittenTo steady volume ino inode code volume') : volume.Shrinks volume' := by
    rcases written with ⟨_, same⟩ | ⟨_, _, same | same⟩
    · exact .of_entries (by rw [same]; rfl)
    · exact kept same
    · exact .of_entries (by rw [same]; rfl)
  cases call with
  | link => cases listed
  | mkdir => cases listed
  | symlink => cases listed
  | fileWrite => cases listed
  | fileFlush => cases listed
  | fileClose => cases listed
  | unlink dir name =>
      rcases allowed with ⟨_, _, _, like⟩ | ⟨_, same, _⟩
      · exact .of_update like.entries (List.eraseP_sublist.map _)
      · exact kept same
  | expandDir dir =>
      rcases allowed with ⟨_, like, _⟩ | ⟨_, same, _⟩
      · exact .of_entries like.entries
      · exact kept same
  | dirIterate ino proc =>
      have iterated (same : volume' = volume.setEntries ino (proc.iterate (volume.entries ino)).2) :
          volume.Shrinks volume' := by
        refine .of_update (by rw [same]; rfl) ?_
        rw [iterate_names]
        exact List.Sublist.refl _
      rcases allowed with ⟨_, _, _, same⟩ | ⟨_, _, same | ⟨_, same⟩⟩
      · exact iterated same
      · exact kept same
      · exact iterated same
  | inodeAllocStats ino inuse isdir =>
      refine .of_entries ?_
      rw [show volume' = _ from allowed]
      unfold Volume.allocStats
      by_cases freed : inuse < 0
      · rw [if_pos freed]
        rfl
      · rw [if_neg freed]
  | writeNewInode => exact wrote allowed
  | writeInode => exact wrote allowed
  | writeInodeFull => exact wrote allowed
  | freeExtAttr ino inode =>
      rcases allowed.2.2 with same | same
      · exact kept same
      · exact .of_entries (by rw [same]; rfl)
  | punch ino inode =>
      obtain ⟨_, _, entries, fewer, like | like⟩ := allowed
      · exact .of_update like.entries (fewer.map _)
      · exact .of_update like.entries (fewer.map _)
  | fileOpen ino flags =>
      rcases allowed with ⟨_, _, _, same⟩ | ⟨_, same⟩
      · exact .of_entries (by rw [same]; rfl)
      · exact kept same
  | fileSetSize file size =>
      obtain ⟨files, _, _, written⟩ := allowed.written
      exact written.shrinks
  | storeFileInode file inode => exact .of_entries (by rw [show volume' = _ from allowed]; rfl)
  | _ => first | exact kept allowed | exact kept allowed.1

/-- A routine that makes only such calls adds no name. -/
theorem wp_shrinks {resolver : Resolver} {steady : Prop} {A : Type} {routine : Routine A}
    (only : routine.Only fun call => shrinking call = true) (volume : Volume) :
    wp (libext2fs resolver steady) routine (fun _ volume' => volume.Shrinks volume') volume :=
  wp_of_only Volume.Shrinks.refl Volume.Shrinks.trans
    (fun _ _ listed => ⟨trivial, fun _ _ allowed => shrinks_of_effect listed allowed⟩) only volume

end NodeExt2fs.Library
