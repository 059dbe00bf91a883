import NodeExt2fs.Proof.Library.Effects
import NodeExt2fs.Proof.Library.Requests
import NodeExt2fs.Proof.Library.Shrinking

/-!
This file follows the inodes of open files through the operations.
-/

namespace NodeExt2fs.Sessions
open Programs Glue Library
open Program (wp wp_pure wp_bind wp_ite wp_mono wp_of_only Only only_bind only_ite only_perform)

/-- An open file whose inode was neither freed nor punched. -/
def Whole (volume : Volume) (handle : Handle) : Prop :=
  handle.intact = true ∧ (handle.wasInUse = true → volume.inUse handle.ino = true)

/-- The calls that neither free nor punch a spared inode, apart from those of `open`. -/
def sparing (spared : Ino → Prop) : Call → Prop
  | .fileOpen _ _ | .fileSetSize _ _ => False
  | .punch ino _ => ¬spared ino
  | .inodeAllocStats ino inuse _ => 0 < inuse ∨ ¬spared ino
  | _ => True

/-- A spared inode stays in use, and a file of a spared inode is as whole as it was. -/
structure Spares (spared : Ino → Prop) (volume volume' : Volume) : Prop where
  inUse : ∀ ino, spared ino → volume.inUse ino = true → volume'.inUse ino = true
  files : ∀ file handle', volume'.files file = some handle' →
    ∃ handle, volume.files file = some handle ∧ handle'.ino = handle.ino ∧
      handle'.wasInUse = handle.wasInUse ∧ (spared handle.ino → handle'.intact = handle.intact)

variable {spared : Ino → Prop} {volume volume' : Volume}

/-- The same files, and no inode freed. -/
theorem Spares.of_files (files : volume'.files = volume.files)
    (inUse : ∀ ino, spared ino → volume.inUse ino = true → volume'.inUse ino = true) :
    Spares spared volume volume' := by
  refine ⟨inUse, ?_⟩
  intro file handle' found
  rw [files] at found
  exact ⟨handle', found, rfl, rfl, fun _ => rfl⟩

theorem Spares.refl (volume : Volume) : Spares spared volume volume :=
  .of_files rfl fun _ _ used => used

theorem Spares.trans (first second third : Volume) (before : Spares spared first second)
    (after : Spares spared second third) : Spares spared first third := by
  refine ⟨fun ino kept used => after.inUse ino kept (before.inUse ino kept used), ?_⟩
  intro file handle'' found
  obtain ⟨handle', found', ino', was', intact'⟩ := after.files file handle'' found
  obtain ⟨handle, found, ino, was, intact⟩ := before.files file handle' found'
  refine ⟨handle, found, ino'.trans ino, was'.trans was, ?_⟩
  intro kept
  exact (intact' (ino ▸ kept)).trans (intact kept)

/-- A file of a spared inode stays whole. -/
theorem Spares.whole (spares : Spares spared volume volume') {file : Ptr} {handle' : Handle}
    (found : volume'.files file = some handle')
    (safe : ∀ handle, volume.files file = some handle → spared handle.ino ∧ Whole volume handle) :
    Whole volume' handle' := by
  obtain ⟨handle, before, ino, was, intact⟩ := spares.files file handle' found
  obtain ⟨kept, unbroken, used⟩ := safe handle before
  refine ⟨(intact kept).trans unbroken, ?_⟩
  intro wasInUse
  rw [ino]
  exact spares.inUse handle.ino kept (used (was ▸ wasInUse))

theorem Spares.of_like (like : volume.Like volume') : Spares spared volume volume' := by
  obtain ⟨fits, grows, same⟩ := like
  rw [same]
  exact .of_files rfl fun _ _ used => used

/-- An inode comes into use. -/
theorem used_update {inUse : Ino → Bool} {ino other : Ino} {value : Bool}
    (kept : other = ino → value = true) (used : inUse other = true) :
    Function.update inUse ino value other = true := by
  by_cases same : other = ino
  · rw [same, Function.update_self]
    exact kept same
  · rw [Function.update_of_ne same]
    exact used

/-- Only the files of one inode are broken. -/
theorem Spares.of_break {ino : Ino} (apart : ¬spared ino)
    (files : volume'.files = (volume.breakHandles ino).files)
    (inUse : ∀ other, other ≠ ino → volume'.inUse other = volume.inUse other) :
    Spares spared volume volume' := by
  have other {kept : Ino} (isSpared : spared kept) : kept ≠ ino := by
    intro same
    rw [same] at isSpared
    exact apart isSpared
  refine ⟨fun kept isSpared used => (inUse kept (other isSpared)).trans used, ?_⟩
  intro file handle' found
  rw [files] at found
  obtain ⟨handle, before, broken⟩ := Option.map_eq_some_iff.mp found
  refine ⟨handle, before, ?_⟩
  by_cases same : handle.ino = ino
  · rw [if_pos same] at broken
    rw [← broken]
    exact ⟨rfl, rfl, fun kept => absurd same (other kept)⟩
  · rw [if_neg same] at broken
    rw [broken]
    exact ⟨rfl, rfl, fun _ => rfl⟩

theorem Spares.of_allocStats {ino : Ino} {inuse : Int} (listed : 0 < inuse ∨ ¬spared ino) :
    Spares spared volume (volume.allocStats ino inuse) := by
  rw [Volume.allocStats]
  rcases listed with more | apart
  · rw [if_neg (not_lt_of_gt more)]
    refine .of_files rfl ?_
    intro kept _ used
    exact used_update (fun _ => decide_eq_true more) used
  · by_cases freed : inuse < 0
    · rw [if_pos freed]
      refine .of_break apart rfl ?_
      intro kept different
      exact Function.update_of_ne different _ _
    · rw [if_neg freed]
      refine .of_files rfl ?_
      intro kept isSpared used
      refine used_update (fun same => ?_) used
      rw [same] at isSpared
      exact absurd isSpared apart

theorem Spares.of_setFile {file : Ptr} {handle : Option Handle}
    (kept : ∀ handle', handle = some handle' → ∃ before, volume.files file = some before ∧
      handle'.ino = before.ino ∧ handle'.wasInUse = before.wasInUse ∧
      handle'.intact = before.intact) :
    Spares spared volume (volume.setFile file handle) := by
  refine ⟨fun _ _ used => used, ?_⟩
  intro file' handle' found
  by_cases same : file' = file
  · rw [same] at found ⊢
    simp only [Volume.setFile, Function.update_self] at found
    obtain ⟨before, opened, ino, was, intact⟩ := kept handle' found
    exact ⟨before, opened, ino, was, fun _ => intact⟩
  · simp only [Volume.setFile, Function.update_of_ne same] at found
    exact ⟨handle', found, rfl, rfl, fun _ => rfl⟩

theorem Spares.of_fileWritten {file : Ptr} {changes : List DirEntry → List DirEntry → Prop}
    (written : FileWritten volume file changes volume') : Spares spared volume volume' := by
  rw [FileWritten] at written
  cases opened : volume.files file with
  | none =>
      rw [opened] at written
      rw [show volume' = _ from written]
      exact .refl volume
  | some handle =>
      rw [opened] at written
      obtain ⟨entries, target, _, _, _, ⟨fits, grows, same⟩ | ⟨fits, grows, same⟩⟩ := written
      · rw [same]
        exact .of_files rfl fun _ _ used => used
      · rw [same]
        exact .of_files rfl fun _ _ used => used

/-- A new size breaks no file of another inode, and not the file itself. -/
theorem whole_of_resized {file other : Ptr} {handle handle' : Handle}
    (opened : volume.files file = some handle) (resized : FileResized volume file volume')
    (found : volume'.files other = some handle')
    (safe : ∀ before, volume.files other = some before →
      Whole volume before ∧ (other = file ∨ before.ino ≠ handle.ino)) : Whole volume' handle' := by
  obtain ⟨between, kind, written⟩ := resized
  have spares : Spares (fun _ => True) between volume' := .of_fileWritten written
  apply spares.whole found
  intro middle there
  refine ⟨trivial, ?_⟩
  rcases kind with same | broken
  · rw [same] at there ⊢
    exact (safe middle there).1
  · rw [broken] at there ⊢
    obtain ⟨before, first, kept⟩ := Option.map_eq_some_iff.mp there
    obtain ⟨whole, apart⟩ := safe before first
    have unbroken : ¬(other ≠ file ∧ (volume.files file).map Handle.ino = some before.ino) := by
      rintro ⟨different, inode⟩
      rw [opened] at inode
      rcases apart with same | elsewhere
      · exact different same
      · exact elsewhere (Option.some.inj inode).symm
    rw [if_neg unbroken] at kept
    exact kept ▸ whole

theorem spares_of_effect {resolver : Resolver} {steady : Prop} {call : Call} {answer : Answer call}
    (listed : sparing spared call) (allowed : effect resolver steady volume call answer volume') :
    Spares spared volume volume' := by
  have kept (same : volume' = volume) : Spares spared volume volume' := by
    rw [same]
    exact .refl volume
  have wrote {ino : Ino} {inode : Inode} {code : Errcode}
      (written : WrittenTo steady volume ino inode code volume') : Spares spared volume volume' := by
    rcases written with ⟨_, same⟩ | ⟨_, _, same | same⟩
    · rw [same]
      exact .of_files rfl fun _ _ used => used
    · exact kept same
    · rw [same]
      exact .of_files rfl fun _ _ used => used
  cases call with
  | link dir name ino fileType =>
      rcases allowed with ⟨_, _, _, _, _, fits, grows, same⟩ | ⟨_, same, _⟩
      · rw [same]
        exact .of_files rfl fun _ _ used => used
      · exact kept same
  | unlink dir name =>
      rcases allowed with ⟨_, _, _, fits, grows, same⟩ | ⟨_, same, _⟩
      · rw [same]
        exact .of_files rfl fun _ _ used => used
      · exact kept same
  | mkdir parent ino name =>
      rcases allowed with ⟨_, _, _, _, _, _, _, _, fits, grows, same⟩ | ⟨_, same⟩
      · rw [same]
        exact .of_files rfl fun _ _ used => used_update (fun _ => rfl) used
      · exact kept same
  | symlink parent name target =>
      rcases allowed with ⟨_, _, _, ino, _, _, _, _, _, _, _, _, fits, grows, same⟩ | ⟨_, same⟩
      · rw [same]
        exact .of_files rfl fun _ _ used => used_update (fun _ => rfl) used
      · exact kept same
  | expandDir dir =>
      rcases allowed with ⟨_, like, _⟩ | ⟨_, same, _⟩
      · exact .of_like like
      · exact kept same
  | dirIterate ino proc =>
      rcases allowed with ⟨_, _, _, same⟩ | ⟨_, _, same | ⟨_, same⟩⟩
      · rw [same]
        exact .of_files rfl fun _ _ used => used
      · exact kept same
      · rw [same]
        exact .of_files rfl fun _ _ used => used
  | inodeAllocStats ino inuse isdir =>
      rw [show volume' = _ from allowed]
      exact .of_allocStats listed
  | writeNewInode => exact wrote allowed
  | writeInode => exact wrote allowed
  | writeInodeFull => exact wrote allowed
  | freeExtAttr ino inode =>
      rcases allowed.2.2 with same | same
      · exact kept same
      · rw [same]
        exact .of_files rfl fun _ _ used => used
  | punch ino inode =>
      obtain ⟨_, _, entries, _, ⟨fits, grows, same⟩ | ⟨fits, grows, same⟩⟩ := allowed
      · exact .of_break listed (by rw [same]; rfl) fun _ _ => by rw [same]; rfl
      · exact .of_break listed (by rw [same]; rfl) fun _ _ => by rw [same]; rfl
  | fileOpen ino flags => exact absurd listed id
  | fileSetSize file size => exact absurd listed id
  | fileWrite file buffer nbytes =>
      exact @Spares.of_fileWritten _ _ _ _ (fun _ _ => True) allowed
  | fileFlush file => exact @Spares.of_fileWritten _ _ _ _ (fun _ _ => True) allowed
  | fileClose file =>
      obtain ⟨between, written, same⟩ := allowed
      rw [same]
      exact (Spares.of_fileWritten written).trans _ _ _ (.of_setFile fun _ none => nomatch none)
  | storeFileInode file inode =>
      rw [show volume' = _ from allowed]
      apply Spares.of_setFile
      intro handle' stored
      obtain ⟨handle, opened, same⟩ := Option.map_eq_some_iff.mp stored
      rw [← same]
      exact ⟨handle, opened, rfl, rfl, rfl⟩
  | _ => first | exact kept allowed | exact kept allowed.1

/-- A routine that makes only such calls spares the inodes. -/
theorem wp_spares {resolver : Resolver} {steady : Prop} {A : Type} {routine : Routine A}
    (only : routine.Only (sparing spared)) (volume : Volume) :
    wp (libext2fs resolver steady) routine (fun _ volume' => Spares spared volume volume') volume :=
  wp_of_only Spares.refl Spares.trans
    (fun _ _ listed => ⟨trivial, fun _ _ allowed => spares_of_effect listed allowed⟩) only volume

end NodeExt2fs.Sessions
