import NodeExt2fs.Construction.Glue.Files
import NodeExt2fs.Construction.Library.Buffers
import NodeExt2fs.Proof.Library.Requests
import NodeExt2fs.Proof.Library.Shrinking

/-!
This file follows the entries of directories through the calls on open files.
-/

namespace NodeExt2fs.Directories
open Programs Glue Library
open Program (wp wp_pure wp_bind wp_ite wp_mono wp_of_only Only only_bind only_ite)

/-- Every directory has the entries that it had at first, the copies of inodes in the handles agree
on what a directory is, and no handle has anything to write to one. -/
structure Still (first : Volume) (owned : Ptr → Prop) (state : Buffered) : Prop where
  entries : state.volume.entries = first.entries
  kinds : ∀ ino, state.volume.isDir ino = first.isDir ino
  copies : ∀ file, owned file → ∀ handle, state.volume.files file = some handle →
    linuxSIsdir handle.mode = first.isDir handle.ino
  clean : ∀ file, owned file → ∀ handle, state.volume.files file = some handle →
    first.isDir handle.ino = true → state.dirty file = false

variable {resolver : Resolver} {steady : Prop} {first : Volume} {owned : Ptr → Prop}
  {before after : Buffered}

/-- Fewer handles are followed. -/
theorem Still.mono {fewer : Ptr → Prop} (still : Still first owned before)
    (less : ∀ file, fewer file → owned file) : Still first fewer before where
  entries := still.entries
  kinds := still.kinds
  copies file mine := still.copies file (less file mine)
  clean file mine := still.clean file (less file mine)

/-- A state that differs in nothing that is followed. -/
theorem Still.congr (still : Still first owned before)
    (entries : after.volume.entries = before.volume.entries)
    (kinds : ∀ ino, after.volume.isDir ino = before.volume.isDir ino)
    (files : after.volume.files = before.volume.files) (dirty : after.dirty = before.dirty) :
    Still first owned after where
  entries := entries.trans still.entries
  kinds ino := (kinds ino).trans (still.kinds ino)
  copies file mine handle found := still.copies file mine handle (by rw [← files]; exact found)
  clean file mine handle found directory := by
    rw [dirty]
    exact still.clean file mine handle (by rw [← files]; exact found) directory

theorem Still.same (still : Still first owned before) (volume : after.volume = before.volume)
    (dirty : after.dirty = before.dirty) : Still first owned after :=
  still.congr (by rw [volume]) (fun ino => by rw [volume]) (by rw [volume]) dirty

/-- The handles have the inodes that they had. -/
theorem Still.reopened (still : Still first owned before) {files : Ptr → Option Handle}
    (copies : ∀ other handle', files other = some handle' → ∃ handle,
      before.volume.files other = some handle ∧ handle'.ino = handle.ino ∧ handle'.mode = handle.mode) :
    Still first owned { before with volume := { before.volume with files := files } } where
  entries := still.entries
  kinds := still.kinds
  copies file mine handle' found := by
    obtain ⟨handle, opened, ino, mode⟩ := copies file handle' found
    rw [ino, mode]
    exact still.copies file mine handle opened
  clean file mine handle' found directory := by
    obtain ⟨handle, opened, ino, _⟩ := copies file handle' found
    exact still.clean file mine handle opened (ino ▸ directory)

/-- An inode is written back as the kind of file that it is. -/
theorem isDir_written {volume : Volume} {ino : Ino} {mode : BitVec 16} (links : BitVec 16)
    (kind : linuxSIsdir mode = volume.isDir ino) (other : Ino) :
    (volume.written ino mode links).isDir other = volume.isDir other := by
  by_cases same : other = ino
  · rw [same, ← kind]
    simp only [Volume.isDir, Volume.written, Function.update_self]
  · simp only [Volume.isDir, Volume.written, Function.update_of_ne same]

/-- A file call writes back the copy of its handle, and changes the entries of a directory only. -/
theorem fileWritten_keeps {volume volume' : Volume} {file : Ptr}
    {changes : List DirEntry → List DirEntry → Prop}
    (wrote : FileWritten volume file changes volume')
    (copy : ∀ handle, volume.files file = some handle →
      linuxSIsdir handle.mode = volume.isDir handle.ino) :
    (∀ ino, volume'.isDir ino = volume.isDir ino) ∧ volume'.files = volume.files ∧
      ((∀ handle, volume.files file = some handle → volume.isDir handle.ino = false) →
        volume'.entries = volume.entries) := by
  rw [FileWritten] at wrote
  cases found : volume.files file with
  | none =>
      rw [found] at wrote
      rw [show volume' = _ from wrote]
      exact ⟨fun _ => rfl, rfl, fun _ => rfl⟩
  | some handle =>
      rw [found] at wrote
      obtain ⟨entries, target, _, plain, _, like⟩ := wrote
      have kept (plainly : volume.isDir handle.ino = false) :
          Function.update volume.entries handle.ino entries = volume.entries := by
        rw [plain plainly, Function.update_eq_self]
      rcases like with ⟨fits, grows, same⟩ | ⟨fits, grows, same⟩
      · rw [same]
        exact ⟨fun _ => rfl, rfl, fun all => kept (all handle rfl)⟩
      · rw [same]
        exact ⟨isDir_written handle.links (copy handle found), rfl, fun all => kept (all handle rfl)⟩

/-- The calls that change no directory, whatever they are given. A handle is followed while it is
written out. -/
def settling (owned : Ptr → Prop) : Call → Prop
  | .fileFlush file | .fileClose file => owned file
  | .link _ _ _ _ | .unlink _ _ | .mkdir _ _ _ | .symlink _ _ _ | .expandDir _ | .dirIterate _ _
  | .inodeAllocStats _ _ _ | .writeNewInode _ _ | .writeInode _ _ | .writeInodeFull _ _
  | .freeExtAttr _ _ | .punch _ _ | .fileOpen _ _ | .fileSetSize _ _ | .fileWrite _ _ _
  | .storeFileInode _ _ => False
  | _ => True

/-- What is written through a handle leaves the directories alone when the handle is of no directory,
or when the call changes nothing there. -/
theorem Still.wrote (still : Still first owned before) {file : Ptr} (mine : owned file)
    {changes : List DirEntry → List DirEntry → Prop}
    (wrote : FileWritten before.volume file changes after.volume)
    (others : ∀ other, other ≠ file → after.dirty other = before.dirty other)
    (idle : ∀ handle, before.volume.files file = some handle → first.isDir handle.ino = true →
      after.dirty file = false ∧ after.volume.entries = before.volume.entries) :
    Still first owned after := by
  have copy (handle : Handle) (found : before.volume.files file = some handle) :
      linuxSIsdir handle.mode = before.volume.isDir handle.ino :=
    (still.copies file mine handle found).trans (still.kinds handle.ino).symm
  obtain ⟨kinds, files, plain⟩ := fileWritten_keeps wrote copy
  have entries : after.volume.entries = before.volume.entries := by
    by_cases directory : ∃ handle, before.volume.files file = some handle ∧
        first.isDir handle.ino = true
    · obtain ⟨handle, found, isDir⟩ := directory
      exact (idle handle found isDir).2
    · apply plain
      intro handle found
      rw [still.kinds]
      exact Bool.eq_false_iff.mpr fun isDir => directory ⟨handle, found, isDir⟩
  constructor
  · exact entries.trans still.entries
  · exact fun ino => (kinds ino).trans (still.kinds ino)
  · intro other followed handle found
    exact still.copies other followed handle (by rw [← files]; exact found)
  · intro other followed handle found isDir
    have opened : before.volume.files other = some handle := by
      rw [← files]
      exact found
    by_cases same : other = file
    · rw [same] at opened ⊢
      exact (idle handle opened isDir).1
    · rw [others other same]
      exact still.clean other followed handle opened isDir

/-- A closed handle is followed no more. -/
theorem Still.closed {between : Volume} {dirty : Ptr → Bool} {file : Ptr}
    (still : Still first owned ⟨between, dirty⟩) : Still first owned ⟨between.setFile file none, dirty⟩ := by
  have opened {other : Ptr} {handle : Handle}
      (found : (between.setFile file none).files other = some handle) :
      between.files other = some handle := by
    by_cases same : other = file
    · rw [same] at found
      simp only [Volume.setFile, Function.update_self] at found
      cases found
    · simpa only [Volume.setFile, Function.update_of_ne same] using found
  constructor
  · exact still.entries
  · exact still.kinds
  · exact fun other mine handle found => still.copies other mine handle (opened found)
  · exact fun other mine handle found => still.clean other mine handle (opened found)

theorem still_of_effect {call : Call} {answer : Answer call} (listed : settling owned call)
    (allowed : effect resolver steady before.volume call answer after.volume)
    (buffered : bufferEffect before call answer after) (still : Still first owned before) :
    Still first owned after := by
  cases call with
  | fileFlush file =>
      refine @Still.wrote _ _ _ _ still file listed (fun _ _ => True) allowed buffered.1 ?_
      intro handle found directory
      exact buffered.2 (still.clean file listed handle found directory)
  | fileClose file =>
      obtain ⟨between, wrote, same⟩ := allowed
      have kept : Still first owned ⟨between, after.dirty⟩ := by
        refine still.wrote listed wrote buffered.1 ?_
        intro handle found directory
        have idle := buffered.2 (still.clean file listed handle found directory)
        rw [same] at idle
        exact idle
      have closed := @Still.closed _ _ _ _ file kept
      rw [← same] at closed
      exact closed
  | _ =>
      first
      | exact still.same allowed buffered
      | exact still.same allowed.1 buffered
      | exact absurd listed id

/-- A routine that makes only such calls changes no directory. -/
theorem wp_still {A : Type} {routine : Routine A} (only : routine.Only (settling owned))
    (still : Still first owned before) :
    wp (buffering resolver steady) routine (fun _ after => Still first owned after) before := by
  have kept := @wp_of_only _ _ _ _ (buffering resolver steady) (settling owned)
    (fun state state' => Still first owned state → Still first owned state') (fun _ => id)
    (fun _ _ _ before after => after ∘ before)
    (fun _ _ listed => ⟨trivial, fun _ _ allowed =>
      still_of_effect listed allowed.1 allowed.2⟩) routine only before
  exact wp_mono kept fun _ _ kept => kept still

end NodeExt2fs.Directories
