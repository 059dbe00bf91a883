import NodeExt2fs.Construction.Library.Reference
import NodeExt2fs.Proof.Library.Shrinking

/-!
This file shows that the library in memory keeps the contract.
-/

namespace NodeExt2fs.Library
open Programs Glue

theorem Volume.Like.refl (volume : Volume) : volume.Like volume :=
  ⟨volume.fits, volume.grows, rfl⟩

theorem lookup_error {volume : Volume} {dir : Ino} {name : Name} {code : Errcode}
    (failed : volume.lookup dir name = .error code) : code ≠ 0 := by
  rw [Volume.lookup] at failed
  by_cases directory : volume.isDir dir = true
  · rw [if_pos directory] at failed
    cases found : volume.find dir name with
    | none =>
        rw [found] at failed
        rw [← Except.error.inj failed]
        decide
    | some entry =>
        rw [found] at failed
        cases failed
  · rw [if_neg directory] at failed
    rw [← Except.error.inj failed]
    decide

/-- The looked up inode is checked for being a symbolic link. -/
theorem checked_error {volume : Volume} {dir : Ino} {name : Name} {link : Ino → Bool}
    {code : Errcode} (failed : ((volume.lookup dir name).bind fun ino =>
      if link ino then .error EXT2_ET_SYMLINK_LOOP else .ok ino) = .error code) : code ≠ 0 := by
  rcases found : volume.lookup dir name with code' | ino
  · rw [found] at failed
    rw [← Except.error.inj failed]
    exact lookup_error found
  · rw [found] at failed
    by_cases stuck : link ino = true
    · simp only [Except.bind, if_pos stuck] at failed
      rw [← Except.error.inj failed]
      decide
    · simp only [Except.bind, if_neg stuck] at failed
      cases failed

theorem descend_error {volume : Volume} {dir : Ino} {name : Name} {code : Errcode}
    (failed : descend volume dir name = .error code) : code ≠ 0 := by
  rw [descend] at failed
  by_cases nameless : name = []
  · rw [if_pos nameless] at failed
    rw [← Except.error.inj failed]
    decide
  · rw [if_neg nameless] at failed
    exact checked_error failed

theorem walkNames_error {volume : Volume} {follow : Bool} {code : Errcode} (dir : Ino)
    (names : List Name) (failed : walkNames volume follow dir names = .error code) : code ≠ 0 := by
  induction names generalizing dir with
  | nil => cases failed
  | cons first rest ih =>
      cases rest with
      | nil =>
          change arrive volume follow dir first = .error code at failed
          rw [arrive] at failed
          by_cases nameless : first = []
          · rw [if_pos nameless] at failed
            cases failed
          · rw [if_neg nameless] at failed
            exact @checked_error _ _ _ (fun ino => follow && volume.isLnk ino) _ failed
      | cons second rest =>
          change (descend volume dir first).bind _ = .error code at failed
          rcases next : descend volume dir first with code' | dir'
          · rw [next] at failed
            rw [← Except.error.inj failed]
            exact descend_error next
          · rw [next] at failed
            exact ih dir' failed

theorem lookupAnswer_resolved {steady : Prop} {result : Except Errcode Ino}
    (nonzero : ∀ code, result = .error code → code ≠ 0) :
    Resolved steady result (lookupAnswer result) := by
  cases result with
  | error code => exact ⟨nonzero code rfl, .inl rfl⟩
  | ok ino =>
      by_cases zero : ino = 0
      · rw [lookupAnswer, if_pos zero]
        exact .inr ⟨fun _ => zero, by decide, by decide⟩
      · rw [lookupAnswer, if_neg zero]
        exact .inl ⟨rfl, rfl, zero⟩

theorem freeIno_spec {volume : Volume} {ino : Ino} (found : volume.freeIno = some ino) :
    ino ≠ 0 ∧ ino ≤ volume.inodesCount ∧ volume.inUse ino = false := by
  have holds := List.find?_some found
  have member := List.mem_of_find?_eq_some found
  rw [List.mem_range] at member
  simp only [Bool.and_eq_true, decide_eq_true_eq, Bool.not_eq_true'] at holds
  have reserved : 0 < 11 := by decide
  exact ⟨Nat.pos_iff_ne_zero.mp (lt_of_lt_of_le reserved holds.1), Nat.lt_succ_iff.mp member,
    holds.2⟩

theorem freeFile_spec {volume : Volume} {file : Ptr} (found : volume.freeFile = some file) :
    file ≠ 0 ∧ volume.files file = none := by
  have holds := List.find?_some found
  simp only [Bool.and_eq_true, decide_eq_true_eq, Option.isNone_iff_eq_none] at holds
  exact ⟨Nat.pos_iff_ne_zero.mp holds.1, holds.2⟩

theorem admits_eq_zero {volume : Volume} {dir : Ino} {name : Name}
    (admitted : volume.admits dir name = 0) :
    volume.isDir dir = true ∧ volume.find dir name = none := by
  rw [Volume.admits] at admitted
  cases directory : volume.isDir dir with
  | false =>
      rw [directory] at admitted
      cases admitted
  | true =>
      refine ⟨rfl, ?_⟩
      by_cases taken : (volume.find dir name).isSome = true
      · rw [directory, if_neg (by decide), if_pos taken] at admitted
        cases admitted
      · exact Option.not_isSome_iff_eq_none.mp taken

theorem fileWritten_self {changes : List DirEntry → List DirEntry → Prop}
    (refl : ∀ entries, changes entries entries) (volume : Volume) (file : Ptr) :
    FileWritten volume file changes volume := by
  rw [FileWritten]
  cases volume.files file with
  | none => rfl
  | some handle =>
      refine ⟨volume.entries handle.ino, volume.target handle.ino, refl _, fun _ => rfl,
        fun _ => rfl, .inl ?_⟩
      rw [Volume.setContent_self]
      exact .refl volume

theorem truncateFile_written (volume : Volume) (file : Ptr) :
    FileWritten volume file (fun entries entries' => entries'.Sublist entries)
      (volume.truncateFile file) := by
  rw [Volume.truncateFile]
  cases found : volume.files file with
  | none => exact fileWritten_self (fun entries => .refl entries) volume file
  | some handle =>
      by_cases directory : volume.isDir handle.ino = true
      · simp only [FileWritten, found, if_pos directory]
        refine ⟨[], volume.target handle.ino, List.nil_sublist _, ?_, fun _ => rfl, .inl ?_⟩
        · intro plain
          rw [directory] at plain
          cases plain
        · refine ⟨volume.fits, volume.grows, ?_⟩
          rw [Volume.setContent, Function.update_eq_self]
          rfl
      · simp only [if_neg directory]
        exact fileWritten_self (fun entries => .refl entries) volume file

theorem reference_honours (steady : Prop) : (libext2fs linkless steady).Honoured reference id := by
  intro request volume
  change effect linkless steady volume request (reference request volume).1
    (reference request volume).2
  cases request with
  | namei path =>
      exact ⟨rfl, lookupAnswer_resolved fun _ failed => walkNames_error _ _ failed⟩
  | nameiFollow path =>
      exact ⟨rfl, lookupAnswer_resolved fun _ failed => walkNames_error _ _ failed⟩
  | newInode dir mode =>
      cases free : volume.freeIno with
      | none =>
          simp only [reference, free]
          exact ⟨rfl, fun bad => absurd bad (by decide)⟩
      | some ino =>
          simp only [reference, free]
          exact ⟨rfl, fun _ => freeIno_spec free⟩
  | link dir name ino fileType =>
      cases directory : volume.isDir dir with
      | false =>
          simp only [reference, directory]
          refine .inr ⟨(by decide : EXT2_ET_NO_DIRECTORY ≠ 0), rfl, ?_⟩
          intro _ isDir
          rw [directory] at isDir
          cases isDir
      | true =>
          cases room : volume.fits dir name with
          | false =>
              simp only [reference, directory, room]
              exact .inr ⟨(by decide : EXT2_ET_DIR_NO_SPACE ≠ 0), rfl, fun _ _ => ⟨rfl, room⟩⟩
          | true =>
              simp only [reference, directory, room]
              exact .inl ⟨rfl, directory, volume.entries dir, [], (List.append_nil _).symm, .refl _⟩
  | unlink dir name =>
      by_cases present : (volume.isDir dir && (volume.find dir name).isSome) = true
      · simp only [reference, if_pos present]
        rw [Bool.and_eq_true] at present
        exact .inl ⟨rfl, present.1, present.2, .refl _⟩
      · simp only [reference, if_neg present]
        refine .inr ⟨(by decide : EXT2_ET_DIR_NO_SPACE ≠ 0), rfl, ?_⟩
        intro _ directory
        rw [directory, Bool.true_and] at present
        exact Option.not_isSome_iff_eq_none.mp present
  | mkdir parent ino name =>
      by_cases admitted : volume.admits parent name = 0
      · simp only [reference, if_pos admitted]
        obtain ⟨directory, absent⟩ := admits_eq_zero admitted
        exact .inl ⟨rfl, directory, absent, _, volume.entries parent, [], by decide,
          (List.append_nil _).symm, .refl _⟩
      · simp only [reference, if_neg admitted]
        exact .inr ⟨admitted, rfl⟩
  | symlink parent name target =>
      cases free : volume.freeIno with
      | none =>
          simp only [reference, free]
          exact .inr ⟨(by decide : EXT2_ET_INODE_ALLOC_FAIL ≠ 0), rfl⟩
      | some ino =>
          obtain ⟨nonzero, inside, unused⟩ := freeIno_spec free
          by_cases admitted : volume.admits parent name = 0
          · simp only [reference, free, if_pos admitted]
            obtain ⟨directory, absent⟩ := admits_eq_zero admitted
            exact .inl ⟨rfl, directory, absent, ino, _, volume.entries parent, [], nonzero, inside,
              unused, by decide, (List.append_nil _).symm, .refl _⟩
          · simp only [reference, free, if_neg admitted]
            exact .inr ⟨admitted, rfl⟩
  | expandDir dir =>
      cases growing : volume.grows dir with
      | false =>
          simp only [reference, growing]
          exact .inr ⟨(by decide : EXT2_ET_BLOCK_ALLOC_FAIL ≠ 0), rfl, fun _ _ => growing⟩
      | true =>
          simp only [reference, growing]
          refine .inl ⟨rfl, ⟨_, volume.grows, rfl⟩, ?_⟩
          intro name
          show Function.update volume.fits dir _ dir name = true
          rw [Function.update_self]
  | checkDirectory ino =>
      cases directory : volume.isDir ino with
      | false =>
          simp only [reference, directory]
          exact ⟨rfl, fun bad => absurd bad (by decide : EXT2_ET_NO_DIRECTORY ≠ 0),
            fun _ isDir => absurd (directory.symm.trans isDir) Bool.false_ne_true⟩
      | true =>
          simp only [reference, directory]
          exact ⟨rfl, fun _ => directory, fun _ _ => rfl⟩
  | dirIterate ino proc =>
      cases directory : volume.isDir ino with
      | false =>
          simp only [reference, directory]
          exact .inr ⟨(by decide : EXT2_ET_NO_DIRECTORY ≠ 0), fun _ => directory, .inl rfl⟩
      | true =>
          simp only [reference, directory]
          exact .inl ⟨rfl, directory, rfl, rfl⟩
  | inodeAllocStats ino inuse isdir => rfl
  | inodeSizeSet inode size => exact ⟨rfl, ⟨rfl, rfl⟩, fun _ => rfl⟩
  | extentOpen ino inode => exact ⟨rfl, ⟨rfl, rfl⟩, fun _ => rfl⟩
  | readInode ino => exact ⟨rfl, fun _ => ⟨rfl, rfl⟩, fun _ => rfl⟩
  | readInodeFull ino => exact ⟨rfl, fun _ => ⟨rfl, rfl⟩, fun _ => rfl⟩
  | writeNewInode ino inode => exact .inl ⟨rfl, rfl⟩
  | writeInode ino inode => exact .inl ⟨rfl, rfl⟩
  | writeInodeFull ino inode => exact .inl ⟨rfl, rfl⟩
  | freeExtAttr ino inode => exact ⟨⟨rfl, rfl⟩, fun _ => rfl, .inl rfl⟩
  | punch ino inode =>
      exact ⟨⟨rfl, rfl⟩, fun _ => rfl, [], List.nil_sublist _, .inl (.refl _)⟩
  | fileOpen ino flags =>
      cases free : volume.freeFile with
      | none =>
          simp only [reference, Volume.openFile, free]
          exact .inr ⟨(by decide : EXT2_ET_NO_MEMORY ≠ 0), rfl⟩
      | some file =>
          simp only [reference, Volume.openFile, free]
          exact .inl ⟨rfl, (freeFile_spec free).1, (freeFile_spec free).2, rfl⟩
  | fileSetSize file size =>
      exact ⟨volume.breakOthers file, .inr rfl, truncateFile_written (volume.breakOthers file) file⟩
  | fileWrite file buffer nbytes => exact @fileWritten_self (fun _ _ => True) (fun _ => trivial) volume file
  | fileFlush file => exact @fileWritten_self (fun _ _ => True) (fun _ => trivial) volume file
  | fileClose file =>
      exact ⟨volume, @fileWritten_self (fun _ _ => True) (fun _ => trivial) volume file, rfl⟩
  | loadFile file =>
      refine ⟨rfl, ?_⟩
      intro handle found
      have opened : volume.fileRecord file =
          { ino := handle.ino, inode := Volume.record handle.mode handle.links } := by
        rw [Volume.fileRecord, found]
      show (volume.fileRecord file).ino = _ ∧ (volume.fileRecord file).inode.iMode = _ ∧
        (volume.fileRecord file).inode.iLinksCount = _
      rw [opened]
      exact ⟨rfl, rfl, rfl⟩
  | storeFileInode file inode => rfl
  | _ => rfl

end NodeExt2fs.Library
