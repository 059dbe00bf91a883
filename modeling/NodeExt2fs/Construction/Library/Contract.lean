import NodeExt2fs.Construction.Library.Volume

/-!
This file states what libext2fs is relied on for: which answers a call may give on a volume, and
which volume it may leave.

A steady library fails only for reasons that lie in the volume. Any other failure is a failure of
the disk or of an allocation.
-/

namespace NodeExt2fs.Library
open Programs Glue

/-- The answer of a path lookup. A failure of the disk, or an entry without an inode, is not reported
as a missing file. -/
def Resolved (steady : Prop) (result : Except Errcode Ino) (answer : Errcode × Ino) : Prop :=
  match result with
  | .ok ino =>
      answer.1 = 0 ∧ answer.2 = ino ∧ ino ≠ 0 ∨
        (steady → ino = 0) ∧ answer.1 ≠ 0 ∧ answer.1 ≠ EXT2_ET_FILE_NOT_FOUND
  | .error code =>
      answer.1 ≠ 0 ∧ (answer.1 = code ∨ ¬steady ∧ answer.1 ≠ EXT2_ET_FILE_NOT_FOUND)

/-- A call that hands back an inode record keeps its type and its link count. -/
def Keeps (inode inode' : Inode) : Prop :=
  inode'.iMode = inode.iMode ∧ inode'.iLinksCount = inode.iLinksCount

/-- The record of an inode as it is read. -/
def ReadFrom (volume : Volume) (ino : Ino) (inode : Inode) : Prop :=
  inode.iMode = volume.mode ino ∧ inode.iLinksCount = volume.links ino

/-- A write of an inode record. A write that fails may have happened all the same. -/
def WrittenTo (steady : Prop) (volume : Volume) (ino : Ino) (inode : Inode) (code : Errcode)
    (volume' : Volume) : Prop :=
  code = 0 ∧ volume' = volume.written ino inode.iMode inode.iLinksCount ∨
    ¬steady ∧ code ≠ 0 ∧
      (volume' = volume ∨ volume' = volume.written ino inode.iMode inode.iLinksCount)

/-- A file call may write the copy of the inode that its handle has, and it may change the content
of the file. -/
def FileWritten (volume : Volume) (file : Ptr) (changes : List DirEntry → List DirEntry → Prop)
    (volume' : Volume) : Prop :=
  match volume.files file with
  | none => volume' = volume
  | some handle =>
      ∃ entries target, changes (volume.entries handle.ino) entries ∧
        (volume.isDir handle.ino = false → entries = volume.entries handle.ino) ∧
        (volume.isLnk handle.ino = false → target = volume.target handle.ino) ∧
        ((volume.setContent handle.ino entries target).Like volume' ∨
          ((volume.written handle.ino handle.mode handle.links).setContent handle.ino entries
            target).Like volume')

/-- A new size of a file. The blocks behind it are punched, if there are any. -/
def FileResized (volume : Volume) (file : Ptr) (volume' : Volume) : Prop :=
  ∃ between, (between = volume ∨ between = volume.breakOthers file) ∧
    FileWritten between file (fun entries entries' => entries'.Sublist entries) volume'

/-- A new size leaves the copies of the inode, and the file itself as intact as it was. -/
theorem FileResized.written {volume volume' : Volume} {file : Ptr}
    (resized : FileResized volume file volume') : ∃ files, files file = volume.files file ∧
      (∀ other handle', files other = some handle' → ∃ handle, volume.files other = some handle ∧
        handle'.ino = handle.ino ∧ handle'.mode = handle.mode) ∧
      FileWritten { volume with files := files } file
        (fun entries entries' => entries'.Sublist entries) volume' := by
  obtain ⟨between, same | broken, written⟩ := resized
  · rw [same] at written
    exact ⟨volume.files, rfl, fun _ handle found => ⟨handle, found, rfl, rfl⟩, written⟩
  · rw [broken] at written
    exact ⟨_, volume.breakOthers_self file, fun _ _ => Volume.copy_of_breakOthers, written⟩

/-- What each call may do. The calls that are not listed change nothing here, and nothing is said
about their answers.

The names that `link`, `mkdir` and `symlink` put into a directory are taken to fit into an entry, which
has room for the `EXT2_NAME_LEN` = 255 bytes of `ext2fs.h`. Nothing in `glue.c` checks their length. -/
def effect (resolver : Resolver) (steady : Prop) (volume : Volume) :
    (call : Call) → Answer call → Volume → Prop
  | .namei path, answer, volume' =>
      volume' = volume ∧ Resolved steady (resolver.walk volume path) answer
  | .nameiFollow path, answer, volume' =>
      volume' = volume ∧ Resolved steady (resolver.walkFollow volume path) answer
  | .newInode _ _, answer, volume' =>
      volume' = volume ∧ (answer.1 = 0 →
        answer.2 ≠ 0 ∧ answer.2 ≤ volume.inodesCount ∧ volume.inUse answer.2 = false)
  | .link dir name ino fileType, code, volume' =>
      code = 0 ∧ volume.isDir dir = true ∧ (∃ before after, volume.entries dir = before ++ after ∧
        (volume.setEntries dir
          (before ++ { inode := ino, name := name, fileType := fileType } :: after)).Like volume') ∨
      code ≠ 0 ∧ volume' = volume ∧ (steady → volume.isDir dir = true →
        code = EXT2_ET_DIR_NO_SPACE ∧ volume.fits dir name = false)
  | .unlink dir name, code, volume' =>
      code = 0 ∧ volume.isDir dir = true ∧ (volume.find dir name).isSome = true ∧
        (volume.setEntries dir
          ((volume.entries dir).eraseP fun entry => entry.name = name)).Like volume' ∨
      code ≠ 0 ∧ volume' = volume ∧
        (steady → volume.isDir dir = true → volume.find dir name = none)
  | .mkdir parent ino name, code, volume' =>
      code = 0 ∧ volume.isDir parent = true ∧ volume.find parent name = none ∧
        (∃ mode before after, linuxSIsdir mode = true ∧ volume.entries parent = before ++ after ∧
          (volume.makeDir parent ino name mode before after).Like volume') ∨
      code ≠ 0 ∧ volume' = volume
  | .symlink parent name target, code, volume' =>
      code = 0 ∧ volume.isDir parent = true ∧ volume.find parent name = none ∧
        (∃ ino mode before after, ino ≠ 0 ∧ ino ≤ volume.inodesCount ∧ volume.inUse ino = false ∧
          linuxSIslnk mode = true ∧ volume.entries parent = before ++ after ∧
          (volume.makeSymlink parent ino name target mode before after).Like volume') ∨
      code ≠ 0 ∧ volume' = volume
  | .expandDir dir, code, volume' =>
      code = 0 ∧ volume.Like volume' ∧ (∀ name, volume'.fits dir name = true) ∨
      code ≠ 0 ∧ volume' = volume ∧ (steady → volume.isDir dir = true → volume.grows dir = false)
  | .checkDirectory ino, code, volume' =>
      volume' = volume ∧ (code = 0 → volume.isDir ino = true) ∧
        (steady → volume.isDir ino = true → code = 0)
  | .dirIterate ino proc, answer, volume' =>
      answer.1 = 0 ∧ volume.isDir ino = true ∧
        answer.2 = (proc.iterate (volume.entries ino)).1 ∧
        volume' = volume.setEntries ino (proc.iterate (volume.entries ino)).2 ∨
      answer.1 ≠ 0 ∧ (steady → volume.isDir ino = false) ∧
        (volume' = volume ∨
          ¬steady ∧ volume' = volume.setEntries ino (proc.iterate (volume.entries ino)).2)
  | .inodeAllocStats ino inuse _, _, volume' => volume' = volume.allocStats ino inuse
  | .inodeSizeSet inode _, answer, volume' =>
      volume' = volume ∧ Keeps inode answer.2 ∧ (steady → answer.1 = 0)
  | .extentOpen _ inode, answer, volume' =>
      volume' = volume ∧ Keeps inode answer.2 ∧ (steady → answer.1 = 0)
  | .readInode ino, answer, volume' =>
      volume' = volume ∧ (answer.1 = 0 → ReadFrom volume ino answer.2) ∧ (steady → answer.1 = 0)
  | .readInodeFull ino, answer, volume' =>
      volume' = volume ∧ (answer.1 = 0 → ReadFrom volume ino answer.2.toInode) ∧
        (steady → answer.1 = 0)
  | .writeNewInode ino inode, code, volume' => WrittenTo steady volume ino inode code volume'
  | .writeInode ino inode, code, volume' => WrittenTo steady volume ino inode code volume'
  | .writeInodeFull ino inode, code, volume' =>
      WrittenTo steady volume ino inode.toInode code volume'
  | .freeExtAttr ino inode, answer, volume' =>
      Keeps inode.toInode answer.2.toInode ∧ (steady → answer.1 = 0) ∧
        (volume' = volume ∨ volume' = volume.written ino inode.iMode inode.iLinksCount)
  | .punch ino inode, answer, volume' =>
      Keeps inode answer.2 ∧ (steady → answer.1 = 0) ∧
        ∃ entries, entries.Sublist (volume.entries ino) ∧
          (((volume.breakHandles ino).setEntries ino entries).Like volume' ∨
            (((volume.breakHandles ino).written ino inode.iMode inode.iLinksCount).setEntries
              ino entries).Like volume')
  | .fileOpen ino _, answer, volume' =>
      answer.1 = 0 ∧ answer.2 ≠ 0 ∧ volume.files answer.2 = none ∧
        volume' = volume.setFile answer.2 (some
          { ino := ino
            mode := volume.mode ino
            links := volume.links ino
            wasInUse := volume.inUse ino
            intact := true }) ∨
      answer.1 ≠ 0 ∧ volume' = volume
  | .fileSetSize file _, _, volume' => FileResized volume file volume'
  | .fileWrite file _ _, _, volume' => FileWritten volume file (fun _ _ => True) volume'
  | .fileFlush file, _, volume' => FileWritten volume file (fun _ _ => True) volume'
  | .fileClose file, _, volume' =>
      ∃ between, FileWritten volume file (fun _ _ => True) between ∧
        volume' = between.setFile file none
  | .loadFile file, answer, volume' =>
      volume' = volume ∧ ∀ handle, volume.files file = some handle →
        answer.ino = handle.ino ∧ answer.inode.iMode = handle.mode ∧
          answer.inode.iLinksCount = handle.links
  | .storeFileInode file inode, _, volume' =>
      volume' = volume.setFile file ((volume.files file).map fun handle =>
        { handle with mode := inode.iMode, links := inode.iLinksCount })
  | _, _, volume' => volume' = volume

/-- The contract of libext2fs. -/
def libext2fs (resolver : Resolver) (steady : Prop) : Contract Call Answer Volume where
  permits _ _ := True
  allows := effect resolver steady

/-- A call of the library may have each of its effects. -/
theorem wp_library {resolver : Resolver} {steady : Prop} {volume : Volume} (call : Call)
    {post : Answer call → Volume → Prop}
    (rest : ∀ answer volume', effect resolver steady volume call answer volume' →
      post answer volume') :
    Program.wp (libext2fs resolver steady) call.perform post volume :=
  ⟨trivial, rest⟩

end NodeExt2fs.Library
