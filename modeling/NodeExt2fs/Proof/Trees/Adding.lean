import NodeExt2fs.Proof.Trees.Volumes
import NodeExt2fs.Proof.Library.Effects
import NodeExt2fs.Proof.Library.Requests

/-!
This file follows the routines that add names, on a disk that does not fail.
-/

namespace NodeExt2fs.Trees
open Programs Structures Glue Library
open Program (wp wp_pure wp_bind wp_ite wp_mono)
open Census (Live Shaped Sound Proper Edit Inside Rooted)

variable {resolver : Resolver} {steady exact rooted : Prop} {volume volume' : Volume}

theorem regular_not_dir (mode : BitVec 32) : linuxSIsdir (withFormat mode LINUX_S_IFREG) = false := by
  rw [linuxSIsdir, withFormat_format mode LINUX_S_IFREG (by decide)]
  decide

theorem fileType_regular {mode : BitVec 16} (isReg : linuxSIsreg mode = true) :
    ext2FileType mode = EXT2_FT_REG_FILE := if_pos isReg

theorem fileType_directory {mode : BitVec 16} (isDir : linuxSIsdir mode = true) :
    ext2FileType mode = EXT2_FT_DIR := by
  have format : mode &&& LINUX_S_IFMT = LINUX_S_IFDIR := beq_iff_eq.mp isDir
  simp only [ext2FileType, linuxSIsreg, linuxSIsdir, format]
  rfl

theorem fileType_symlink {mode : BitVec 16} (isLnk : linuxSIslnk mode = true) :
    ext2FileType mode = EXT2_FT_SYMLINK := by
  have format : mode &&& LINUX_S_IFMT = LINUX_S_IFLNK := beq_iff_eq.mp isLnk
  simp only [ext2FileType, linuxSIsreg, linuxSIsdir, linuxSIschr, linuxSIsblk, linuxSIslnk, format]
  rfl

theorem directory_isDir (mode : BitVec 32) : linuxSIsdir (withFormat mode LINUX_S_IFDIR) = true := by
  rw [linuxSIsdir, withFormat_format mode LINUX_S_IFDIR (by decide)]
  decide

theorem lnk_not_dir {mode : BitVec 16} (isLnk : linuxSIslnk mode = true) :
    linuxSIsdir mode = false := by
  rw [linuxSIslnk, beq_iff_eq] at isLnk
  rw [linuxSIsdir, isLnk]
  decide

/-- Only one inode changes, which was not in use. -/
theorem names_fresh {ino : Ino} {entries : List DirEntry} (bounded : ino ≤ volume.inodesCount)
    (count : volume'.inodesCount = volume.inodesCount) (fresh : volume.inUse ino = false)
    (others : ∀ other, other ≠ ino → volume'.liveEntries other = volume.liveEntries other)
    (here : volume'.liveEntries ino = entries) :
    volume'.census.names = volume.census.names + (entries.map (Prod.mk ino) : Multiset Place) := by
  have empty : volume.liveEntries ino = [] := by
    rw [Volume.liveEntries, fresh, Bool.false_and]
    rfl
  have moved := @places_update DirEntry volume.liveEntries volume'.liveEntries volume.inodesCount
    ino bounded others [] entries (by rw [here, empty, List.append_nil, List.nil_append])
  rw [List.map_nil, Multiset.coe_nil, add_zero] at moved
  show places volume'.liveEntries volume'.inodesCount = _
  rw [count]
  exact moved

/-- A name that a directory in use does not have is none of the two that it must have. -/
theorem plain_of_absent (placed : volume.Placed) {dir : Ino}
    (live : volume.census.Live dir) {entry : DirEntry} (absent : volume.find dir entry.name = none) :
    Plain entry := by
  have absurdly (special : entry.name = dot ∨ entry.name = dotdot) : False := by
    obtain ⟨ino, found, _⟩ := lookup_special placed live special
    obtain ⟨_, other, there, _⟩ := find_of_lookup found
    rw [absent] at there
    cases there
  exact ⟨fun own => absurdly (.inl own), fun up => absurdly (.inr up)⟩

/-- An entry is added, when there is space for it after an expansion. -/
theorem expanding_link (calm : steady) (dir : Ino) (name : Name) (ino : Ino) (fileType : Nat) :
    wp (libext2fs resolver steady) (expanding dir (ext2fsLink dir name ino fileType))
      (fun code volume' =>
        code = 0 ∧ volume.isDir dir = true ∧ (∃ before after,
          volume.entries dir = before ++ after ∧ (volume.setEntries dir (before ++
            { inode := ino, name := name, fileType := fileType } :: after)).Like volume') ∨
        code ≠ 0 ∧ volume.Like volume' ∧ (volume.isDir dir = true →
          volume.fits dir name = false ∧ volume.grows dir = false)) volume := by
  have unchanged : volume.Like volume := ⟨volume.fits, volume.grows, rfl⟩
  rw [expanding, wp_bind]
  apply wp_library (.link dir name ino fileType)
  intro code volume₁ first
  rw [wp_ite]
  rcases first with ⟨fine, directory, added⟩ | ⟨bad, same, full⟩
  · refine ⟨fun none => ?_, fun _ => .inl ⟨fine, directory, added⟩⟩
    exact absurd (fine.symm.trans none) (by decide : (0 : Errcode) ≠ EXT2_ET_DIR_NO_SPACE)
  · rw [same]
    refine ⟨fun none => ?_, fun some => ?_⟩
    · rw [wp_bind]
      apply wp_library (.expandDir dir)
      intro grown volume₂ expanded
      rw [wp_ite]
      rcases expanded with ⟨fine, like, roomy⟩ | ⟨failed, same, stuck⟩
      · refine ⟨fun failed => absurd fine failed, fun _ => ?_⟩
        apply wp_library (.link dir name ino fileType)
        intro code' volume₃ second
        obtain ⟨fits, grows, same⟩ := like
        rw [same] at second roomy
        rcases second with ⟨fine', directory, before, after, split, added⟩ | ⟨bad', kept, full'⟩
        · obtain ⟨fits', grows', equal⟩ := added
          exact .inl ⟨fine', directory, before, after, split, fits', grows', equal⟩
        · rw [kept]
          refine .inr ⟨bad', ⟨fits, grows, rfl⟩, fun directory => ?_⟩
          have room := roomy name
          rw [(full' calm directory).2] at room
          cases room
      · refine ⟨fun _ => ?_, fun fine => absurd failed fine⟩
        rw [same]
        exact .inr ⟨failed, unchanged, fun directory =>
          ⟨(full calm directory).2, stuck calm directory⟩⟩
    · exact .inr ⟨bad, unchanged, fun directory => absurd (full calm directory).1 some⟩

theorem chooseLayout_keeps (calm : steady) (ino : Ino) (inode : Inode) :
    wp (libext2fs resolver steady) (chooseLayout ino inode)
      (fun answer volume' => volume' = volume ∧ answer.1 = 0 ∧ Keeps inode answer.2) volume := by
  rw [chooseLayout, wp_bind]
  apply wp_library .hasFeatureInlineData
  intro isInline volume₁ same
  rw [show volume₁ = _ from same, wp_ite]
  refine ⟨fun _ => ⟨rfl, rfl, rfl, rfl⟩, fun _ => ?_⟩
  rw [wp_bind]
  apply wp_library .hasFeatureExtents
  intro hasExtents volume₂ same
  rw [show volume₂ = _ from same, wp_ite]
  refine ⟨fun _ => ?_, fun _ => ⟨rfl, rfl, rfl, rfl⟩⟩
  rw [wp_bind]
  apply wp_library (.extentOpen ino _)
  intro opened volume₃ allowed
  obtain ⟨same, keeps, fine⟩ := allowed
  dsimp only
  rw [same, wp_ite]
  refine ⟨fun bad => absurd (fine calm) bad, fun _ => ?_⟩
  rw [wp_bind]
  apply wp_library .extentFree
  intro _ volume₄ same
  exact ⟨same, rfl, Keeps.trans ⟨rfl, rfl⟩ keeps⟩

/-- A new file comes into use with one link. -/
theorem fillFile_filled (calm : steady) (ino : Ino) (mode : BitVec 32) :
    wp (libext2fs resolver steady) (fillFile ino mode)
      (fun _ volume' => volume' =
        (volume.allocStats ino 1).written ino (withFormat mode LINUX_S_IFREG) 1) volume := by
  rw [fillFile, wp_bind]
  apply wp_library (.testInodeBitmap ino)
  intro _ volume₁ same
  rw [show volume₁ = _ from same, wp_bind]
  apply wp_library (.inodeAllocStats ino 1 false)
  intro _ volume₂ marked
  rw [show volume₂ = _ from marked, wp_bind]
  apply wp_library .time
  intro now volume₃ same
  rw [show volume₃ = _ from same, wp_bind]
  apply wp_library (.inodeSizeSet _ 0)
  intro sized volume₄ allowed
  obtain ⟨same, kept, fine⟩ := allowed
  dsimp only
  rw [same, wp_ite]
  refine ⟨fun bad => absurd (fine calm) bad, fun _ => ?_⟩
  rw [wp_bind]
  apply wp_mono (chooseLayout_keeps calm ino sized.2)
  intro chosen volume₅ outcome
  obtain ⟨same, fine, keeps⟩ := outcome
  rw [same, wp_ite]
  refine ⟨fun bad => absurd fine bad, fun _ => ?_⟩
  rw [wp_bind]
  apply wp_library (.writeNewInode ino chosen.2)
  intro code volume₆ wrote
  have written : code = 0 ∧ volume₆ =
      (volume.allocStats ino 1).written ino (withFormat mode LINUX_S_IFREG) 1 := by
    rcases wrote with ⟨zero, done⟩ | ⟨unsteady, _⟩
    · refine ⟨zero, ?_⟩
      have both := kept.trans keeps
      rw [done, both.1, both.2]
      rfl
    · exact absurd calm unsteady
  rw [wp_ite]
  refine ⟨fun bad => absurd written.1 bad, fun _ => ?_⟩
  rw [wp_ite]
  refine ⟨fun _ => ?_, fun _ => written.2⟩
  apply wp_library (.inlineDataInit ino)
  intro _ volume₇ same
  exact (show volume₇ = _ from same).trans written.2

/-- What is known of a new file: its name was free for it, and so was its inode. -/
structure Fresh (volume : Volume) (dir : Ino) (entry : DirEntry) : Prop where
  holder : volume.census.Live dir
  plain : Plain entry
  nonempty : entry.name ≠ []
  fresh : volume.inUse entry.inode = false
  positive : entry.inode ≠ 0
  bounded : entry.inode ≤ volume.inodesCount

/-- The census with a new file. -/
theorem census_file (placed : volume.Placed) {dir : Ino} {entry : DirEntry} {mode : BitVec 16}
    (relisted : Relisted volume volume' dir [] [entry]) (new : Fresh volume dir entry)
    (kind : linuxSIsdir mode = false) :
    ((volume'.allocStats entry.inode 1).written entry.inode mode 1).census =
      { inUse := Function.update volume.census.inUse entry.inode true
        isDir := Function.update volume.census.isDir entry.inode false
        links := Function.update volume.census.links entry.inode 1
        names := (dir, entry) ::ₘ volume.census.names } := by
  generalize refers : entry.inode = ino
  have isDir : ((volume'.allocStats ino 1).written ino mode 1).isDir =
      Function.update volume.isDir ino false := by
    funext other
    show linuxSIsdir (Function.update volume'.mode ino mode other) = _
    rw [relisted.mode]
    by_cases same : other = ino
    · rw [same, Function.update_self, Function.update_self]
      exact kind
    · rw [Function.update_of_ne same, Function.update_of_ne same]
      rfl
  have names : ((volume'.allocStats ino 1).written ino mode 1).census.names =
      (dir, entry) ::ₘ volume.census.names := by
    rw [← relisted.added (placed.bounded dir new.holder.1) new.holder]
    have same := @names_fresh volume' ((volume'.allocStats ino 1).written ino mode 1) ino []
      (refers ▸ relisted.inodesCount ▸ new.bounded) rfl (refers ▸ relisted.inUse ▸ new.fresh) ?_ ?_
    · rw [same, List.map_nil, Multiset.coe_nil, add_zero]
    · intro other different
      rw [Volume.liveEntries, isDir, Function.update_of_ne different, Volume.liveEntries,
        relisted.isDir]
      show (if Function.update volume'.inUse ino _ other && _ then _ else _) = _
      rw [Function.update_of_ne different]
      rfl
    · rw [Volume.liveEntries, isDir, Function.update_self, Bool.and_false]
      rfl
  have links : ((volume'.allocStats ino 1).written ino mode 1).census.links =
      Function.update volume.census.links ino 1 := by
    funext other
    show (Function.update volume'.links ino 1 other).toNat = _
    rw [relisted.links]
    exact Function.apply_update (fun _ => BitVec.toNat) volume.links ino 1 other
  have inUse : ((volume'.allocStats ino 1).written ino mode 1).inUse =
      Function.update volume.inUse ino true := by
    show Function.update volume'.inUse ino true = _
    rw [relisted.inUse]
  rw [← names, ← links]
  show Census.mk _ _ _ _ = Census.mk _ _ _ _
  rw [inUse, isDir]
  rfl

/-- A new entry and its new file. -/
theorem formed_file (formed : volume.WellFormed exact rooted) {dir : Ino} {entry : DirEntry}
    {mode : BitVec 16} (relisted : Relisted volume volume' dir [] [entry]) (new : Fresh volume dir entry)
    (kind : linuxSIsdir mode = false) :
    ((volume'.allocStats entry.inode 1).written entry.inode mode 1).WellFormed exact rooted := by
  apply formed_edit formed
  · rw [census_file formed.placed relisted new kind]
    exact Edit.file (dir, entry) ⟨new.holder, new.plain, new.nonempty⟩ new.fresh new.positive
  · intro other used
    change Function.update volume'.inUse entry.inode true other = true at used
    show other ≤ volume'.inodesCount
    rw [relisted.inodesCount]
    by_cases same : other = entry.inode
    · exact same ▸ new.bounded
    · rw [Function.update_of_ne same, relisted.inUse] at used
      exact formed.bounded other used

/-- A lookup gives what the path leads to, or zero. -/
theorem stringToInode_both (calm : steady) (path : Path) (follow : Bool) :
    wp (libext2fs resolver steady) (stringToInode path follow)
      (fun ino volume' => volume' = volume ∧
        (ino ≠ 0 → (if follow then resolver.walkFollow volume path else resolver.walk volume path) =
          .ok ino) ∧
        ∀ found, (if follow then resolver.walkFollow volume path else resolver.walk volume path) =
          .ok found → found = ino) volume := by
  have both {result : Except Errcode Ino} {answer : Errcode × Ino}
      (resolved : Resolved steady result answer) :
      ((if answer.1 ≠ 0 then 0 else answer.2) ≠ 0 →
        result = .ok (if answer.1 ≠ 0 then 0 else answer.2)) ∧
      ∀ found, result = .ok found → found = if answer.1 ≠ 0 then 0 else answer.2 := by
    by_cases fine : answer.1 = 0
    · rw [if_neg (not_not_intro fine), (walk_of_resolved resolved fine).1]
      exact ⟨fun _ => rfl, fun found same => (Except.ok.inj same).symm⟩
    · rw [if_pos fine]
      refine ⟨fun bad => absurd rfl bad, fun found there => ?_⟩
      rw [there] at resolved
      rcases resolved with ⟨zero, _⟩ | ⟨null, _⟩
      · exact absurd zero fine
      · exact null calm
  unfold stringToInode
  cases follow with
  | true =>
      simp only [if_true, wp_bind]
      apply wp_library (.nameiFollow path)
      intro answer volume₁ allowed
      have known := both allowed.2
      rw [wp_ite]
      by_cases fine : answer.1 = 0
      · rw [if_neg (not_not_intro fine)] at known
        exact ⟨fun bad => absurd fine bad, fun _ => ⟨allowed.1, known⟩⟩
      · rw [if_pos fine] at known
        exact ⟨fun _ => ⟨allowed.1, known⟩, fun zero => absurd fine zero⟩
  | false =>
      simp only [if_false, wp_bind, Bool.false_eq_true]
      apply wp_library (.namei path)
      intro answer volume₁ allowed
      have known := both allowed.2
      rw [wp_ite]
      by_cases fine : answer.1 = 0
      · rw [if_neg (not_not_intro fine)] at known
        exact ⟨fun bad => absurd fine bad, fun _ => ⟨allowed.1, known⟩⟩
      · rw [if_pos fine] at known
        exact ⟨fun _ => ⟨allowed.1, known⟩, fun zero => absurd fine zero⟩

/-- A name that `open` does not find is none of the two that every directory has. -/
theorem plain_of_missing (formed : volume.WellFormed exact rooted) {path before : Path} {name : Name}
    {dir : Ino} (split : strrchr path = some (before, name)) (nonempty : name ≠ [])
    (parent : resolver.walk volume (before ++ [slash]) = .ok dir) (live : volume.census.Live dir)
    {flags : BitVec 32} (missing : ∀ found, resolver.lookedUp volume path flags = .ok found → found = 0) :
    name ≠ dot ∧ name ≠ dotdot := by
  obtain ⟨joined, clean⟩ := strrchr_eq_some split
  have walked : resolver.walk volume path = volume.lookup dir name := by
    rw [joined, resolver.walk_split volume before name nonempty clean, parent]
    rfl
  have absurdly (special : name = dot ∨ name = dotdot) : False := by
    obtain ⟨ino, found, there⟩ := lookup_special formed.placed live special
    have notLink : volume.isLnk ino = false := by
      cases kind : volume.isLnk ino with
      | false => rfl
      | true => exact absurd ((lnk_not_dir kind).symm.trans there.2) Bool.noConfusion
    have found : resolver.lookedUp volume path flags = .ok ino := by
      rw [Resolver.lookedUp]
      cases hasFlag flags O_NOFOLLOW with
      | true => exact walked.trans found
      | false => exact resolver.walkFollow_of_walk volume path ino (walked.trans found) notLink
    exact used_ne_zero formed.sound.toShaped there.1 (missing ino found)
  exact ⟨fun own => absurdly (.inl own), fun up => absurdly (.inr up)⟩

/-- A new file has the name at the end of the path. -/
def Filed (resolver : Resolver) (volume : Volume) (path : Path) (ino : Ino) (volume' : Volume) : Prop :=
  ∃ before entry dir linked mode, strrchr path = some (before, entry.name) ∧ entry.inode = ino ∧
    resolver.walk volume (before ++ [slash]) = .ok dir ∧ Relisted volume linked dir [] [entry] ∧
    Fresh volume dir entry ∧ linuxSIsdir mode = false ∧ entry.fileType = ext2FileType mode ∧
    volume' = (linked.allocStats ino 1).written ino mode 1

/-- `create_file` adds a file, or the entries stay. -/
theorem createFile_filed (calm : steady) (closed : resolver.Closed)
    (formed : volume.WellFormed exact rooted) (path : Path) (flags mode : BitVec 32)
    (missing : ∀ found, resolver.lookedUp volume path flags = .ok found → found = 0) :
    wp (libext2fs resolver steady) (createFile path mode)
      (fun created volume' => created.1 ≠ 0 ∧ volume.Like volume' ∨
        Filed resolver volume path created.2 volume') volume := by
  have unchanged : volume.Like volume := ⟨volume.fits, volume.grows, rfl⟩
  rw [createFile, wp_bind]
  apply wp_mono (getParentDirIno_found path)
  intro parent volume₁ outcome
  obtain ⟨same, located⟩ := outcome
  rw [same, wp_ite]
  refine ⟨fun _ => .inl ⟨(by decide : ENOTDIR ≠ 0), unchanged⟩, fun positive => ?_⟩
  obtain ⟨before, name, split, there⟩ := located positive
  rw [wp_bind]
  apply wp_library (.newInode parent mode)
  intro new volume₂ allowed
  dsimp only
  rw [allowed.1, wp_ite]
  refine ⟨fun bad => .inl ⟨bad, unchanged⟩, fun fine => ?_⟩
  obtain ⟨nonzero, bounded, fresh⟩ := allowed.2 (not_not.mp fine)
  rcases named : getFilename path with _ | filename
  · exact .inl ⟨(by decide : EISDIR ≠ 0), unchanged⟩
  · obtain ⟨same, nonempty⟩ := getFilename_eq split named
    dsimp only
    rw [wp_bind]
    apply wp_mono (expanding_link calm parent filename new.2 EXT2_FT_REG_FILE)
    intro code volume₃ added
    rw [wp_ite]
    rcases added with ⟨fine, directory, before', after, parts, like⟩ | ⟨bad, like, _⟩
    · refine ⟨fun bad => absurd fine bad, fun _ => ?_⟩
      have live : volume.census.Live parent := ⟨used_of_walk closed formed.placed (.inl there), directory⟩
      have proper := plain_of_missing formed split (same ▸ nonempty) there live missing
      rw [← same] at proper split
      rw [wp_bind]
      apply wp_mono (fillFile_filled calm new.2 mode)
      intro ret volume₄ filled
      exact .inr ⟨before, { inode := new.2, name := filename, fileType := EXT2_FT_REG_FILE }, parent, volume₃,
        withFormat mode LINUX_S_IFREG, split, rfl, there, relisted_insert parts like,
        ⟨live, proper, nonempty, fresh, nonzero, bounded⟩, regular_not_dir mode,
        (fileType_regular (beq_iff_eq.mpr (withFormat_format mode LINUX_S_IFREG (by decide)))).symm, filled⟩
    · exact ⟨fun bad => .inl ⟨bad, like⟩, fun fine => absurd bad fine⟩

theorem formed_filed (formed : volume.WellFormed exact rooted) {path : Path} {ino : Ino}
    (filed : Filed resolver volume path ino volume') : volume'.WellFormed exact rooted := by
  obtain ⟨_, entry, dir, linked, kind, _, refers, _, relisted, new, isFile, _, made⟩ := filed
  rw [made, ← refers]
  exact formed_file formed relisted new isFile

theorem filed_isDir {path : Path} {ino : Ino} (filed : Filed resolver volume path ino volume') :
    volume'.isDir ino = false := by
  obtain ⟨_, entry, dir, linked, kind, _, refers, _, relisted, new, isFile, _, made⟩ := filed
  rw [made]
  show linuxSIsdir (Function.update linked.mode ino kind ino) = false
  rw [Function.update_self]
  exact isFile

/-- Nothing of the census differs, and no mode. -/
structure SameCensus (volume volume' : Volume) : Prop where
  census : volume'.census = volume.census
  inodesCount : volume'.inodesCount = volume.inodesCount
  mode : volume'.mode = volume.mode

theorem SameCensus.refl (volume : Volume) : SameCensus volume volume := ⟨rfl, rfl, rfl⟩

theorem SameCensus.trans {first second third : Volume} (before : SameCensus first second)
    (after : SameCensus second third) : SameCensus first third :=
  ⟨after.census.trans before.census, after.inodesCount.trans before.inodesCount,
    after.mode.trans before.mode⟩

/-- A file call on a fresh handle of a file changes no directory. -/
theorem sameCensus_emptied {file : Ptr} {handle : Handle}
    {changes : List DirEntry → List DirEntry → Prop} (found : volume.files file = some handle)
    (isFile : volume.isDir handle.ino = false) (mode : handle.mode = volume.mode handle.ino)
    (links : handle.links = volume.links handle.ino)
    (wrote : FileWritten volume file changes volume') : SameCensus volume volume' := by
  rw [FileWritten, found] at wrote
  obtain ⟨entries, target, _, unlisted, _, like⟩ := wrote
  rw [mode, links, Volume.written_self, or_self, unlisted isFile] at like
  obtain ⟨fits, grows, equal⟩ := like
  have same : (volume.setContent handle.ino (volume.entries handle.ino) target).census =
      volume.census := by
    rw [Volume.setContent, Volume.setEntries_self]
    rfl
  rw [equal]
  exact ⟨same, rfl, rfl⟩

theorem sameCensus_resized {file : Ptr} {handle : Handle} (found : volume.files file = some handle)
    (isFile : volume.isDir handle.ino = false) (mode : handle.mode = volume.mode handle.ino)
    (links : handle.links = volume.links handle.ino) (resized : FileResized volume file volume') :
    SameCensus volume volume' := by
  obtain ⟨files, same, _, wrote⟩ := resized.written
  have emptied : SameCensus { volume with files := files } volume' :=
    sameCensus_emptied (same.trans found) isFile mode links wrote
  exact ⟨emptied.census, emptied.inodesCount, emptied.mode⟩

/-- What is opened keeps its entries, unless it is a directory that is emptied. -/
theorem openFound_same (flags : BitVec 32) (found : Int × Ino)
    (kept : found.1 = 0 → hasFlag flags O_TRUNC = true → volume.isDir found.2 = false) :
    wp (libext2fs resolver steady) (openFound flags found)
      (fun ret volume' => SameCensus volume volume' ∧ (found.1 ≠ 0 → ret = found.1)) volume := by
  have opened (fine : found.1 = 0) : wp (libext2fs resolver steady) (openInode flags found.2)
      (fun ret volume' => SameCensus volume volume' ∧ (found.1 ≠ 0 → ret = found.1)) volume := by
    rw [openInode, wp_bind]
    apply wp_library (.fileOpen found.2 _)
    intro answer volume₁ allowed
    dsimp only
    rw [wp_ite]
    rcases allowed with ⟨zero, _, _, same⟩ | ⟨bad, same⟩
    · have same₁ : SameCensus volume volume₁ := same ▸ ⟨rfl, rfl, rfl⟩
      refine ⟨fun bad => absurd zero bad, fun _ => ?_⟩
      rw [wp_ite]
      refine ⟨fun truncated => ?_, fun _ => ⟨same₁, fun bad => absurd fine bad⟩⟩
      rw [wp_bind]
      apply wp_library (.fileSetSize answer.2 0)
      intro code volume₂ allowed
      have same₂ : SameCensus volume₁ volume₂ := by
        rw [same] at allowed ⊢
        exact sameCensus_resized (Function.update_self _ _ _) (kept fine truncated) rfl rfl allowed
      have both := same₁.trans same₂
      rw [wp_ite]
      exact ⟨fun _ => ⟨both, fun bad => absurd fine bad⟩, fun _ => ⟨both, fun bad => absurd fine bad⟩⟩
    · rw [same]
      exact ⟨fun _ => ⟨.refl volume, fun bad => absurd fine bad⟩, fun zero => absurd bad zero⟩
  rw [openFound, wp_ite]
  refine ⟨fun _ => ⟨.refl volume, fun _ => rfl⟩, fun fine => ?_⟩
  have opens := opened (not_not.mp fine)
  rw [wp_ite]
  refine ⟨fun _ => ?_, fun _ => opens⟩
  rw [wp_bind]
  apply wp_library (.checkDirectory found.2)
  intro code volume₁ checked
  rw [checked.1, wp_ite]
  exact ⟨fun _ => ⟨.refl volume, fun bad => absurd (not_not.mp fine) bad⟩, fun _ => opens⟩

/-- A file was created for a path that leads nowhere. -/
def Created (resolver : Resolver) (volume : Volume) (path : Path) (flags : BitVec 32) (ino : Ino)
    (volume' : Volume) : Prop :=
  (∀ found, resolver.lookedUp volume path flags = .ok found → found = 0) ∧ hasFlag flags O_CREAT = true ∧
    Filed resolver volume path ino volume'

/-- What `findOrCreate` gives: a failure, the inode of the path, or a new one. -/
theorem findOrCreate_found (calm : steady) (closed : resolver.Closed)
    (formed : volume.WellFormed exact rooted) (path : Path) (flags mode : BitVec 32) :
    wp (libext2fs resolver steady) (findOrCreate path flags mode)
      (fun found volume' => found.1 < 0 ∧ volume.Like volume' ∨
        found.1 = 0 ∧ hasFlag flags O_EXCL = false ∧ resolver.lookedUp volume path flags = .ok found.2 ∧
          volume' = volume ∨
        ∃ ino, Created resolver volume path flags ino volume' ∧ (found = (0, ino) ∨ found.1 < 0))
      volume := by
  have unchanged : volume.Like volume := ⟨volume.fits, volume.grows, rfl⟩
  have negative {code : Errcode} (bad : code ≠ 0) : -(code : Int) < 0 :=
    Int.neg_neg_of_pos (Int.natCast_pos.mpr (Nat.pos_of_ne_zero bad))
  rw [findOrCreate, wp_bind]
  apply wp_mono (stringToInode_both calm path (!hasFlag flags O_NOFOLLOW))
  intro ino volume₁ outcome
  obtain ⟨same, there, missing⟩ := outcome
  rw [same, wp_ite]
  refine ⟨fun zero => ?_, fun positive => ?_⟩
  · rw [wp_ite]
    refine ⟨fun _ => .inl ⟨by decide, unchanged⟩, fun creates => ?_⟩
    have nowhere (found : Ino) (looks : resolver.lookedUp volume path flags = .ok found) : found = 0 :=
      (missing found looks).trans zero
    rw [wp_bind]
    apply wp_mono (createFile_filed calm closed formed path flags mode nowhere)
    intro created volume₂ outcome
    dsimp only
    rw [wp_ite]
    rcases outcome with ⟨bad, like⟩ | filed
    · exact ⟨fun _ => .inl ⟨negative bad, like⟩, fun fine => absurd bad fine⟩
    · have made : Created resolver volume path flags created.2 volume₂ :=
        ⟨nowhere, by simpa using creates, filed⟩
      exact ⟨fun bad => .inr (.inr ⟨created.2, made, .inr (negative bad)⟩),
        fun _ => .inr (.inr ⟨created.2, made, .inl rfl⟩)⟩
  · rw [wp_ite]
    refine ⟨fun _ => .inl ⟨by decide, unchanged⟩, fun inclusive => ?_⟩
    exact .inr (.inl ⟨rfl, Bool.eq_false_iff.mpr inclusive, there positive, rfl⟩)

/-- `node_ext2fs_open` opens what the path leads to, or creates a file. When it fails it may have done
so, too. -/
theorem nodeExt2fsOpen_opened (calm : steady) (closed : resolver.Closed)
    (formed : volume.WellFormed exact rooted) (path : Path) (flags mode : BitVec 32)
    (kept : ∀ ino, resolver.lookedUp volume path flags = .ok ino → volume.isDir ino = true →
      hasFlag flags O_TRUNC = true → hasFlag flags O_EXCL = true) :
    wp (libext2fs resolver steady) (nodeExt2fsOpen path flags mode)
      (fun ret volume' =>
        (ret < 0 ∨ ∃ ino, resolver.lookedUp volume path flags = .ok ino) ∧ SameCensus volume volume' ∨
        ∃ ino made, Created resolver volume path flags ino made ∧ SameCensus made volume') volume := by
  rw [nodeExt2fsOpen_eq, wp_bind]
  apply wp_mono (findOrCreate_found calm closed formed path flags mode)
  intro found volume₁ outcome
  rcases outcome with ⟨negative, like⟩ | ⟨zero, inclusive, looks, same⟩ | ⟨ino, created, answer⟩
  · have bad := Int.ne_of_lt negative
    apply wp_mono (openFound_same flags found fun zero => absurd zero bad)
    intro ret volume₂ opened
    obtain ⟨fits, grows, equal⟩ := like
    rw [equal] at opened
    refine .inl ⟨.inl ?_, ⟨opened.1.census, opened.1.inodesCount, opened.1.mode⟩⟩
    rw [opened.2 bad]
    exact negative
  · rw [same]
    apply wp_mono (openFound_same flags found fun _ truncated => ?_)
    · intro ret volume₂ opened
      exact .inl ⟨.inr ⟨found.2, looks⟩, opened.1⟩
    · cases directory : volume.isDir found.2 with
      | false => rfl
      | true => exact absurd (inclusive.symm.trans (kept found.2 looks directory truncated)) Bool.noConfusion
  · apply wp_mono (openFound_same flags found fun zero _ => ?_)
    · intro ret volume₂ opened
      exact .inr ⟨ino, volume₁, created, opened.1⟩
    · rcases answer with same | negative
      · rw [same]
        exact filed_isDir created.2.2
      · exact absurd zero (Int.ne_of_lt negative)

/-- `node_ext2fs_open` adds a file, or leaves the names alone. -/
theorem nodeExt2fsOpen_formed (calm : steady) (closed : resolver.Closed)
    (formed : volume.WellFormed exact rooted) (path : Path) (flags mode : BitVec 32)
    (kept : ∀ ino, resolver.lookedUp volume path flags = .ok ino → volume.isDir ino = true →
      hasFlag flags O_TRUNC = true → hasFlag flags O_EXCL = true) :
    wp (libext2fs resolver steady) (nodeExt2fsOpen path flags mode)
      (fun _ volume' => volume'.WellFormed exact rooted) volume := by
  apply wp_mono (nodeExt2fsOpen_opened calm closed formed path flags mode kept)
  intro ret volume' outcome
  rcases outcome with ⟨_, same⟩ | ⟨_, _, created, same⟩
  · exact formed_same formed same.census same.inodesCount
  · exact formed_same (formed_filed formed created.2.2) same.census same.inodesCount

end NodeExt2fs.Trees
