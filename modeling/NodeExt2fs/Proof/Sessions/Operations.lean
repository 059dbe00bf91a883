import NodeExt2fs.Construction.Js.Sessions
import NodeExt2fs.Proof.Sessions.Spared

/-!
This file finds the operations that may free an inode, and says when they do not.
-/

namespace NodeExt2fs.Sessions
open Programs Glue Library
open Program (wp wp_pure wp_bind wp_ite wp_mono wp_and wp_true Only only_bind only_ite)

variable {spared : Ino → Prop}

theorem basic_spares (call : Call) (listed : upkeep call = true) : sparing spared call := by
  cases call <;> trivial

/-- An inode that is not spared may be freed. -/
theorem frees_apart {ino : Ino} (apart : ¬spared ino) : Frees (sparing spared) ino :=
  ⟨fun _ => trivial, fun _ => apart, fun _ => .inr apart⟩

/-- An inode may be added. -/
theorem adds_spares : Adds (sparing spared) :=
  ⟨fun _ => trivial, fun _ _ _ _ => trivial, fun _ => .inl Int.one_pos⟩

theorem renameMove_only (fromIno fromDirIno toDirIno : Ino) (toName : Name) (fromPath : Path) :
    (renameMove fromIno fromDirIno toDirIno toName fromPath).Only (sparing spared) := by
  rw [renameMove]
  apply only_bind (only_call (.readInode fromIno) trivial)
  intro answer
  apply only_ite
  · exact translateError_only (records_basic basic_spares) _
  · apply only_bind (expanding_only trivial (only_call (.link toDirIno toName fromIno _) trivial))
    intro err
    apply only_ite
    · exact translateError_only (records_basic basic_spares) _
    · apply only_bind (renameDotdot_only (records_basic basic_spares) (fun _ _ => trivial) _ _ _)
      intro ret
      apply only_ite
      · trivial
      · exact renameFinish_only basic_spares (fun _ _ => trivial) _ _ _

section Opening

variable {resolver : Resolver} {steady : Prop} {volume : Volume}

/-- The inodes whose blocks an open may punch: that of its path, or a free one for a new file. -/
def Truncates (resolver : Resolver) (volume : Volume) (path : Path) (flags : BitVec 32) (ino : Ino) :
    Prop :=
  hasFlag flags O_TRUNC = true ∧
    (resolver.lookedUp volume path flags = .ok ino ∧ hasFlag flags O_EXCL = false ∧
        (hasFlag flags O_DIRECTORY = true → volume.isDir ino = true) ∨
      hasFlag flags O_CREAT = true ∧ volume.inUse ino = false)

/-- A new file has an inode that was free. -/
theorem createFile_unused (path : Path) (mode : BitVec 32) :
    wp (libext2fs resolver steady) (createFile path mode)
      (fun answer _ => answer.1 = 0 → volume.inUse answer.2 = false) volume := by
  rw [createFile, wp_bind]
  apply wp_mono (getParentDirIno_found path)
  intro parentIno volume₁ located
  rw [located.1, wp_ite]
  refine ⟨fun _ bad => absurd bad (by decide), fun _ => ?_⟩
  rw [wp_bind]
  apply wp_library (.newInode parentIno mode)
  intro answer volume₂ allowed
  rw [wp_ite]
  refine ⟨fun bad zero => absurd zero bad, fun fine => ?_⟩
  have unused : volume.inUse answer.2 = false := (allowed.2 (not_not.mp fine)).2.2
  cases getFilename path with
  | none => exact fun _ => unused
  | some filename =>
      dsimp only
      rw [wp_bind]
      apply wp_mono (wp_true (fun _ _ => trivial) _ _)
      intro ret volume₃ _
      rw [wp_ite]
      refine ⟨fun _ _ => unused, fun _ => ?_⟩
      rw [wp_bind]
      apply wp_mono (wp_true (fun _ _ => trivial) _ _)
      exact fun _ _ _ _ => unused

/-- An open goes on with the inode of its path, or with a free one. -/
theorem findOrCreate_lands (path : Path) (flags mode : BitVec 32) :
    wp (libext2fs resolver steady) (findOrCreate path flags mode)
      (fun found volume' => found.1 ≤ 0 ∧ (found.1 = 0 →
        resolver.lookedUp volume path flags = .ok found.2 ∧ hasFlag flags O_EXCL = false ∧
            volume' = volume ∨
          hasFlag flags O_CREAT = true ∧ volume.inUse found.2 = false)) volume := by
  rw [findOrCreate, wp_bind]
  apply wp_mono (stringToInode_found path _)
  intro ino volume₁ looked
  obtain ⟨same, there⟩ := looked
  rw [same, wp_ite]
  apply And.intro
  · intro _
    rw [wp_ite]
    refine ⟨fun _ => ⟨by decide, fun bad => absurd bad (by decide)⟩, fun creates => ?_⟩
    rw [wp_bind]
    apply wp_mono (createFile_unused path mode)
    intro created volume₂ unused
    rw [wp_ite]
    refine ⟨fun bad => ?_, fun fine => ⟨le_rfl, fun _ => .inr ⟨?_, unused (not_not.mp fine)⟩⟩⟩
    · have negative := neg_errcode_lt_zero.mpr bad
      exact ⟨negative.le, fun zero => absurd zero negative.ne⟩
    · simpa using creates
  · intro found
    rw [wp_ite]
    refine ⟨fun _ => ⟨by decide, fun bad => absurd bad (by decide)⟩, fun shared => ⟨le_rfl, fun _ => ?_⟩⟩
    exact .inl ⟨there found, Bool.eq_false_iff.mpr shared, rfl⟩

/-- The files that were whole stay so unless their inode is opened with a truncation, and so is the
new file. -/
theorem openInode_whole (flags : BitVec 32) (ino : Ino) {held : Ptr → Prop}
    (whole : ∀ fd, held fd → ∀ handle, volume.files fd = some handle → Whole volume handle)
    (apart : hasFlag flags O_TRUNC = true → ∀ fd, held fd → ∀ handle, volume.files fd = some handle →
      handle.ino ≠ ino) :
    wp (libext2fs resolver steady) (openInode flags ino)
      (fun ret volume' => ∀ fd, held fd ∨ 0 ≤ ret ∧ fd = ret.toNat → ∀ handle,
        volume'.files fd = some handle → Whole volume' handle) volume := by
  have negative {code : Errcode} (bad : code ≠ 0) {fd : Ptr}
      (either : held fd ∨ 0 ≤ -(code : Int) ∧ fd = (-(code : Int)).toNat) : held fd :=
    either.resolve_right fun new => absurd new.1 (not_le.mpr (neg_errcode_lt_zero.mpr bad))
  rw [openInode, wp_bind]
  apply wp_library (.fileOpen ino _)
  intro answer volume₁ allowed
  rw [wp_ite]
  rcases allowed with ⟨zero, positive, free, same⟩ | ⟨bad, same⟩
  · refine ⟨fun bad => absurd zero bad, fun _ => ?_⟩
    have opened : volume₁.files answer.2 = some
        { ino := ino
          mode := volume.mode ino
          links := volume.links ino
          wasInUse := volume.inUse ino
          intact := true } := by
      rw [same]
      exact Function.update_self _ _ _
    have others {fd : Ptr} {handle : Handle} (found : volume₁.files fd = some handle)
        (other : fd ≠ answer.2) : volume.files fd = some handle := by
      rw [same] at found
      simpa only [Volume.setFile, Function.update_of_ne other] using found
    have wholly (fd : Ptr) (either : held fd ∨ fd = answer.2) (handle : Handle)
        (found : volume₁.files fd = some handle) : Whole volume₁ handle := by
      by_cases new : fd = answer.2
      · rw [new, opened] at found
        rw [← Option.some.inj found, same]
        exact ⟨rfl, id⟩
      · have kept := whole fd (either.resolve_right new) handle (others found new)
        rw [same]
        exact kept
    rw [wp_ite]
    refine ⟨fun truncated => ?_, fun _ fd either handle found => ?_⟩
    · rw [wp_bind]
      apply wp_library (.fileSetSize answer.2 0)
      intro code volume₂ resized
      have kept (fd : Ptr) (either : held fd ∨ fd = answer.2) (handle : Handle)
          (found : volume₂.files fd = some handle) : Whole volume₂ handle := by
        apply whole_of_resized opened resized found
        intro before first
        refine ⟨wholly fd either before first, ?_⟩
        by_cases new : fd = answer.2
        · exact .inl new
        · exact .inr (apart truncated fd (either.resolve_right new) before (others first new))
      rw [wp_ite]
      refine ⟨fun bad fd either => kept fd (.inl (negative bad either)), fun _ fd either => ?_⟩
      exact kept fd (either.imp_right fun new => new.2)
    · exact wholly fd (either.imp_right fun new => new.2) handle found
  · rw [same]
    exact ⟨fun bad fd either => whole fd (negative bad either), fun zero => absurd bad zero⟩

/-- What `node_ext2fs_open` leaves of the files that were whole. -/
theorem nodeExt2fsOpen_whole (path : Path) (flags mode : BitVec 32) {held : Ptr → Prop}
    (whole : ∀ fd, held fd → ∀ handle, volume.files fd = some handle → Whole volume handle)
    (apart : ∀ ino, Truncates resolver volume path flags ino → ∀ fd, held fd → ∀ handle,
      volume.files fd = some handle → handle.ino ≠ ino) :
    wp (libext2fs resolver steady) (nodeExt2fsOpen path flags mode)
      (fun ret volume' => ∀ fd, held fd ∨ 0 ≤ ret ∧ fd = ret.toNat → ∀ handle,
        volume'.files fd = some handle → Whole volume' handle) volume := by
  rw [nodeExt2fsOpen_eq, wp_bind]
  have spares := @wp_spares (fun _ => True) resolver steady _ _
    (findOrCreate_only (makes_basic basic_spares) adds_spares path flags mode) volume
  apply wp_mono (wp_and spares (findOrCreate_lands path flags mode))
  intro found volume₁ outcome
  obtain ⟨spares, negative, lands⟩ := outcome
  have still (fd : Ptr) (mine : held fd) (handle : Handle)
      (there : volume₁.files fd = some handle) : Whole volume₁ handle :=
    spares.whole there fun before first => ⟨trivial, whole fd mine before first⟩
  rw [openFound, wp_ite]
  refine ⟨fun bad fd either => still fd (either.resolve_right fun new => ?_), fun fine => ?_⟩
  · exact absurd new.1 (not_le.mpr (lt_of_le_of_ne negative bad))
  have opens (listed : hasFlag flags O_DIRECTORY = true → volume₁.isDir found.2 = true) :
      wp (libext2fs resolver steady) (openInode flags found.2)
        (fun ret volume' => ∀ fd, held fd ∨ 0 ≤ ret ∧ fd = ret.toNat → ∀ handle,
          volume'.files fd = some handle → Whole volume' handle) volume₁ := by
    apply openInode_whole flags found.2 still
    intro truncated fd mine handle there
    obtain ⟨before, first, ino, _⟩ := spares.files fd handle there
    rw [ino]
    refine apart found.2 ⟨truncated, ?_⟩ fd mine before first
    rcases lands (not_not.mp fine) with ⟨looked, shared, same⟩ | new
    · exact .inl ⟨looked, shared, same ▸ listed⟩
    · exact .inr new
  rw [wp_ite]
  refine ⟨fun only => ?_, fun free => opens fun only => absurd only free⟩
  rw [wp_bind]
  apply wp_library (.checkDirectory found.2)
  intro code volume₂ checked
  rw [checked.1, wp_ite]
  refine ⟨fun _ fd either => still fd (either.resolve_right fun new => ?_), fun listed => ?_⟩
  · exact absurd new.1 (by decide)
  · exact opens fun _ => checked.2.1 (not_not.mp listed)

end Opening

section Removal

variable {resolver : Resolver} {steady : Prop} {volume : Volume}

/-- The removal of a path finds its name. -/
def Takes (resolver : Resolver) (volume : Volume) (path : Path) : Prop :=
  ∃ dir name, Located resolver volume path dir name ∧ volume.isDir dir = true ∧
    (volume.find dir name).isSome = true

/-- A removed name frees no inode. -/
theorem unlinkFileByName_spares (path : Path) :
    wp (libext2fs resolver steady) (unlinkFileByName path)
      (fun ret volume' => Spares spared volume volume' ∧
        (ret = 0 → Takes resolver volume path ∧ volume'.links = volume.links)) volume := by
  apply wp_mono (unlinkFileByName_erased path)
  intro ret volume' removed
  rcases removed with ⟨dir, name, located, ⟨directory, present, fits, grows, same⟩, _⟩ | ⟨same, bad, _⟩
  · rw [same]
    refine ⟨.of_files rfl fun _ _ used => used, fun _ => ?_⟩
    exact ⟨⟨dir, name, located, directory, present⟩, rfl⟩
  · rw [same]
    exact ⟨.refl volume, fun zero => absurd zero bad⟩

theorem Spares.counted (ino : Ino) : Spares spared volume (volume.counted ino) := by
  rw [Volume.counted]
  by_cases unlinked : volume.links ino = 0
  · rw [if_pos unlinked]
    exact .refl volume
  · rw [if_neg unlinked]
    exact .of_files rfl fun _ _ used => used

/-- An inode with other names loses one link. -/
theorem removeInode_spares (ino : Ino) (safe : volume.links ino = 1 → ¬spared ino) :
    wp (libext2fs resolver steady) (removeInode ino)
      (fun ret volume' => Spares spared volume volume' ∧
        (ret = 0 → volume.links ino ≠ 1 → volume' = volume.counted ino)) volume := by
  by_cases last : volume.links ino = 1
  · apply wp_mono
      (wp_spares (removeInode_only (records_basic basic_spares) ino (frees_apart (safe last))) volume)
    intro ret volume' spares
    exact ⟨spares, fun _ other => absurd last other⟩
  · apply wp_mono (removeInode_counted ino last)
    intro ret volume' counted
    rcases counted with ⟨same, _⟩ | ⟨same, bad, _⟩
    · rw [same]
      exact ⟨.counted ino, fun _ _ => rfl⟩
    · rw [same]
      exact ⟨.refl volume, fun zero => absurd zero bad⟩

/-- The routine starts where some inodes were spared. -/
theorem spares_later {A : Type} {routine : Routine A} {between : Volume}
    (before : Spares spared volume between)
    (later : wp (libext2fs resolver steady) routine (fun _ volume' => Spares spared between volume')
      between) :
    wp (libext2fs resolver steady) routine (fun _ volume' => Spares spared volume volume') between :=
  wp_mono later fun _ _ after => before.trans _ _ _ after

theorem spares_quiet {A : Type} {routine : Routine A}
    (only : routine.Only (sparing spared)) {between : Volume}
    (before : Spares spared volume between) :
    wp (libext2fs resolver steady) routine (fun _ volume' => Spares spared volume volume') between :=
  spares_later before (wp_spares only between)

/-- A removed name frees no inode, so it matters only what comes after it. -/
theorem continuing_spares {path : Path} {next : Routine Int}
    (rest : ∀ between, Takes resolver volume path → between.links = volume.links →
      wp (libext2fs resolver steady) next (fun _ volume' => Spares spared between volume') between) :
    wp (libext2fs resolver steady) (continuing (unlinkFileByName path) next)
      (fun _ volume' => Spares spared volume volume') volume := by
  apply wp_continuing
  apply wp_mono (unlinkFileByName_spares path)
  intro ret between removed
  obtain ⟨spares, taken⟩ := removed
  refine ⟨fun _ => spares, fun zero => ?_⟩
  obtain ⟨takes, links⟩ := taken zero
  exact spares_later spares (rest between takes links)

/-- `unlink` frees the inode of a file with one link. -/
theorem nodeExt2fsUnlink_spares (path : Path)
    (safe : ∀ ino, resolver.walk volume path = .ok ino → Takes resolver volume path →
      volume.links ino = 1 → ¬spared ino) :
    wp (libext2fs resolver steady) (nodeExt2fsUnlink path)
      (fun _ volume' => Spares spared volume volume') volume := by
  rw [nodeExt2fsUnlink, wp_bind]
  apply wp_library (.namei path)
  intro answer volume₁ found
  rw [found.1, wp_ite]
  apply And.intro
  · intro _
    exact spares_quiet (translateError_only (records_basic basic_spares) _) (.refl volume)
  · intro fine
    have walked := (walk_of_resolved found.2 (not_not.mp fine)).1
    rw [wp_bind]
    apply wp_library (.checkDirectory answer.2)
    intro code volume₂ checked
    rw [checked.1, wp_ite]
    apply And.intro
    · intro _
      exact .refl volume
    · intro _
      apply continuing_spares
      intro between takes links
      apply wp_mono (removeInode_spares answer.2 ?_)
      · intro _ volume' removed
        exact removed.1
      · intro last
        rw [links] at last
        exact safe answer.2 walked takes last

/-- The end of `rmdir`. -/
theorem removeTwice_spares (child parent : Ino)
    (safe : volume.links child = 1 ∨ volume.links child = 2 → ¬spared child) :
    wp (libext2fs resolver steady)
      (removeTwice child (if parent ≠ 0 then dropParentLink parent else return 0))
      (fun _ volume' => Spares spared volume volume') volume := by
  apply wp_continuing
  apply wp_mono (removeInode_spares child fun last => safe (.inl last))
  intro ret volume₁ removed
  obtain ⟨spares, counted⟩ := removed
  apply And.intro
  · intro _
    exact spares
  · intro zero
    apply wp_continuing
    have again : volume₁.links child = 1 → ¬spared child := by
      intro last
      by_cases first : volume.links child = 1
      · exact safe (.inl first)
      · refine safe (.inr ?_)
        rw [counted zero first, Volume.counted] at last
        by_cases unlinked : volume.links child = 0
        · rw [if_pos unlinked, unlinked] at last
          cases last
        · rw [if_neg unlinked] at last
          simp only [Volume.written, Function.update_self] at last
          exact sub_eq_iff_eq_add.mp last
    apply wp_mono (removeInode_spares child again)
    intro ret volume₂ removed
    have spares := spares.trans _ _ _ removed.1
    apply And.intro
    · intro _
      exact spares
    · intro _
      rw [wp_ite]
      apply And.intro
      · intro _
        exact spares_quiet (dropParentLink_only (records_basic basic_spares) parent) spares
      · intro _
        exact spares

/-- `rmdir` frees the inode of an empty directory, which has a link of its own. -/
theorem nodeExt2fsRmdir_spares (path : Path)
    (safe : ∀ ino, resolver.walk volume path = .ok ino → Takes resolver volume path →
      volume.FoundEmpty ino → volume.links ino = 1 ∨ volume.links ino = 2 → ¬spared ino) :
    wp (libext2fs resolver steady) (nodeExt2fsRmdir path)
      (fun _ volume' => Spares spared volume volume') volume := by
  rw [nodeExt2fsRmdir, wp_bind]
  apply wp_library (.namei path)
  intro answer volume₁ found
  rw [found.1, wp_ite]
  apply And.intro
  · intro _
    exact spares_quiet (translateError_only (records_basic basic_spares) _) (.refl volume)
  · intro fine
    have walked := (walk_of_resolved found.2 (not_not.mp fine)).1
    rw [wp_bind]
    apply wp_library (.dirIterate answer.2 .rmdirProc)
    intro visited volume₂ iterated
    rw [(rmdirProc_effect iterated).1, wp_ite]
    apply And.intro
    · intro _
      exact spares_quiet (translateError_only (records_basic basic_spares) _) (.refl volume)
    · intro listed
      have entries := ((rmdirProc_effect iterated).2 (not_not.mp listed)).2
      simp only [entries]
      rw [wp_ite]
      apply And.intro
      · intro _
        exact .refl volume
      · intro vacant
        have vacant : volume.FoundEmpty answer.2 := by
          rw [Volume.FoundEmpty]
          simpa only [Bool.not_eq_true', Bool.not_eq_false] using vacant
        apply continuing_spares
        intro between takes links
        have freed := safe answer.2 walked takes vacant
        rw [← links] at freed
        exact removeTwice_spares answer.2 _ freed

/-- What frees the inode of a path that is replaced. -/
def LastLinks (volume : Volume) (ino : Ino) : Prop :=
  if volume.isDir ino = true then
    volume.FoundEmpty ino ∧ (volume.links ino = 1 ∨ volume.links ino = 2)
  else volume.links ino = 1

theorem renameTarget_spares (toIno : Ino) (toPath : Path)
    (safe : resolver.walk volume toPath = .ok toIno → Takes resolver volume toPath →
      LastLinks volume toIno → ¬spared toIno)
    (found : toIno ≠ 0 → resolver.walk volume toPath = .ok toIno) :
    wp (libext2fs resolver steady) (renameTarget toIno toPath)
      (fun _ volume' => Spares spared volume volume') volume := by
  rw [renameTarget, wp_ite]
  apply And.intro
  · intro there
    have walked := found there
    rw [wp_bind]
    apply wp_library (.readInode toIno)
    intro answer volume₁ allowed
    obtain ⟨same, read, _⟩ := allowed
    rw [same, wp_ite]
    apply And.intro
    · intro _
      exact spares_quiet (translateError_only (records_basic basic_spares) _) (.refl volume)
    · intro fine
      have mode : answer.2.iMode = volume.mode toIno := (read (not_not.mp fine)).1
      rw [mode, wp_ite]
      apply And.intro
      · intro directory
        apply nodeExt2fsRmdir_spares toPath
        intro ino walked' takes vacant links
        have same : toIno = ino := Except.ok.inj (walked.symm.trans walked')
        rw [← same] at vacant links ⊢
        apply safe walked takes
        rw [LastLinks, if_pos (show volume.isDir toIno = true from directory)]
        exact ⟨vacant, links⟩
      · intro plain
        apply nodeExt2fsUnlink_spares toPath
        intro ino walked' takes links
        have same : toIno = ino := Except.ok.inj (walked.symm.trans walked')
        rw [← same] at links ⊢
        apply safe walked takes
        rw [LastLinks, if_neg (show ¬volume.isDir toIno = true from plain)]
        exact links
  · intro _
    exact .refl volume

/-- `rename` frees the inode that it replaces. -/
theorem nodeExt2fsRename_spares (fromPath toPath : Path)
    (safe : ∀ fromIno toIno, resolver.walk volume fromPath = .ok fromIno →
      resolver.walk volume toPath = .ok toIno → fromIno ≠ toIno → slash ∈ fromPath →
      slash ∈ toPath → Takes resolver volume toPath → LastLinks volume toIno → ¬spared toIno) :
    wp (libext2fs resolver steady) (nodeExt2fsRename fromPath toPath)
      (fun _ volume' => Spares spared volume volume') volume := by
  apply wp_rename (follows_of_refines (.refl _)) fromPath toPath fun _ => .refl volume
  intro fromIno toIno _ source _ target
  apply wp_renameBetween (follows_of_refines (.refl _)) fromPath toPath fromIno toIno
    fun _ => .refl volume
  intro fromDirIno toDirIno _ _ _ toName split split' _ _ _ _
  have first : slash ∈ fromPath := by
    rw [(strrchr_eq_some split).1]
    simp
  have second : slash ∈ toPath := by
    rw [(strrchr_eq_some split').1]
    simp
  have replaced : wp (libext2fs resolver steady) (renameTarget toIno toPath)
      (fun _ volume' => Spares spared volume volume') volume := by
    by_cases there : toIno = 0
    · rw [renameTarget, if_neg (not_not_intro there)]
      exact .refl volume
    · obtain ⟨walked, differ⟩ := target there
      exact renameTarget_spares toIno toPath
        (fun _ takes last => safe fromIno toIno source walked differ.symm first second takes last)
        fun _ => walked
  apply wp_mono replaced
  intro ret volume' spares
  exact ⟨fun _ => spares, fun _ => spares_quiet (renameMove_only _ _ _ _ _) spares⟩

end Removal

end NodeExt2fs.Sessions
