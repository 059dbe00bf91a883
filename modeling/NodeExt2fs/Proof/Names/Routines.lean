import NodeExt2fs.Proof.Library.Effects
import NodeExt2fs.Proof.Library.Shrinking

/-!
This file follows the names of directories through the operations.
-/

namespace NodeExt2fs.Names
open Programs Glue Library
open Program (wp wp_pure wp_bind wp_ite wp_mono Only only_bind only_ite only_perform)

/-- No directory has two entries of one name. -/
def UniqueNames (volume : Volume) : Prop := ∀ dir, (volume.names dir).Nodup

theorem UniqueNames.shrink {volume volume' : Volume} (unique : UniqueNames volume)
    (shrinks : volume.Shrinks volume') : UniqueNames volume' :=
  fun dir => (unique dir).sublist (shrinks dir)

theorem find_eq_none_iff {volume : Volume} {dir : Ino} {name : Name} :
    volume.find dir name = none ↔ name ∉ volume.names dir := by
  rw [Volume.find, List.find?_eq_none, Volume.names, List.mem_map]
  simp only [decide_eq_true_eq, not_exists, not_and]

/-- An entry of a new name may stand anywhere. -/
theorem UniqueNames.insert {volume volume' : Volume} (unique : UniqueNames volume) {dir : Ino}
    {entry : DirEntry} {before after : List DirEntry} (split : volume.entries dir = before ++ after)
    (absent : volume.find dir entry.name = none)
    (same : volume'.entries = Function.update volume.entries dir (before ++ entry :: after)) :
    UniqueNames volume' := by
  intro dir'
  rw [Volume.names, same]
  by_cases here : dir' = dir
  · have names := unique dir
    have fresh := find_eq_none_iff.mp absent
    rw [Volume.names, split] at names fresh
    rw [here, Function.update_self, List.map_append, List.map_cons, List.nodup_middle, List.nodup_cons,
      ← List.map_append]
    exact ⟨fresh, names⟩
  · rw [Function.update_of_ne here]
    exact unique dir'

/-- The first entry of a name is the only one. -/
theorem not_mem_eraseP {entries : List DirEntry} {name : Name}
    (unique : (entries.map DirEntry.name).Nodup) :
    name ∉ (entries.eraseP fun entry => entry.name = name).map DirEntry.name := by
  induction entries with
  | nil => exact List.not_mem_nil
  | cons entry rest ih =>
      obtain ⟨first, rest_unique⟩ := List.nodup_cons.mp unique
      by_cases same : entry.name = name
      · rw [List.eraseP_cons_of_pos (by simp [same]), ← same]
        exact first
      · rw [List.eraseP_cons_of_neg (by simp [same]), List.map_cons, List.mem_cons, not_or]
        exact ⟨fun other => same other.symm, ih rest_unique⟩

variable {resolver : Resolver} {steady : Prop} {volume : Volume}

theorem basic_shrinks (call : Call) (listed : upkeep call = true) : shrinking call = true := by
  cases call <;> first | rfl | cases listed

/-- A freed inode takes no name with it. -/
theorem frees_shrinks {ino : Ino} : Frees (fun call => shrinking call = true) ino :=
  ⟨fun _ => rfl, fun _ => rfl, fun _ => rfl⟩

/-- The name is gone from the directory, given that it was there at most once. -/
def Gone (volume volume' : Volume) (dir : Ino) (name : Name) : Prop :=
  volume.isDir dir = true ∧ (UniqueNames volume → name ∉ volume'.names dir)

theorem Gone.shrink {volume' volume'' : Volume} {dir : Ino} {name : Name}
    (gone : Gone volume volume' dir name) (shrinks : volume'.Shrinks volume'') :
    Gone volume volume'' dir name :=
  ⟨gone.1, fun unique member => gone.2 unique ((shrinks dir).mem member)⟩

theorem unlinkName_gone (dir : Ino) (name : Name) :
    wp (libext2fs resolver steady) (unlinkName dir name)
      (fun ret volume' => volume.Shrinks volume' ∧ (ret = 0 → Gone volume volume' dir name))
      volume := by
  unfold unlinkName
  rw [wp_bind]
  apply wp_library (.unlink dir name)
  intro code volume₁ allowed
  have shrinks := shrinks_of_effect rfl allowed
  rw [wp_ite]
  apply And.intro
  · intro bad
    apply wp_mono (translateError_quiet code)
    intro ret volume₂ ⟨same, failed⟩
    rw [same]
    exact ⟨shrinks, fun zero => absurd zero (failed bad)⟩
  · intro fine
    have gone : Gone volume volume₁ dir name := by
      rcases allowed with ⟨_, isDir, _, like⟩ | ⟨bad, _⟩
      · refine ⟨isDir, ?_⟩
        intro unique
        rw [like.names, Volume.names_setEntries]
        exact not_mem_eraseP (unique dir)
      · exact absurd bad fine
    rw [wp_bind]
    apply wp_mono (wp_shrinks (updateMtime_only (records_basic basic_shrinks) dir none) volume₁)
    intro answer volume₂ later
    exact ⟨shrinks.trans _ _ _ later, fun _ => gone.shrink later⟩

/-- On success, the last component of the path has gone from the directory of the rest. -/
def RemovedAt (resolver : Resolver) (volume volume' : Volume) (path : Path) : Prop :=
  ∀ before name, strrchr path = some (before, name) →
    ∃ dir, resolver.walk volume before = .ok dir ∧ Gone volume volume' dir name

theorem RemovedAt.shrink {volume' volume'' : Volume} {path : Path}
    (removed : RemovedAt resolver volume volume' path) (shrinks : volume'.Shrinks volume'') :
    RemovedAt resolver volume volume'' path := by
  intro before name split
  obtain ⟨dir, found, gone⟩ := removed before name split
  exact ⟨dir, found, gone.shrink shrinks⟩

/-- The end of a routine that removes the path or fails. -/
def Removes (resolver : Resolver) (volume : Volume) (path : Path) (ret : Int) (volume' : Volume) :
    Prop :=
  volume.Shrinks volume' ∧ (ret = 0 → RemovedAt resolver volume volume' path)

/-- A failure removes nothing and says so. -/
theorem failure_removes (err : Errcode) (bad : err ≠ 0) (path : Path) :
    wp (libext2fs resolver steady) (translateError err) (Removes resolver volume path) volume := by
  apply wp_mono (translateError_quiet err)
  intro ret volume' quiet
  rw [quiet.1]
  exact ⟨.refl volume, fun zero => absurd zero (quiet.2 bad)⟩

theorem unlinkFileByName_removes (path : Path) :
    wp (libext2fs resolver steady) (unlinkFileByName path) (Removes resolver volume path) volume := by
  unfold unlinkFileByName
  rcases split : strrchr path with _ | ⟨before, name⟩
  · apply wp_mono (unlinkName_gone EXT2_ROOT_INO path)
    intro ret volume' removed
    refine ⟨removed.1, ?_⟩
    intro _ before name split'
    rw [split] at split'
    cases split'
  · simp only [wp_bind]
    apply wp_library (.namei before)
    intro answer volume₁ allowed
    obtain ⟨same, resolved⟩ := allowed
    rw [same, wp_ite]
    apply And.intro
    · intro bad
      exact failure_removes answer.1 bad path
    · intro fine
      have found := walk_of_resolved resolved (not_not.mp fine)
      apply wp_mono (unlinkName_gone answer.2 name)
      intro ret volume' removed
      refine ⟨removed.1, ?_⟩
      intro zero before' name' split'
      rw [split] at split'
      cases split'
      exact ⟨answer.2, found.1, removed.2 zero⟩

/-- What comes after a removal keeps it. -/
theorem continuing_removes {path : Path} {next : Routine Int}
    (only : next.Only fun call => shrinking call = true) :
    wp (libext2fs resolver steady) (continuing (unlinkFileByName path) next)
      (Removes resolver volume path) volume := by
  apply wp_continuing
  apply wp_mono (unlinkFileByName_removes path)
  intro ret volume₁ removed
  refine ⟨fun _ => removed, fun zero => ?_⟩
  apply wp_mono (wp_shrinks only volume₁)
  intro ret' volume₂ shrinks
  exact ⟨removed.1.trans _ _ _ shrinks, fun _ => (removed.2 zero).shrink shrinks⟩

theorem nodeExt2fsUnlink_removes (path : Path) :
    wp (libext2fs resolver steady) (nodeExt2fsUnlink path) (Removes resolver volume path) volume := by
  unfold nodeExt2fsUnlink
  rw [wp_bind]
  apply wp_library (.namei path)
  intro answer volume₁ found
  rw [found.1, wp_ite]
  apply And.intro
  · intro bad
    exact failure_removes answer.1 bad path
  · intro _
    rw [wp_bind]
    apply wp_library (.checkDirectory answer.2)
    intro code volume₂ checked
    rw [checked.1, wp_ite]
    apply And.intro
    · intro _
      exact ⟨.refl volume, fun bad => absurd bad (by decide)⟩
    · intro _
      exact continuing_removes (removeInode_only (records_basic basic_shrinks) _ frees_shrinks)

theorem nodeExt2fsRmdir_removes (path : Path) :
    wp (libext2fs resolver steady) (nodeExt2fsRmdir path) (Removes resolver volume path) volume := by
  unfold nodeExt2fsRmdir
  rw [wp_bind]
  apply wp_library (.namei path)
  intro answer volume₁ found
  rw [found.1, wp_ite]
  apply And.intro
  · intro bad
    exact failure_removes answer.1 bad path
  · intro _
    rw [wp_bind]
    apply wp_library (.dirIterate answer.2 .rmdirProc)
    intro visited volume₂ iterated
    rw [(rmdirProc_effect iterated).1, wp_ite]
    apply And.intro
    · intro bad
      exact failure_removes visited.1 bad path
    · intro _
      rw [wp_ite]
      apply And.intro
      · intro _
        exact ⟨.refl volume, fun bad => absurd bad (by decide)⟩
      · intro _
        have removes := removeInode_only (records_basic basic_shrinks) answer.2 frees_shrinks
        apply continuing_removes
        apply continuing_only removes
        apply continuing_only removes
        exact only_ite (dropParentLink_only (records_basic basic_shrinks) _) trivial

theorem renameTarget_removes (toIno : Ino) (toPath : Path) (there : toIno ≠ 0) :
    wp (libext2fs resolver steady) (renameTarget toIno toPath) (Removes resolver volume toPath)
      volume := by
  unfold renameTarget
  rw [if_pos there, wp_bind]
  apply wp_library (.readInode toIno)
  intro answer volume₁ read
  rw [read.1, wp_ite]
  apply And.intro
  · intro bad
    exact failure_removes answer.1 bad toPath
  · intro _
    rw [wp_ite]
    exact ⟨fun _ => nodeExt2fsRmdir_removes toPath, fun _ => nodeExt2fsUnlink_removes toPath⟩

/-- A new entry of an absent name, after an expansion where it is needed. -/
theorem expanding_unique (unique : UniqueNames volume) {dir : Ino} {name : Name}
    (absent : name ∉ volume.names dir) (ino : Ino) (fileType : Nat) :
    wp (libext2fs resolver steady) (expanding dir (ext2fsLink dir name ino fileType))
      (fun _ volume' => UniqueNames volume') volume := by
  have linked {volume₁ volume₂ : Volume} {code : Errcode} (shrinks : volume.Shrinks volume₁)
      (allowed : effect resolver steady volume₁ (.link dir name ino fileType) code volume₂) :
      UniqueNames volume₂ ∧ (code ≠ 0 → volume₂ = volume₁) := by
    have unique₁ := unique.shrink shrinks
    rcases allowed with ⟨fine, _, ⟨before, after, split, like⟩⟩ | ⟨_, same, _⟩
    · refine ⟨unique₁.insert split ?_ like.entries, fun bad => absurd fine bad⟩
      apply find_eq_none_iff.mpr
      exact fun member => absent ((shrinks dir).mem member)
    · rw [same]
      exact ⟨unique₁, fun _ => rfl⟩
  unfold expanding
  rw [wp_bind]
  apply wp_library (.link dir name ino fileType)
  intro code volume₁ allowed
  have first := linked (.refl volume) allowed
  rw [wp_ite]
  apply And.intro
  · intro full
    have failed : code ≠ 0 := by
      rw [full]
      exact (by decide : EXT2_ET_DIR_NO_SPACE ≠ 0)
    rw [first.2 failed, wp_bind]
    apply wp_library (.expandDir dir)
    intro expanded volume₂ grown
    have shrinks := shrinks_of_effect rfl grown
    rw [wp_ite]
    apply And.intro
    · intro _
      exact unique.shrink shrinks
    · intro _
      apply wp_library (.link dir name ino fileType)
      intro code' volume₃ again
      exact (linked shrinks again).1
  · intro _
    exact first.1

/-- A routine that adds no name keeps the names unique. -/
theorem unique_of_only (unique : UniqueNames volume) {A : Type} {routine : Routine A}
    (only : routine.Only fun call => shrinking call = true) :
    wp (libext2fs resolver steady) routine (fun _ volume' => UniqueNames volume') volume :=
  wp_mono (wp_shrinks only volume) fun _ _ shrinks => unique.shrink shrinks

theorem renameMove_unique (unique : UniqueNames volume) {toDirIno : Ino} {toName : Name}
    (absent : toName ∉ volume.names toDirIno) (fromIno fromDirIno : Ino) (fromPath : Path) :
    wp (libext2fs resolver steady) (renameMove fromIno fromDirIno toDirIno toName fromPath)
      (fun _ volume' => UniqueNames volume') volume := by
  unfold renameMove
  rw [wp_bind]
  apply wp_library (.readInode fromIno)
  intro answer volume₁ read
  rw [read.1, wp_ite]
  apply And.intro
  · intro _
    exact unique_of_only unique (translateError_only (records_basic basic_shrinks) _)
  · intro _
    rw [wp_bind]
    apply wp_mono (expanding_unique unique absent fromIno _)
    intro code volume₂ unique
    rw [wp_ite]
    apply And.intro
    · intro _
      exact unique_of_only unique (translateError_only (records_basic basic_shrinks) _)
    · intro _
      apply unique_of_only unique
      apply only_bind (renameDotdot_only (records_basic basic_shrinks) (fun _ _ => rfl) _ _ _)
      intro ret
      apply only_ite
      · trivial
      · exact renameFinish_only basic_shrinks (fun _ _ => rfl) _ _ _

/-- Once the target has gone, or when there was none, its directory has no entry of its name. -/
theorem absent_of_walk {path before : Path} {name : Name} {dir : Ino} (nonempty : name ≠ [])
    (split : strrchr path = some (before, name))
    (parent : resolver.walk volume (before ++ [slash]) = .ok dir)
    (missing : resolver.walk volume path = .error EXT2_ET_FILE_NOT_FOUND) :
    name ∉ volume.names dir := by
  obtain ⟨joined, clean⟩ := strrchr_eq_some split
  rw [joined, resolver.walk_split volume before name nonempty clean, parent] at missing
  change volume.lookup dir name = _ at missing
  unfold Volume.lookup at missing
  by_cases isDir : volume.isDir dir = true
  · rw [if_pos isDir] at missing
    rcases found : volume.find dir name with _ | entry
    · exact find_eq_none_iff.mp found
    · simp only [found] at missing
      cases missing
  · rw [if_neg isDir] at missing
    exact absurd (Except.error.inj missing) (by decide)

theorem absent_of_removed {volume' : Volume} (unique : UniqueNames volume) {path before : Path}
    {name : Name} {dir : Ino} (split : strrchr path = some (before, name))
    (parent : resolver.walk volume (before ++ [slash]) = .ok dir)
    (removed : RemovedAt resolver volume volume' path) : name ∉ volume'.names dir := by
  obtain ⟨dir', found, isDir, gone⟩ := removed before name split
  have same := resolver.walk_slash volume before dir dir' parent found isDir
  rw [← same]
  exact gone unique

/-- A rename removes the target before it links the new name. -/
theorem nodeExt2fsRename_unique (unique : UniqueNames volume) (fromPath toPath : Path)
    (nonempty : ∀ before name, strrchr toPath = some (before, name) → name ≠ []) :
    wp (libext2fs resolver steady) (nodeExt2fsRename fromPath toPath)
      (fun _ volume' => UniqueNames volume') volume := by
  apply wp_rename (follows_of_refines (.refl _)) fromPath toPath fun _ => unique
  intro fromIno toIno _ _ missing _
  apply wp_renameBetween (follows_of_refines (.refl _)) fromPath toPath fromIno toIno fun _ => unique
  intro fromDirIno toDirIno _ _ before toName _ split _ parent _ _
  have cleared : wp (libext2fs resolver steady) (renameTarget toIno toPath)
      (fun ret volume' => volume.Shrinks volume' ∧
        (ret = 0 → toName ∉ volume'.names toDirIno)) volume := by
    by_cases there : toIno = 0
    · rw [renameTarget, if_neg (not_not_intro there)]
      exact ⟨.refl volume, fun _ =>
        absent_of_walk (nonempty before toName split) split parent (missing there)⟩
    · apply wp_mono (renameTarget_removes toIno toPath there)
      intro ret volume' removed
      exact ⟨removed.1, fun zero => absent_of_removed unique split parent (removed.2 zero)⟩
  apply wp_mono cleared
  intro ret volume' cleared
  obtain ⟨shrinks, absent⟩ := cleared
  exact ⟨fun _ => unique.shrink shrinks,
    fun zero => renameMove_unique (unique.shrink shrinks) (absent zero) _ _ _⟩

/-- `node_ext2fs_link` does not look for the new name itself. -/
theorem nodeExt2fsLink_unique (unique : UniqueNames volume) (src dest : Path)
    (absent : ∀ before name ino parent, strrchr dest = some (before, name) →
      resolver.walk volume src = .ok ino → resolver.walk volume (before ++ [slash]) = .ok parent →
      volume.find parent name = none) :
    wp (libext2fs resolver steady) (nodeExt2fsLink src dest)
      (fun _ volume' => UniqueNames volume') volume := by
  unfold nodeExt2fsLink
  rw [wp_bind]
  apply wp_library .strdup
  intro duplicated volume₁ same
  rw [show volume₁ = _ from same, wp_ite]
  refine ⟨fun _ => unique, fun _ => ?_⟩
  rcases split : strrchr dest with _ | ⟨before, name⟩
  · exact unique
  · simp only [wp_bind]
    apply wp_library (.namei (before ++ [slash]))
    intro parent volume₂ allowed
    obtain ⟨same, located⟩ := allowed
    rw [same, wp_ite]
    refine ⟨fun _ => unique, fun fine => ?_⟩
    have there := (walk_of_resolved located (not_not.mp fine)).1
    unfold linkInto
    rw [wp_bind]
    apply wp_library (.namei src)
    intro source volume₃ allowed
    obtain ⟨same, resolved⟩ := allowed
    rw [same, wp_ite]
    apply And.intro
    · intro _
      exact unique_of_only unique (translateError_only (records_basic basic_shrinks) _)
    · intro found
      have found := (walk_of_resolved resolved (not_not.mp fun bad => found (.inl bad))).1
      have fresh := find_eq_none_iff.mp (absent before name source.2 parent.2 split found there)
      rw [wp_bind]
      apply wp_library (.readInodeFull source.2)
      intro read volume₄ allowed
      rw [allowed.1, wp_ite]
      apply And.intro
      · intro _
        exact unique_of_only unique (translateError_only (records_basic basic_shrinks) _)
      · intro _
        rw [wp_bind]
        apply wp_mono (wp_shrinks (updateCtime_only (records_basic basic_shrinks) source.2 _) volume)
        intro stamped volume₅ shrinks
        rw [wp_ite]
        refine ⟨fun _ => unique.shrink shrinks, fun _ => ?_⟩
        rw [wp_bind]
        apply wp_library (.writeInodeFull source.2 _)
        intro code volume₆ allowed
        have shrinks := shrinks.trans _ _ _ (shrinks_of_effect rfl allowed)
        rw [wp_ite]
        apply And.intro
        · intro _
          exact unique_of_only (unique.shrink shrinks) (translateError_only (records_basic basic_shrinks) _)
        · intro _
          rw [wp_bind]
          apply wp_mono (expanding_unique (unique.shrink shrinks)
            (fun member => fresh ((shrinks parent.2).mem member)) source.2 _)
          intro code' volume₇ unique
          rw [wp_ite]
          apply And.intro
          · intro _
            exact unique_of_only unique (translateError_only (records_basic basic_shrinks) _)
          · intro _
            rw [wp_bind]
            exact unique_of_only unique (updateMtime_only (records_basic basic_shrinks) _ _)

/-- The new directory has the names of `dotEntries`, and its parent one more name. -/
theorem UniqueNames.makeDir {volume' : Volume} (unique : UniqueNames volume) {parent ino : Ino}
    {name : Name} {mode : BitVec 16} {before after : List DirEntry}
    (split : volume.entries parent = before ++ after) (absent : volume.find parent name = none)
    (like : (volume.makeDir parent ino name mode before after).Like volume') :
    UniqueNames volume' := by
  have inserted : UniqueNames (volume.setEntries parent
      (before ++ { inode := ino, name := name, fileType := EXT2_FT_DIR } :: after)) :=
    unique.insert split absent rfl
  intro dir
  rw [like.names]
  by_cases same : dir = ino
  · rw [same]
    simp only [Volume.names, Volume.makeDir, Function.update_self]
    exact (by decide : [dot, dotdot].Nodup)
  · have kept := inserted dir
    simp only [Volume.names, Volume.makeDir, Function.update_of_ne same]
    exact kept

theorem nodeExt2fsMkdir_unique (unique : UniqueNames volume) (path : Path) (mode : BitVec 32) :
    wp (libext2fs resolver steady) (nodeExt2fsMkdir path mode)
      (fun _ volume' => UniqueNames volume') volume := by
  unfold nodeExt2fsMkdir
  rw [wp_bind]
  apply wp_mono (unique_of_only unique (getParentDirIno_only (makes_basic basic_shrinks) path))
  intro parentIno volume₁ unique
  rw [wp_ite]
  refine ⟨fun _ => unique, fun _ => ?_⟩
  rcases getFilename path with _ | filename
  · exact unique
  · simp only [wp_bind]
    apply wp_library (.newInode parentIno _)
    intro newdir volume₂ allowed
    rw [allowed.1, wp_ite]
    refine ⟨fun _ => unique, fun _ => ?_⟩
    rw [wp_bind]
    apply wp_library (.mkdir parentIno newdir.2 filename)
    intro code volume₃ made
    have unique : UniqueNames volume₃ := by
      rcases made with ⟨_, _, absent, _, before, after, _, split, like⟩ | ⟨_, same⟩
      · exact unique.makeDir split absent like
      · rw [same]
        exact unique
    rw [wp_ite]
    refine ⟨fun _ => unique, fun _ => ?_⟩
    apply unique_of_only unique
    apply only_bind (only_upkeep basic_shrinks (.readInode newdir.2) rfl)
    intro answer
    apply only_ite
    · trivial
    · exact only_bind (only_upkeep basic_shrinks (.writeInode newdir.2 _) rfl) fun _ => trivial

theorem symlink_unique (unique : UniqueNames volume) (parent : Ino) (name target : Name) :
    wp (libext2fs resolver steady) (ext2fsSymlink parent name target)
      (fun _ volume' => UniqueNames volume') volume := by
  apply wp_library (.symlink parent name target)
  intro code volume' made
  rcases made with ⟨_, _, absent, ino, _, before, after, _, _, _, _, split, like⟩ | ⟨_, same⟩
  · exact unique.insert split absent like.entries
  · rw [same]
    exact unique

theorem nodeExt2fsSymlink_unique (unique : UniqueNames volume) (src dest : Path) :
    wp (libext2fs resolver steady) (nodeExt2fsSymlink src dest)
      (fun _ volume' => UniqueNames volume') volume := by
  unfold nodeExt2fsSymlink
  rw [wp_bind]
  apply wp_library .strdup
  intro duplicated volume₁ same
  rw [show volume₁ = _ from same, wp_ite]
  refine ⟨fun _ => unique, fun _ => ?_⟩
  rcases strrchr dest with _ | ⟨before, name⟩
  · exact unique
  · simp only [wp_bind]
    apply wp_library (.namei (before ++ [slash]))
    intro parent volume₂ allowed
    rw [allowed.1, wp_ite]
    apply And.intro
    · intro _
      exact unique_of_only unique (translateError_only (records_basic basic_shrinks) _)
    · intro _
      rw [wp_bind]
      have created : wp (libext2fs resolver steady)
          (expanding parent.2 (ext2fsSymlink parent.2 name src))
          (fun _ volume' => UniqueNames volume') volume := by
        unfold expanding
        rw [wp_bind]
        apply wp_mono (symlink_unique unique parent.2 name src)
        intro code volume₃ unique
        rw [wp_ite]
        refine ⟨fun _ => ?_, fun _ => unique⟩
        rw [wp_bind]
        apply wp_mono (unique_of_only unique (only_shrinking (.expandDir parent.2) rfl))
        intro expanded volume₄ unique
        rw [wp_ite]
        exact ⟨fun _ => unique, fun _ => symlink_unique unique parent.2 name src⟩
      apply wp_mono created
      intro code volume₅ unique
      rw [wp_ite]
      apply And.intro
      · intro _
        exact unique_of_only unique (translateError_only (records_basic basic_shrinks) _)
      · intro _
        apply unique_of_only unique
        apply only_bind (updateMtime_only (records_basic basic_shrinks) parent.2 none)
        intro stamped
        apply only_ite
        · trivial
        · exact rewriteChild_only basic_shrinks dest

/-- `create_file` does not look for the name itself. -/
theorem createFile_unique (unique : UniqueNames volume) (path : Path) (mode : BitVec 32)
    (absent : ∀ before name parent, strrchr path = some (before, name) →
      resolver.walk volume (before ++ [slash]) = .ok parent → volume.find parent name = none) :
    wp (libext2fs resolver steady) (createFile path mode)
      (fun _ volume' => UniqueNames volume') volume := by
  unfold createFile
  rw [wp_bind]
  apply wp_mono (getParentDirIno_found path)
  intro parentIno volume₁ ⟨same, located⟩
  rw [same, wp_ite]
  refine ⟨fun _ => unique, fun positive => ?_⟩
  obtain ⟨before, name, split, parent⟩ := located positive
  rw [wp_bind]
  apply wp_library (.newInode parentIno mode)
  intro new volume₂ allowed
  rw [allowed.1, wp_ite]
  refine ⟨fun _ => unique, fun _ => ?_⟩
  rcases named : getFilename path with _ | filename
  · exact unique
  · have fresh := find_eq_none_iff.mp (absent before name parentIno split parent)
    rw [← (getFilename_eq split named).1] at fresh
    simp only [wp_bind]
    apply wp_mono (expanding_unique unique fresh new.2 EXT2_FT_REG_FILE)
    intro code volume₃ unique
    rw [wp_ite]
    refine ⟨fun _ => unique, fun _ => ?_⟩
    apply unique_of_only unique
    exact only_bind (fillFile_only (makes_basic basic_shrinks) new.2 mode rfl) fun _ => trivial

end NodeExt2fs.Names
