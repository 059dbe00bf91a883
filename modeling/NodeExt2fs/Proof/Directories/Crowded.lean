import NodeExt2fs.Construction.Library.Crowding
import NodeExt2fs.Proof.Library.Requests
import NodeExt2fs.Proof.Library.Serving

/-!
This file settles which operations make room for a new name in a full directory.
-/

namespace NodeExt2fs.Crowded
open Programs Glue Library
open Program (wp wp_pure wp_bind wp_ite wp_mono run_of_wp)

variable {site : Site} {crowd : Crowd}

/-- The calls that succeed and leave the directory. -/
def steady : Call → Bool
  | .namei _ | .nameiFollow _ | .link _ _ _ _ | .mkdir _ _ _ | .symlink _ _ _ | .expandDir _ | .unlink _ _
  | .dirIterate _ _ | .newInode _ _ | .strdup | .checkDirectory _ => false
  | _ => true

theorem serves_crowding : Serves (crowding site) steady := by
  intro call crowd listed
  apply And.intro trivial
  intro answer crowd' allowed
  cases call <;> first | exact allowed | cases listed

theorem serves_filling : Serves (crowding site) filling := by
  apply serves_crowding.mono
  intro call listed
  cases call <;> first | rfl | cases listed

theorem serves_stamping : Serves (crowding site) stamping := by
  apply serves_crowding.mono
  intro call listed
  cases call <;> first | rfl | cases listed

theorem call_crowding (call : Call) {post : Answer call → Crowd → Prop}
    (rest : ∀ answer crowd', (crowding site).allows crowd call answer crowd' → post answer crowd') :
    wp (crowding site) call.perform post crowd := ⟨trivial, rest⟩

theorem stringToInode_crowding (path : Path) (follow : Bool) {post : Ino → Crowd → Prop}
    (rest : post ((site.lookup crowd.entries path).getD 0) crowd) :
    wp (crowding site) (stringToInode path follow) post crowd := by
  have each (answer : Errcode × Ino) (crowd' : Crowd)
      (allowed : answer = found (site.lookup crowd.entries path) ∧ crowd' = crowd) :
      wp (crowding site) (if answer.1 ≠ 0 then return 0 else return answer.2) post crowd' := by
    obtain ⟨rfl, rfl⟩ := allowed
    cases looked : site.lookup crowd'.entries path with
    | none =>
        rw [looked] at rest
        exact rest
    | some ino =>
        rw [looked] at rest
        exact rest
  rw [stringToInode]
  cases follow with
  | true =>
      simp only [if_true, wp_bind]
      exact call_crowding (.nameiFollow path) each
  | false =>
      simp only [Bool.false_eq_true, if_false, wp_bind]
      exact call_crowding (.namei path) each

/-- A lookup that finds its inode goes on. -/
theorem wp_found {A : Type} {path : Path} {ino : Ino}
    (looked : site.lookup crowd.entries path = some ino) {bad next : Errcode × Ino → Routine A}
    {post : A → Crowd → Prop} (rest : wp (crowding site) (next (0, ino)) post crowd) :
    wp (crowding site)
      (ext2fsNamei path >>= fun answer => if answer.1 ≠ 0 then bad answer else next answer) post
      crowd := by
  rw [wp_bind]
  apply call_crowding (.namei path)
  rintro answer crowd' ⟨rfl, rfl⟩
  rw [looked]
  exact rest

theorem lookup_other {path : Path} (other : path ≠ site.path) (entries : List DirEntry) :
    site.lookup entries path = site.resolve path := if_neg other

/-- The path of the parent is not that of the new name. -/
theorem parent_other {before : Path} (split : strrchr site.path = some (before, site.name))
    (some : site.name ≠ []) : before ++ [slash] ≠ site.path := by
  intro same
  have joined := (strrchr_eq_some split).1
  rw [← same] at joined
  have lengths := congrArg List.length joined
  simp only [List.length_append, List.length_cons, List.length_nil] at lengths
  exact some (List.length_eq_zero_iff.mp (by omega))

/-- A name is added after an expansion, if it has no room before. -/
theorem expanding_adds {attempt : Routine Errcode} {such : DirEntry → Prop}
    (enters : ∀ crowd, wp (crowding site) attempt (fun code crowd' => Entered crowd such code crowd') crowd)
    (crowd : Crowd) :
    wp (crowding site) (expanding site.dir attempt)
      (fun code crowd' => code = 0 ∧ ∃ entry, such entry ∧ Added crowd entry crowd'.entries) crowd := by
  rw [expanding, wp_bind]
  apply wp_mono (enters crowd)
  intro code crowd₁ entered
  rw [Entered] at entered
  rw [wp_ite]
  cases room : crowd.room with
  | true =>
      rw [room, if_pos rfl] at entered
      refine ⟨fun full => ?_, fun _ => entered⟩
      rw [entered.1] at full
      cases full
  | false =>
      rw [room, if_neg Bool.false_ne_true] at entered
      refine ⟨fun _ => ?_, fun other => absurd entered.1 other⟩
      rw [entered.2, wp_bind]
      apply call_crowding (.expandDir site.dir)
      rintro code crowd₂ ⟨success, same, grown⟩
      rw [if_neg (not_not.mpr success)]
      apply wp_mono (enters crowd₂)
      intro code crowd₃ entered
      rw [beq_self_eq_true, Bool.or_true] at grown
      simp only [Entered, grown, if_true, Added, same] at entered
      exact entered

theorem link_enters (name : Name) {ino : Ino} (some : ino ≠ 0) (fileType : Nat) (crowd : Crowd) :
    wp (crowding site) (ext2fsLink site.dir name ino fileType)
      (fun code crowd' => Entered crowd
        (fun entry => entry = { inode := ino, name := name, fileType := fileType }) code crowd')
      crowd := by
  apply call_crowding (.link site.dir name ino fileType)
  intro code crowd' allowed
  change if site.dir = site.dir ∧ ino ≠ 0 then _ else _ at allowed
  rwa [if_pos ⟨rfl, some⟩] at allowed

theorem symlink_enters (name target : Name) (crowd : Crowd) :
    wp (crowding site) (ext2fsSymlink site.dir name target)
      (fun code crowd' => Entered crowd (site.Fresh name) code crowd') crowd := by
  apply call_crowding (.symlink site.dir name target)
  intro code crowd' allowed
  change if site.dir = site.dir then _ else _ at allowed
  rwa [if_pos rfl] at allowed

/-- The new name is found after it was added. -/
theorem lookup_added {crowd' : Crowd} {entry : DirEntry} (named : entry.name = site.name)
    (added : Added crowd entry crowd'.entries) :
    ∃ ino, site.lookup crowd'.entries site.path = some ino := by
  obtain ⟨before, after, _, result⟩ := added
  have present : (crowd'.entries.find? fun entry => entry.name = site.name).isSome = true := by
    rw [List.find?_isSome, result]
    exact ⟨entry, List.mem_append_right _ List.mem_cons_self, by simpa using named⟩
  obtain ⟨entry', found⟩ := Option.isSome_iff_exists.mp present
  exact ⟨entry'.inode, by rw [Site.lookup, if_pos rfl, found]; rfl⟩

section Creating

variable {creation : Creation} (ready : creation.Ready site crowd)

include ready

theorem lookup_new : site.lookup crowd.entries site.path = none := by
  rw [Site.lookup, if_pos rfl, ready.absent]
  rfl

theorem createFile_adds (path : Path) (mode : BitVec 32) (same : path = site.path) :
    wp (crowding site) (createFile path mode)
      (fun answer crowd' => answer.1 = 0 ∧ site.taken answer.2 = false ∧
        ∃ entry, site.Fresh site.name entry ∧ Added crowd entry crowd'.entries) crowd := by
  obtain ⟨before, split, parent⟩ := ready.parent
  have filename : getFilename path = some site.name := by
    rw [same, getFilename_split split, if_neg ready.name]
  rw [createFile, wp_bind, getParentDirIno, same, split]
  apply stringToInode_crowding
  rw [lookup_other (parent_other split ready.name), parent, Option.getD_some, if_neg ready.dir, wp_bind]
  apply call_crowding (.newInode site.dir mode)
  rintro ⟨ret, ino⟩ crowd₁ ⟨success, some, free, rfl⟩
  dsimp only
  rw [if_neg (not_not.mpr success), ← same, filename]
  dsimp only
  rw [wp_bind]
  apply wp_mono (expanding_adds (link_enters site.name some EXT2_FT_REG_FILE) crowd₁)
  rintro code crowd₂ ⟨rfl, entry, rfl, added⟩
  rw [if_neg (not_not.mpr rfl), wp_bind]
  apply serves_filling.fillFile
  exact ⟨rfl, free, _, ⟨rfl, some, free⟩, added⟩

/-- An open makes its file first. -/
theorem nodeExt2fsOpen_made (path : Path) (flags mode : BitVec 32) (same : path = site.path)
    (creates : hasFlag flags O_CREAT = true) {post : Int → Crowd → Prop}
    (rest : ∀ ino entry crowd', site.taken ino = false → site.Fresh site.name entry →
      Added crowd entry crowd'.entries → wp (crowding site) (openFound flags (0, ino)) post crowd') :
    wp (crowding site) (nodeExt2fsOpen path flags mode) post crowd := by
  rw [nodeExt2fsOpen_eq, wp_bind, findOrCreate, wp_bind]
  apply stringToInode_crowding
  rw [same, lookup_new ready, Option.getD_none, if_pos rfl, creates, if_neg (by decide), wp_bind]
  apply wp_mono (createFile_adds ready site.path mode rfl)
  rintro ⟨ret, ino⟩ crowd₁ ⟨success, free, entry, fresh, added⟩
  dsimp only
  rw [if_neg (not_not.mpr success), wp_pure]
  exact rest ino entry crowd₁ free fresh added

theorem nodeExt2fsOpen_adds (path : Path) (flags mode : BitVec 32) (same : path = site.path)
    (creates : hasFlag flags O_CREAT = true) (plain : hasFlag flags O_DIRECTORY = false) :
    wp (crowding site) (nodeExt2fsOpen path flags mode)
      (fun ret crowd' => 0 ≤ ret ∧ ∃ entry, site.Fresh site.name entry ∧
        Added crowd entry crowd'.entries) crowd := by
  apply nodeExt2fsOpen_made ready path flags mode same creates
  intro ino entry crowd₁ _ fresh added
  rw [openFound]
  dsimp only
  rw [if_neg (not_not.mpr rfl), plain, if_neg Bool.false_ne_true, openInode]
  apply serves_crowding.guard (.fileOpen ino _) rfl
  rintro ⟨ret, file⟩
  rw [wp_ite]
  refine ⟨fun _ => ?_, fun _ => ⟨Int.natCast_nonneg file, entry, fresh, added⟩⟩
  apply serves_crowding.guard (.fileSetSize file 0) rfl
  intro code
  exact ⟨Int.natCast_nonneg file, entry, fresh, added⟩

/-- A new file is no directory. -/
theorem nodeExt2fsOpen_refused (path : Path) (flags mode : BitVec 32) (same : path = site.path)
    (creates : hasFlag flags O_CREAT = true) (only : hasFlag flags O_DIRECTORY = true) :
    wp (crowding site) (nodeExt2fsOpen path flags mode) (fun ret _ => ret = -ENOTDIR) crowd := by
  apply nodeExt2fsOpen_made ready path flags mode same creates
  intro ino entry crowd₁ free _ _
  rw [openFound]
  dsimp only
  rw [if_neg (not_not.mpr rfl), only, if_pos rfl, wp_bind]
  apply call_crowding (.checkDirectory ino)
  rintro code crowd₂ ⟨checked, _⟩
  have refused : code ≠ 0 := by
    intro accepted
    have taken := site.directories ino (checked.mp accepted)
    rw [free] at taken
    cases taken
  rw [if_pos refused]
  rfl

/-- A full directory refuses a new directory. -/
theorem nodeExt2fsMkdir_full (path : Path) (mode : BitVec 32) (same : path = site.path)
    (full : crowd.room = false) :
    wp (crowding site) (nodeExt2fsMkdir path mode) (fun ret _ => ret = -EXT2_ET_DIR_NO_SPACE) crowd := by
  obtain ⟨before, split, parent⟩ := ready.parent
  have filename : getFilename path = some site.name := by
    rw [same, getFilename_split split, if_neg ready.name]
  rw [nodeExt2fsMkdir, wp_bind, getParentDirIno, same, split]
  apply stringToInode_crowding
  rw [lookup_other (parent_other split ready.name), parent, Option.getD_some, if_neg ready.dir, ← same,
    filename]
  dsimp only
  rw [wp_bind]
  apply call_crowding (.newInode site.dir _)
  rintro ⟨ret, newdir⟩ crowd₁ ⟨success, some, _, rfl⟩
  dsimp only
  rw [if_neg (not_not.mpr success), wp_bind]
  apply call_crowding (.mkdir site.dir newdir site.name)
  intro code crowd₂ allowed
  change if site.dir = site.dir ∧ newdir ≠ 0 then _ else _ at allowed
  rw [if_pos ⟨rfl, some⟩, Entered, full, if_neg Bool.false_ne_true] at allowed
  rw [allowed.1, if_pos (by decide)]
  rfl

/-- The parent directory of the new name is looked up. -/
theorem wp_parent {before : Path} (split : strrchr site.path = some (before, site.name))
    (parent : site.resolve (before ++ [slash]) = some site.dir) :
    site.lookup crowd.entries (before ++ [slash]) = some site.dir := by
  rw [lookup_other (parent_other split ready.name), parent]

theorem nodeExt2fsLink_adds (src dest : Path) (same : dest = site.path) (other : src ≠ site.path)
    {ino : Ino} (source : site.resolve src = some ino) (some : ino ≠ 0) :
    wp (crowding site) (nodeExt2fsLink src dest)
      (fun ret crowd' => 0 ≤ ret ∧ ∃ entry : DirEntry, (entry.name = site.name ∧ entry.inode = ino) ∧
        Added crowd entry crowd'.entries) crowd := by
  obtain ⟨before, split, parent⟩ := ready.parent
  rw [nodeExt2fsLink, wp_bind]
  apply call_crowding .strdup
  rintro copied crowd' ⟨rfl, rfl⟩
  rw [if_neg (by decide), same, split]
  apply wp_found (wp_parent ready split parent)
  rw [linkInto, wp_bind]
  apply call_crowding (.namei src)
  rintro answer crowd'' ⟨rfl, rfl⟩
  rw [lookup_other other, source]
  dsimp only [found]
  rw [if_neg (by simp [some])]
  apply serves_crowding.guard (.readInodeFull ino) rfl
  rintro ⟨err, inode⟩
  rw [wp_bind]
  apply serves_stamping.updateCtime
  intro inode
  dsimp only
  rw [if_neg (not_not.mpr rfl)]
  apply serves_crowding.guard (.writeInodeFull ino inode) rfl
  intro code
  rw [wp_bind]
  apply wp_mono (expanding_adds (link_enters site.name some _) crowd'')
  rintro code crowd₁ ⟨rfl, entry, rfl, added⟩
  rw [if_neg (not_not.mpr rfl), wp_bind]
  apply serves_stamping.updateMtime
  intro inode
  exact ⟨Int.le_refl 0, _, ⟨rfl, rfl⟩, added⟩

theorem nodeExt2fsSymlink_adds (src dest : Path) (same : dest = site.path) :
    wp (crowding site) (nodeExt2fsSymlink src dest)
      (fun ret crowd' => 0 ≤ ret ∧ ∃ entry, site.Fresh site.name entry ∧
        Added crowd entry crowd'.entries) crowd := by
  obtain ⟨before, split, parent⟩ := ready.parent
  rw [nodeExt2fsSymlink, wp_bind]
  apply call_crowding .strdup
  rintro copied crowd' ⟨rfl, rfl⟩
  rw [if_neg (by decide), same, split]
  apply wp_found (wp_parent ready split parent)
  rw [wp_bind]
  apply wp_mono (expanding_adds (symlink_enters site.name src) crowd')
  rintro code crowd₁ ⟨rfl, entry, fresh, added⟩
  rw [if_neg (not_not.mpr rfl), wp_bind]
  apply serves_stamping.updateMtime
  intro inode
  dsimp only
  rw [if_neg (not_not.mpr rfl), rewriteChild]
  obtain ⟨child, looked⟩ := lookup_added fresh.1 added
  apply wp_found looked
  apply serves_crowding.guard (.readInodeFull child) rfl
  rintro ⟨err, inode⟩
  apply serves_crowding.guard (.writeInodeFull child inode) rfl
  intro code
  exact ⟨Int.le_refl 0, entry, fresh, added⟩

end Creating

theorem renameCount_steady (dirIno : Ino) (change : BitVec 16) :
    wp (crowding site) (renameCount dirIno change) (fun ret crowd' => ret = 0 ∧ crowd' = crowd) crowd := by
  rw [renameCount]
  apply serves_crowding.guard (.readInode dirIno) rfl
  rintro ⟨err, inode⟩
  apply serves_crowding.guard (.writeInode dirIno _) rfl
  intro code
  exact ⟨rfl, rfl⟩

/-- The entry of a moved directory for its parent is another directory's. -/
theorem renameDotdot_steady {fromIno : Ino} (apart : fromIno ≠ site.dir) (fromDir toDir : Ino) :
    wp (crowding site) (renameDotdot fromIno fromDir toDir) (fun ret crowd' => ret = 0 ∧ crowd' = crowd)
      crowd := by
  rw [renameDotdot]
  apply serves_crowding.guard (.readInode fromIno) rfl
  rintro ⟨err, inode⟩
  rw [wp_ite]
  refine ⟨fun _ => ?_, fun _ => ⟨rfl, rfl⟩⟩
  rw [wp_bind]
  apply call_crowding (.dirIterate fromIno _)
  rintro ⟨err, visited⟩ crowd₁ ⟨success, kept⟩
  dsimp only
  rw [kept apart, if_neg (not_not.mpr success), wp_bind]
  apply wp_mono (renameCount_steady fromDir (-1))
  rintro ret crowd₂ ⟨rfl, rfl⟩
  rw [if_neg (not_not.mpr rfl)]
  exact renameCount_steady toDir 1

/-- The old name is removed, from this directory or from another one. -/
theorem renameFinish_leaves {fromPath source : Path} {fromName : Name} {fromDir : Ino}
    (split : strrchr fromPath = some (source, fromName)) (other : source ≠ site.path)
    (outer : site.resolve source = some fromDir) (fromIno toDir : Ino) (crowd : Crowd) :
    wp (crowding site) (renameFinish fromIno toDir fromPath)
      (fun ret crowd' => ret = 0 ∧ crowd'.entries = if fromDir = site.dir then
        crowd.entries.eraseP fun entry => entry.name = fromName else crowd.entries) crowd := by
  rw [renameFinish, wp_bind]
  apply serves_stamping.updateCtime
  intro inode
  dsimp only
  rw [if_neg (not_not.mpr rfl), wp_bind]
  apply serves_stamping.updateMtime
  intro inode
  dsimp only
  rw [if_neg (not_not.mpr rfl), wp_bind, unlinkFileByName, split]
  apply wp_found (by rw [lookup_other other, outer])
  rw [unlinkName, wp_bind]
  apply call_crowding (.unlink fromDir fromName)
  rintro code crowd₁ ⟨success, erased⟩
  rw [if_neg (not_not.mpr success), wp_bind]
  apply serves_stamping.updateMtime
  intro inode
  rw [wp_pure, if_neg (not_not.mpr rfl)]
  apply serves_crowding.guard .flush2 rfl
  intro code
  exact ⟨rfl, erased⟩

theorem renameParent_found {path before : Path} {name : Name} (split : strrchr path = some (before, name))
    {dir : Ino} (looked : site.lookup crowd.entries (before ++ [slash]) = some dir) (some : dir ≠ 0) :
    wp (crowding site) (renameParent path) (fun parent crowd' => parent = .ok (dir, name) ∧ crowd' = crowd)
      crowd := by
  rw [renameParent, split]
  apply wp_found looked
  dsimp only
  rw [if_neg some]
  exact ⟨rfl, rfl⟩

theorem nodeExt2fsRename_adds {fromPath toPath : Path}
    (ready : (Creation.rename fromPath toPath).Ready site crowd) :
    wp (crowding site) (nodeExt2fsRename fromPath toPath)
      (fun ret crowd' => (Creation.rename fromPath toPath).Creates site crowd ret crowd') crowd := by
  obtain ⟨before, split, parent⟩ := ready.parent
  obtain ⟨other, ⟨ino, walked, some, apart⟩, source, fromName, fromDir, outer, fromSplit, elsewhere,
    outside, sourced, outerFound, outerSome, _⟩ := ready.sourced
  have same : toPath = site.path := ready.path
  rw [nodeExt2fsRename, wp_bind]
  apply call_crowding (.namei fromPath)
  rintro answer crowd₁ ⟨rfl, rfl⟩
  rw [lookup_other other, walked]
  dsimp only [found]
  rw [if_neg (by simp [some]), wp_bind]
  apply call_crowding (.namei toPath)
  rintro ⟨err, toIno⟩ crowd₂ ⟨answered, rfl⟩
  have absent : err = EXT2_ET_FILE_NOT_FOUND := by
    rw [same, lookup_new ready] at answered
    exact congrArg Prod.fst answered
  dsimp only
  rw [if_neg fun bad => bad.2 absent, if_neg fun bad => bad.1 (if_pos absent), if_pos absent, wp_bind]
  apply call_crowding .strdup
  rintro copied crowd₃ ⟨rfl, rfl⟩
  rw [if_neg (by decide), wp_bind]
  apply call_crowding .strdup
  rintro copied crowd₄ ⟨rfl, rfl⟩
  rw [if_neg (by decide), renameBetween, wp_bind]
  apply wp_mono (renameParent_found fromSplit (by rw [lookup_other outside, outerFound]) outerSome)
  rintro fromParent crowd₅ ⟨rfl, rfl⟩
  dsimp only
  rw [wp_bind]
  rw [same]
  apply wp_mono (renameParent_found split (wp_parent ready split parent) ready.dir)
  rintro toParent crowd₆ ⟨rfl, rfl⟩
  dsimp only
  rw [renameTarget, if_neg (not_not.mpr rfl), wp_bind, wp_pure, if_neg (not_not.mpr rfl), renameMove]
  apply serves_crowding.guard (.readInode ino) rfl
  rintro ⟨err, inode⟩
  rw [wp_bind]
  apply wp_mono (expanding_adds (link_enters site.name some _) crowd₆)
  rintro code crowd₇ ⟨rfl, entry, rfl, added⟩
  rw [if_neg (not_not.mpr rfl), wp_bind]
  apply wp_mono (renameDotdot_steady apart outer site.dir)
  rintro ret crowd₈ ⟨rfl, rfl⟩
  rw [if_neg (not_not.mpr rfl)]
  apply wp_mono (renameFinish_leaves fromSplit elsewhere sourced ino site.dir crowd₈)
  rintro ret crowd₉ ⟨rfl, left⟩
  refine ⟨Int.le_refl 0, _, crowd₈.entries, ⟨rfl, walked⟩, added, ?_⟩
  rw [Creation.leaves, fromSplit]
  simp only [sourced, Option.some.injEq]
  exact left

/-- A creation that recovers creates its name in a full directory. -/
theorem routine_creates {creation : Creation} (ready : creation.Ready site crowd)
    (recovers : creation.recovers = true) :
    wp (crowding site) creation.routine (creation.Creates site crowd) crowd := by
  cases creation with
  | «open» path flags mode =>
      have plain : hasFlag flags O_DIRECTORY = false := by simpa [Creation.recovers] using recovers
      apply wp_mono (nodeExt2fsOpen_adds ready path flags mode ready.path ready.sourced plain)
      rintro ret crowd' ⟨success, entry, fresh, added⟩
      exact ⟨success, entry, crowd'.entries, fresh, added, rfl⟩
  | mkdir path mode => cases recovers
  | link src dest =>
      obtain ⟨other, ino, source, some⟩ := ready.sourced
      apply wp_mono (nodeExt2fsLink_adds ready src dest ready.path other source some)
      rintro ret crowd' ⟨success, entry, ⟨named, same⟩, added⟩
      exact ⟨success, entry, crowd'.entries, ⟨named, same ▸ source⟩, added, rfl⟩
  | symlink src dest =>
      apply wp_mono (nodeExt2fsSymlink_adds ready src dest ready.path)
      rintro ret crowd' ⟨success, entry, fresh, added⟩
      exact ⟨success, entry, crowd'.entries, fresh, added, rfl⟩
  | rename fromPath toPath => exact nodeExt2fsRename_adds ready

variable {Hidden : Type} {handler : Handler Call Answer Hidden} {view : Hidden → Crowd}

/-- In a full directory that can be expanded, exactly a `mkdir` and an `open` that asks for a directory
do not create their name. -/
theorem creates_iff (honoured : (crowding site).Honoured handler view) {hidden : Hidden}
    {creation : Creation} (ready : creation.Ready site (view hidden)) (full : (view hidden).room = false) :
    creation.Creates site (view hidden) (creation.routine.run handler hidden).1
        (view (creation.routine.run handler hidden).2) ↔ creation.recovers = true := by
  cases recovers : creation.recovers with
  | true => exact iff_of_true (run_of_wp honoured (routine_creates ready recovers)) rfl
  | false =>
      apply iff_of_false _ Bool.false_ne_true
      rintro ⟨success, _⟩
      cases creation with
      | «open» path flags mode =>
          have only : hasFlag flags O_DIRECTORY = true := by simpa [Creation.recovers] using recovers
          have refused := run_of_wp honoured
            (nodeExt2fsOpen_refused ready path flags mode ready.path ready.sourced only)
          rw [Creation.routine, refused] at success
          exact absurd success (by decide)
      | mkdir path mode =>
          have refused := run_of_wp honoured (nodeExt2fsMkdir_full ready path mode ready.path full)
          rw [Creation.routine, refused] at success
          exact absurd success (by decide)
      | _ => cases recovers

/-- The directory in memory does what libext2fs does. -/
theorem crowded_honours (site : Site) (free : site.taken 13 = false) :
    (crowding site).Honoured (crowded site) id := by
  intro call crowd
  have enters {such : DirEntry → Prop} (entry : DirEntry) (fits : such entry) :
      Entered crowd such (crowd.enter entry).1 (crowd.enter entry).2 := by
    unfold Entered Crowd.enter
    cases room : crowd.room with
    | true => exact ⟨rfl, entry, fits, crowd.entries, [], (List.append_nil _).symm, rfl⟩
    | false => exact ⟨rfl, rfl⟩
  cases call with
  | namei path => exact ⟨rfl, rfl⟩
  | nameiFollow path => exact ⟨rfl, rfl⟩
  | link dir name ino fileType =>
      by_cases here : dir = site.dir ∧ ino ≠ 0
      · simp only [crowding, crowded, if_pos here]
        exact enters _ rfl
      · simp only [crowding, crowded, if_neg here]
  | mkdir dir ino name =>
      by_cases here : dir = site.dir ∧ ino ≠ 0
      · simp only [crowding, crowded, if_pos here]
        exact enters _ rfl
      · simp only [crowding, crowded, if_neg here]
  | symlink dir name target =>
      by_cases here : dir = site.dir
      · simp only [crowding, crowded, if_pos here]
        exact enters _ ⟨rfl, Nat.succ_ne_zero 12, free⟩
      · simp only [crowding, crowded, if_neg here]
  | newInode dir mode => exact ⟨rfl, (by decide : (13 : Ino) ≠ 0), free, rfl⟩
  | expandDir dir => exact ⟨rfl, rfl, rfl⟩
  | unlink dir name => exact ⟨rfl, rfl⟩
  | dirIterate dir proc => exact ⟨rfl, fun _ => rfl⟩
  | strdup => exact ⟨rfl, rfl⟩
  | checkDirectory ino =>
      refine ⟨?_, rfl⟩
      show (if site.isDir ino then (0 : Errcode) else EXT2_ET_NO_DIRECTORY) = 0 ↔ _
      by_cases directory : site.isDir ino = true
      · rw [if_pos directory]
        exact iff_of_true rfl directory
      · rw [if_neg directory]
        exact iff_of_false (by decide) directory
  | _ => exact ⟨rfl, rfl⟩

/-- A full root directory, and the place of the name `b` in it, next to a file `a`. -/
def fullRoot : Site where
  dir := EXT2_ROOT_INO
  path := [slash, 0x62]
  name := [0x62]
  resolve path := if path = [slash] then some EXT2_ROOT_INO else some 12
  taken ino := decide (ino = EXT2_ROOT_INO ∨ ino = 12)
  isDir ino := decide (ino = EXT2_ROOT_INO)
  directories _ isDir := decide_eq_true (.inl (of_decide_eq_true isDir))

def fullCrowd : Crowd where
  entries := [{ inode := 12, name := [0x61], fileType := EXT2_FT_REG_FILE }]
  room := false

theorem fullRoot_ready {creation : Creation} (path : creation.path = [slash, 0x62])
    (sourced : creation.Sourced fullRoot) : creation.Ready fullRoot fullCrowd where
  path := path
  parent := ⟨[], by decide, by decide⟩
  dir := by decide
  name := by decide
  absent := by decide
  sourced := sourced

/-- A link makes room for its name. -/
theorem creates_iff_link :
    (Creation.link [slash, 0x61] [slash, 0x62]).Creates fullRoot fullCrowd
      ((Creation.link [slash, 0x61] [slash, 0x62]).routine.run (crowded fullRoot) fullCrowd).1
      ((Creation.link [slash, 0x61] [slash, 0x62]).routine.run (crowded fullRoot) fullCrowd).2 :=
  (creates_iff (crowded_honours fullRoot (by decide))
    (@fullRoot_ready (.link [slash, 0x61] [slash, 0x62]) rfl ⟨by decide, 12, by decide, by decide⟩)
    rfl).mpr rfl

/-- A `mkdir` in a full directory fails, though the directory can be expanded. -/
theorem mkdir_blocked :
    ¬∀ creation : Creation, creation.Ready fullRoot fullCrowd →
      creation.Creates fullRoot fullCrowd (creation.routine.run (crowded fullRoot) fullCrowd).1
        (creation.routine.run (crowded fullRoot) fullCrowd).2 := by
  intro every
  have created := every (.mkdir [slash, 0x62] 0o755) (fullRoot_ready rfl trivial)
  exact absurd created.1 (by decide)

end NodeExt2fs.Crowded
