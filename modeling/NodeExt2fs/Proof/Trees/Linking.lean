import NodeExt2fs.Proof.Trees.Adding
import NodeExt2fs.Construction.Glue.Parents

/-!
This file follows `mkdir`, `symlink` and `link` on a disk that does not fail.
-/

namespace NodeExt2fs.Trees
open Programs Structures Glue Library
open Program (wp wp_pure wp_bind wp_ite wp_mono)
open Census (Live Shaped Sound Proper Edit Inside Rooted)

variable {resolver : Resolver} {steady exact rooted : Prop} {volume volume' : Volume}

theorem increment_toNat {count : BitVec 16} (room : count ≠ 0xffff#16) :
    (count + 1).toNat = count.toNat + 1 := by
  bv_omega

/-- The entry that `ext2fs_mkdir` makes for a new directory. -/
def directoryEntry (ino : Ino) (name : Name) : DirEntry :=
  { inode := ino, name := name, fileType := EXT2_FT_DIR }

/-- The names with a new directory. -/
theorem names_directory (placed : volume.Placed) {parent ino : Ino} {name : Name} {mode : BitVec 16}
    {before after : List DirEntry} (split : volume.entries parent = before ++ after)
    (new : Fresh volume parent (directoryEntry ino name)) (kind : linuxSIsdir mode = true) :
    (volume.makeDir parent ino name mode before after).census.isDir =
        Function.update volume.isDir ino true ∧
      (volume.makeDir parent ino name mode before after).census.names =
        (parent, directoryEntry ino name) ::ₘ (ino, directoryEntry ino dot) ::ₘ
          (ino, directoryEntry parent dotdot) ::ₘ volume.census.names := by
  generalize own : directoryEntry ino dot = itself
  generalize up : directoryEntry parent dotdot = upwards
  generalize made : volume.makeDir parent ino name mode before after = result
  generalize entryOf : directoryEntry ino name = entry
  have linked := @relisted_insert volume (volume.setEntries parent (before ++ entry :: after)) parent
    entry before after split ⟨volume.fits, volume.grows, rfl⟩
  have isDir : result.isDir = Function.update volume.isDir ino true := by
    funext other
    rw [← made]
    show linuxSIsdir (Function.update volume.mode ino mode other) = _
    by_cases same : other = ino
    · rw [same, Function.update_self, Function.update_self]
      exact kind
    · rw [Function.update_of_ne same, Function.update_of_ne same]
      rfl
  have inUse : result.inUse = Function.update volume.inUse ino true := by rw [← made]; rfl
  refine ⟨isDir, ?_⟩
  have added := linked.added (placed.bounded parent new.holder.1) new.holder
  have same := @names_fresh (volume.setEntries parent (before ++ entry :: after)) result ino
    [itself, upwards] new.bounded (by rw [← made]; rfl) new.fresh ?_ ?_
  · rw [same, added, Multiset.cons_add, add_comm]
    show (parent, entry) ::ₘ (((ino, itself) ::ₘ (ino, upwards) ::ₘ 0) + _) = _
    rw [Multiset.cons_add, Multiset.cons_add, zero_add]
  · intro other different
    rw [Volume.liveEntries, isDir, inUse, Function.update_of_ne different,
      Function.update_of_ne different, ← made]
    show (if _ then Function.update (Function.update volume.entries parent _) ino _ other else []) = _
    rw [Function.update_of_ne different, ← entryOf]
    rfl
  · rw [Volume.liveEntries, isDir, inUse, Function.update_self, Function.update_self, ← made]
    show Function.update (Function.update volume.entries parent _) ino
      (Volume.dotEntries parent ino) ino = _
    rw [Function.update_self, ← own, ← up]
    rfl

/-- `ext2fs_mkdir` adds a directory to its parent. -/
theorem formed_directory (formed : volume.WellFormed exact rooted) {parent ino : Ino} {name : Name}
    {mode : BitVec 16} {before after : List DirEntry} (split : volume.entries parent = before ++ after)
    (new : Fresh volume parent (directoryEntry ino name)) (kind : linuxSIsdir mode = true)
    (room : volume.links parent ≠ 0xffff#16) :
    (volume.makeDir parent ino name mode before after).WellFormed exact rooted := by
  obtain ⟨isDir, names⟩ := names_directory formed.placed split new kind
  generalize made : volume.makeDir parent ino name mode before after = result at isDir names ⊢
  have inUse : result.inUse = Function.update volume.inUse ino true := by rw [← made]; rfl
  have links : result.census.links = Function.update
      (Function.update volume.census.links parent (volume.census.links parent + 1)) ino 2 := by
    funext other
    rw [← made]
    show (Function.update (Function.update volume.links parent (volume.links parent + 1)) ino 2
      other).toNat = _
    by_cases same : other = ino
    · rw [same, Function.update_self, Function.update_self]
      rfl
    · rw [Function.update_of_ne same, Function.update_of_ne same]
      by_cases above : other = parent
      · rw [above, Function.update_self, Function.update_self]
        exact increment_toNat room
      · rw [Function.update_of_ne above, Function.update_of_ne above]
        rfl
  have census : result.census =
      { inUse := Function.update volume.census.inUse ino true
        isDir := Function.update volume.census.isDir ino true
        links := Function.update
          (Function.update volume.census.links parent (volume.census.links parent + 1)) ino 2
        names := (parent, directoryEntry ino name) ::ₘ (ino, directoryEntry ino dot) ::ₘ
          (ino, directoryEntry parent dotdot) ::ₘ volume.census.names } := by
    rw [← names, ← links]
    have isDir' : result.isDir = Function.update volume.census.isDir ino true := isDir
    show Census.mk _ _ _ _ = Census.mk _ _ _ _
    rw [inUse, isDir']
    rfl
  apply formed_edit formed
  · rw [census]
    exact Edit.directory (parent, directoryEntry ino name) (directoryEntry ino dot)
      (directoryEntry parent dotdot) ⟨new.holder, new.plain, new.nonempty⟩ new.fresh new.positive
      rfl rfl rfl rfl
  · intro other used
    rw [inUse] at used
    have count : result.inodesCount = volume.inodesCount := by rw [← made]; rfl
    rw [count]
    by_cases same : other = ino
    · exact same ▸ new.bounded
    · rw [Function.update_of_ne same] at used
      exact formed.bounded other used

/-- A new mode keeps the census when it is of the same type. -/
theorem formed_mode (formed : volume.WellFormed exact rooted) {ino : Ino} {mode : BitVec 16}
    (kind : linuxSIsdir mode = volume.isDir ino) :
    (volume.written ino mode (volume.links ino)).WellFormed exact rooted := by
  refine formed_same formed ?_ rfl
  rw [census_written kind]
  have same : Function.update volume.census.links ino (volume.links ino).toNat =
      volume.census.links := Function.update_eq_self _ _
  rw [same]

/-- A new directory has the name at the end of the path. -/
def Founded (resolver : Resolver) (volume : Volume) (path : Path) (volume' : Volume) : Prop :=
  ∃ before name parent ino made kind left right mode, strrchr path = some (before, name) ∧
    resolver.walk volume (before ++ [slash]) = .ok parent ∧ volume.find parent name = none ∧
    Fresh volume parent (directoryEntry ino name) ∧ linuxSIsdir kind = true ∧
    volume.entries parent = left ++ right ∧
    (volume.makeDir parent ino name kind left right).Like made ∧ linuxSIsdir mode = true ∧
    volume' = made.written ino mode (made.links ino)

/-- `node_ext2fs_mkdir` adds a directory, or fails and changes nothing. -/
theorem nodeExt2fsMkdir_founded (calm : steady) (closed : resolver.Closed) (placed : volume.Placed)
    (path : Path) (mode : BitVec 32) :
    wp (libext2fs resolver steady) (nodeExt2fsMkdir path mode)
      (fun ret volume' => ret = 0 ∧ Founded resolver volume path volume' ∨
        ret ≠ 0 ∧ volume' = volume) volume := by
  have negative {code : Errcode} (bad : code ≠ 0) : -(code : Int) ≠ 0 := fun zero =>
    bad (Int.natCast_eq_zero.mp (Int.neg_eq_zero.mp zero))
  rw [nodeExt2fsMkdir, wp_bind]
  apply wp_mono (getParentDirIno_found path)
  intro parent volume₁ outcome
  obtain ⟨same, located⟩ := outcome
  rw [same, wp_ite]
  refine ⟨fun _ => .inr ⟨by decide, rfl⟩, fun positive => ?_⟩
  obtain ⟨before, name, split, there⟩ := located positive
  rcases named : getFilename path with _ | filename
  · exact .inr ⟨by decide, rfl⟩
  · obtain ⟨same, nonempty⟩ := getFilename_eq split named
    rw [wp_bind]
    apply wp_library (.newInode parent _)
    intro new volume₂ allowed
    dsimp only
    rw [allowed.1, wp_ite]
    refine ⟨fun bad => .inr ⟨negative bad, rfl⟩, fun fine => ?_⟩
    obtain ⟨nonzero, bounded, fresh⟩ := allowed.2 (not_not.mp fine)
    rw [wp_bind]
    apply wp_library (.mkdir parent new.2 filename)
    intro code volume₃ made
    rw [wp_ite]
    rcases made with ⟨fine, directory, absent, kind, left, right, isDir, parts, like⟩ | ⟨bad, kept⟩
    · refine ⟨fun bad => absurd fine bad, fun _ => ?_⟩
      have live : volume.census.Live parent := ⟨used_of_walk closed placed (.inl there), directory⟩
      rw [wp_bind]
      apply wp_library (.readInode new.2)
      intro answer volume₄ allowed
      obtain ⟨same₄, read, readable⟩ := allowed
      rw [same₄, wp_ite]
      refine ⟨fun bad => absurd (readable calm) bad, fun zero => ?_⟩
      rw [wp_bind]
      apply wp_library (.writeInode new.2 _)
      intro code' volume₅ wrote
      rcases wrote with ⟨zero', written⟩ | ⟨unsteady, _⟩
      · dsimp only at written
        rw [(read (not_not.mp zero)).2] at written
        rw [wp_pure, zero']
        exact .inl ⟨rfl, before, filename, parent, new.2, volume₃, kind, left, right,
          withFormat mode LINUX_S_IFDIR, same ▸ split, there, absent,
          ⟨live, plain_of_absent placed live absent, nonempty, fresh, nonzero, bounded⟩, isDir,
          parts, like, directory_isDir mode, written⟩
      · exact absurd calm unsteady
    · rw [kept]
      exact ⟨fun bad => .inr ⟨negative bad, rfl⟩, fun fine => absurd bad fine⟩

/-- The volume that `ext2fs_mkdir` leaves, with another mode for its directory. -/
theorem founded_isDir {parent ino : Ino} {name : Name} {kind : BitVec 16} {left right : List DirEntry}
    {made : Volume} (isDir : linuxSIsdir kind = true)
    (like : (volume.makeDir parent ino name kind left right).Like made) : made.isDir ino = true := by
  obtain ⟨fits, grows, equal⟩ := like
  rw [equal]
  show linuxSIsdir (Function.update volume.mode ino kind ino) = true
  rw [Function.update_self]
  exact isDir

theorem nodeExt2fsMkdir_formed (calm : steady) (closed : resolver.Closed)
    (formed : volume.WellFormed exact rooted) (path : Path) (mode : BitVec 32)
    (room : ∀ before name parent, strrchr path = some (before, name) →
      resolver.walk volume (before ++ [slash]) = .ok parent → volume.find parent name = none →
      volume.links parent ≠ 0xffff#16) :
    wp (libext2fs resolver steady) (nodeExt2fsMkdir path mode)
      (fun _ volume' => volume'.WellFormed exact rooted) volume := by
  apply wp_mono (nodeExt2fsMkdir_founded calm closed formed.placed path mode)
  intro ret volume' outcome
  rcases outcome with ⟨_, before, name, parent, ino, made, kind, left, right, mode', split, there,
    absent, new, isDir, parts, like, directory, written⟩ | ⟨_, same⟩
  · have formed₃ := formed_like
      (formed_directory formed parts new isDir (room before name parent split there absent)) like
    rw [written]
    exact formed_mode formed₃ (directory.trans (founded_isDir isDir like).symm)
  · rw [same]
    exact formed

/-- What `symlink` reads and writes back at its end stays. -/
theorem rewriteChild_quiet (dest : Path) :
    wp (libext2fs resolver steady) (rewriteChild dest) (fun _ volume' => volume' = volume) volume := by
  rw [rewriteChild, wp_bind]
  apply wp_library (.namei dest)
  intro child volume₁ allowed
  rw [allowed.1, wp_ite]
  apply And.intro
  · intro _
    exact wp_mono (translateError_quiet child.1) fun _ _ quiet => quiet.1
  · intro _
    rw [wp_bind]
    apply wp_library (.readInodeFull child.2)
    intro answer volume₂ allowed
    obtain ⟨same, read, _⟩ := allowed
    rw [same, wp_ite]
    apply And.intro
    · intro _
      exact wp_mono (translateError_quiet answer.1) fun _ _ quiet => quiet.1
    · intro fine
      rw [wp_bind]
      apply wp_library (.writeInodeFull child.2 answer.2)
      intro code volume₃ wrote
      rw [(writeBack (read (not_not.mp fine)) ⟨rfl, rfl⟩ wrote).1, wp_ite]
      exact ⟨fun _ => wp_mono (translateError_quiet code) fun _ _ quiet => quiet.1, fun _ => rfl⟩

/-- A new symbolic link to the target. -/
def SymlinkMade (volume : Volume) (parent : Ino) (name : Name) (target : Path) (volume' : Volume) : Prop :=
  ∃ ino mode before after, linuxSIslnk mode = true ∧ volume.find parent name = none ∧
    Fresh volume parent { inode := ino, name := name, fileType := EXT2_FT_SYMLINK } ∧
    volume.entries parent = before ++ after ∧
    (volume.makeSymlink parent ino name target mode before after).Like volume'

/-- `ext2fs_symlink` adds a file, when there is space for it after an expansion. -/
theorem expanding_symlink (placed : volume.Placed) {parent : Ino} {name : Name} (target : Path)
    (used : volume.inUse parent = true) (nonempty : name ≠ []) :
    wp (libext2fs resolver steady) (expanding parent (ext2fsSymlink parent name target))
      (fun code volume' => code = 0 ∧ SymlinkMade volume parent name target volume' ∨
        code ≠ 0 ∧ volume.Like volume') volume := by
  have unchanged : volume.Like volume := ⟨volume.fits, volume.grows, rfl⟩
  have made_of {middle volume' : Volume} {code : Errcode} (like : volume.Like middle)
      (answered : effect resolver steady middle (.symlink parent name target) code volume') :
      code = 0 ∧ SymlinkMade volume parent name target volume' ∨ code ≠ 0 ∧ volume' = middle := by
    rcases answered with ⟨fine, directory, absent, ino, mode, before, after, positive, bounded, fresh,
      isLnk, split, like'⟩ | failed
    · obtain ⟨fits, grows, equal⟩ := like
      have holder : volume.census.Live parent := ⟨used, by rw [equal] at directory; exact directory⟩
      rw [equal] at absent bounded fresh split like'
      exact .inl ⟨fine, ino, mode, before, after, isLnk, absent,
        ⟨holder, plain_of_absent placed holder absent, nonempty, fresh, positive, bounded⟩, split, like'⟩
    · exact .inr failed
  rw [expanding, wp_bind]
  apply wp_library (.symlink parent name target)
  intro code volume₁ answered
  rw [wp_ite]
  rcases made_of unchanged answered with ⟨fine, made⟩ | ⟨bad, same⟩
  · refine ⟨fun none => ?_, fun _ => .inl ⟨fine, made⟩⟩
    exact absurd (fine.symm.trans none) (by decide : (0 : Errcode) ≠ EXT2_ET_DIR_NO_SPACE)
  · -- A failed attempt leaves the volume as it was, so the retry starts from there.
    rw [same]
    refine ⟨fun _ => ?_, fun _ => .inr ⟨bad, unchanged⟩⟩
    rw [wp_bind]
    apply wp_library (.expandDir parent)
    intro grown volume₂ expanded
    rw [wp_ite]
    rcases expanded with ⟨fine, like, _⟩ | ⟨failed, same, _⟩
    · refine ⟨fun failed => absurd fine failed, fun _ => ?_⟩
      apply wp_library (.symlink parent name target)
      intro code' volume₃ answered
      rcases made_of like answered with made | ⟨bad', same⟩
      · exact .inl made
      · exact .inr ⟨bad', same ▸ like⟩
    · rw [same]
      exact ⟨fun _ => .inr ⟨failed, unchanged⟩, fun fine => absurd failed fine⟩

/-- A new symbolic link has the name at the end of the path. -/
def Symlinked (resolver : Resolver) (volume : Volume) (src dest : Path) (volume' : Volume) : Prop :=
  ∃ before name parent, strrchr dest = some (before, name) ∧
    resolver.walk volume (before ++ [slash]) = .ok parent ∧ SymlinkMade volume parent name src volume'

/-- `node_ext2fs_symlink` adds a symbolic link. When it fails it may have done so, too. -/
theorem nodeExt2fsSymlink_symlinked (closed : resolver.Closed) (placed : volume.Placed)
    (src dest : Path) (nonempty : ∀ before name, strrchr dest = some (before, name) → name ≠ []) :
    wp (libext2fs resolver steady) (nodeExt2fsSymlink src dest)
      (fun ret volume' => Symlinked resolver volume src dest volume' ∨
        ret ≠ 0 ∧ volume.Like volume') volume := by
  have unchanged : volume.Like volume := ⟨volume.fits, volume.grows, rfl⟩
  rw [nodeExt2fsSymlink, wp_bind]
  apply wp_library .strdup
  intro duplicated volume₁ same
  rw [show volume₁ = _ from same, wp_ite]
  refine ⟨fun _ => .inr ⟨by decide, unchanged⟩, fun _ => ?_⟩
  rcases split : strrchr dest with _ | ⟨before, name⟩
  · exact .inr ⟨by decide, unchanged⟩
  · dsimp only
    rw [wp_bind]
    apply wp_library (.namei (before ++ [slash]))
    intro parent volume₂ allowed
    obtain ⟨same, resolved⟩ := allowed
    rw [same, wp_ite]
    refine ⟨fun bad => ?_, fun fine => ?_⟩
    · apply wp_mono (translateError_quiet parent.1)
      intro ret volume' quiet
      rw [quiet.1]
      exact .inr ⟨quiet.2 bad, unchanged⟩
    have walked := (walk_of_resolved resolved (not_not.mp fine)).1
    have used := used_of_walk closed placed (.inl walked)
    rw [wp_bind]
    apply wp_mono (expanding_symlink placed src used (nonempty before name split))
    intro code volume₃ outcome
    rw [wp_ite]
    rcases outcome with ⟨fine, made⟩ | ⟨bad, like⟩
    · refine ⟨fun bad => absurd fine bad, fun _ => ?_⟩
      have symlinked : Symlinked resolver volume src dest volume₃ :=
        ⟨before, name, parent.2, split, walked, made⟩
      rw [wp_bind]
      apply wp_mono (updateMtime_none parent.2)
      intro stamped volume₄ outcome
      rw [outcome.1, wp_ite]
      refine ⟨fun _ => .inl symlinked, fun _ => ?_⟩
      exact wp_mono (rewriteChild_quiet dest) fun _ _ same => .inl (same ▸ symlinked)
    · refine ⟨fun _ => ?_, fun fine => absurd bad fine⟩
      apply wp_mono (translateError_quiet code)
      intro ret volume' quiet
      rw [quiet.1]
      exact .inr ⟨quiet.2 bad, like⟩

theorem nodeExt2fsSymlink_formed (closed : resolver.Closed) (formed : volume.WellFormed exact rooted)
    (src dest : Path) (nonempty : ∀ before name, strrchr dest = some (before, name) → name ≠ []) :
    wp (libext2fs resolver steady) (nodeExt2fsSymlink src dest)
      (fun _ volume' => volume'.WellFormed exact rooted) volume := by
  apply wp_mono (nodeExt2fsSymlink_symlinked closed formed.placed src dest nonempty)
  intro ret volume' outcome
  rcases outcome with ⟨_, name, parent, _, _, ino, mode, before, after, isLnk, _, new, split, like⟩ |
    ⟨_, like⟩
  · have file := formed_file formed (@relisted_insert volume (volume.setEntries parent (before ++
        { inode := ino, name := name, fileType := EXT2_FT_SYMLINK } :: after)) parent
        { inode := ino, name := name, fileType := EXT2_FT_SYMLINK } before after split
        ⟨volume.fits, volume.grows, rfl⟩) new (lnk_not_dir isLnk)
    have made : (volume.makeSymlink parent ino name src mode before after).WellFormed exact rooted :=
      formed_same file rfl rfl
    exact formed_like made like
  · exact formed_like formed like

/-- What a path leads to is referred to. -/
theorem referred_of_walk {resolver : Resolver} (closed : resolver.Closed)
    (placed : volume.Placed) {path : Path} {ino : Ino}
    (found : resolver.walk volume path = .ok ino) : 0 < volume.census.references ino := by
  have both := closed volume
    (fun ino => volume.inUse ino = true ∧ 0 < volume.census.references ino)
    ⟨placed.shaped.root.1, references_pos placed.shaped placed.shaped.root⟩ ?_ path ino
    (.inl found)
  · exact both.2
  · intro dir name ino used looked
    refine ⟨used_of_lookup placed used.1 looked, ?_⟩
    obtain ⟨directory, entry, there, _, same⟩ := find_of_lookup looked
    exact Multiset.countP_pos_of_mem
      (place_of_entry placed ⟨used.1, directory⟩ (List.mem_of_find?_eq_some there)) same

/-- What a hard link needs: a file, a name that no directory must have, a count that can grow, and,
where the counts are exact, a directory that can take the name. -/
structure Linkable (exact : Prop) (volume : Volume) (ino parent : Ino) (name : Name) : Prop where
  isFile : volume.isDir ino = false
  uncounted : volume.links ino ≠ 0xffff#16
  proper : volume.isDir parent = true → name ≠ dot ∧ name ≠ dotdot
  room : exact → volume.isDir parent = true ∧
    (volume.fits parent name = true ∨ volume.grows parent = true)

/-- The volume after a change of one count. -/
def recounted (volume : Volume) (dir : Ino) (change : BitVec 16) : Volume :=
  volume.written dir (volume.mode dir) (volume.links dir + change)

theorem census_recounted (dir : Ino) (change : BitVec 16) :
    (recounted volume dir change).census =
      { inUse := volume.census.inUse
        isDir := volume.census.isDir
        links := Function.update volume.census.links dir (volume.links dir + change).toNat
        names := volume.census.names } :=
  census_written rfl

/-- On a working disk, the inode that is written back has the count that was raised. -/
theorem raised_written (calm : steady) {ino : Ino} {inode stamped : InodeLarge} {code : Errcode}
    {volume' : Volume} (mode : inode.iMode = volume.mode ino)
    (links : inode.iLinksCount = volume.links ino)
    (keeps : Keeps { inode.toInode with iLinksCount := inode.iLinksCount + 1 } stamped.toInode)
    (wrote : effect resolver steady volume (.writeInodeFull ino stamped) code volume') :
    code = 0 ∧ volume' = recounted volume ino 1 := by
  rcases wrote with ⟨zero, done⟩ | ⟨unsteady, _⟩
  · rw [done, keeps.1, keeps.2, mode, links]
    exact ⟨zero, rfl⟩
  · exact absurd calm unsteady

/-- What `link` leaves once it has raised the count: the entry as well, or, when it fails, a directory
without space for it. -/
def Raised (resolver : Resolver) (volume : Volume) (src : Path) (parent : Ino) (name : Name) (ret : Int)
    (volume' : Volume) : Prop :=
  ∃ ino, resolver.walk volume src = .ok ino ∧
    (ret ≠ 0 ∧ (recounted volume ino 1).Like volume' ∧ (volume.isDir parent = true →
        volume.fits parent name = false ∧ volume.grows parent = false) ∨
      ret = 0 ∧ volume.isDir parent = true ∧ ∃ fileType before after,
        fileType = ext2FileType (volume.mode ino) ∧ volume.entries parent = before ++ after ∧ ((recounted volume ino 1).setEntries parent
          (before ++ { inode := ino, name := name, fileType := fileType } :: after)).Like volume')

theorem recounted_isDir (volume : Volume) (ino : Ino) (change : BitVec 16) :
    (recounted volume ino change).isDir = volume.isDir :=
  congrArg Census.isDir (census_recounted ino change)

/-- The count is written first, and the entry added after it. -/
theorem linkInto_raised (calm : steady) (src : Path) (parent : Ino) (name : Name) :
    wp (libext2fs resolver steady) (linkInto src parent name)
      (fun ret volume' => ret ≠ 0 ∧ volume' = volume ∨
        Raised resolver volume src parent name ret volume') volume := by
  have failed {err : Errcode} (bad : err ≠ 0) : wp (libext2fs resolver steady) (translateError err)
      (fun ret volume' => ret ≠ 0 ∧ volume' = volume ∨
        Raised resolver volume src parent name ret volume') volume :=
    wp_mono (translateError_quiet err) fun _ _ quiet => .inl ⟨quiet.2 bad, quiet.1⟩
  rw [linkInto, wp_bind]
  apply wp_library (.namei src)
  intro source volume₁ allowed
  obtain ⟨same, resolved⟩ := allowed
  rw [same, wp_ite]
  refine ⟨fun bad => failed ?_, fun known => ?_⟩
  · intro fine
    exact bad.elim (fun other => other fine) (walk_of_resolved resolved fine).2
  have walked := (walk_of_resolved resolved (not_not.mp fun bad => known (.inl bad))).1
  rw [wp_bind]
  apply wp_library (.readInodeFull source.2)
  intro answer volume₂ allowed
  obtain ⟨same, read, _⟩ := allowed
  rw [same, wp_ite]
  refine ⟨fun bad => failed bad, fun fine => ?_⟩
  obtain ⟨mode, links⟩ := read (not_not.mp fine)
  rw [wp_bind]
  apply wp_mono (updateCtime_some source.2 _)
  intro stamped volume₃ outcome
  obtain ⟨same, _, keeps⟩ := outcome
  rw [same, wp_ite]
  refine ⟨fun bad => .inl ⟨bad, rfl⟩, fun _ => ?_⟩
  have format : stamped.2.iMode = volume.mode source.2 := keeps.1.trans mode
  rw [wp_bind]
  apply wp_library (.writeInodeFull source.2 stamped.2)
  intro code volume₄ wrote
  obtain ⟨zero, result⟩ := raised_written calm mode links keeps wrote
  rw [wp_ite]
  refine ⟨fun bad => absurd zero bad, fun _ => ?_⟩
  rw [wp_bind]
  rw [format]
  generalize kind : ext2FileType (volume.mode source.2) = fileType
  apply wp_mono (expanding_link calm parent name source.2 fileType)
  intro code' volume₅ added
  rw [result, recounted_isDir] at added
  rw [wp_ite]
  rcases added with ⟨fine, directory, before, after, split, like⟩ | ⟨bad, like, full⟩
  · refine ⟨fun bad => absurd fine bad, fun _ => ?_⟩
    rw [wp_bind]
    apply wp_mono (updateMtime_none parent)
    intro touched volume₆ outcome
    rw [outcome.1]
    exact .inr ⟨source.2, walked, .inr
      ⟨outcome.2 calm, directory, fileType, before, after, kind.symm, split, like⟩⟩
  · refine ⟨fun _ => ?_, fun fine => absurd bad fine⟩
    apply wp_mono (translateError_quiet code')
    intro ret volume₆ quiet
    rw [quiet.1]
    exact .inr ⟨source.2, walked, .inl ⟨quiet.2 bad, like, full⟩⟩

theorem census_raised {ino : Ino} (uncounted : volume.links ino ≠ 0xffff#16) :
    (recounted volume ino 1).census = { volume.census with
      links := Function.update volume.census.links ino (volume.census.links ino + 1) } := by
  rw [census_recounted, increment_toNat uncounted]
  rfl

section Raising

variable (placed : volume.Placed) {ino parent : Ino}
include placed

/-- The census with a raised count. -/
theorem raised_census (uncounted : volume.links ino ≠ 0xffff#16)
    (like : (recounted volume ino 1).Like volume') :
    volume'.census = { volume.census with
      links := Function.update volume.census.links ino (volume.census.links ino + 1) } ∧
    ∀ other, volume'.inUse other = true → other ≤ volume'.inodesCount := by
  obtain ⟨fits, grows, same⟩ := like
  rw [same]
  exact ⟨census_raised uncounted, placed.bounded⟩

/-- The census with a name more of a file. -/
theorem linked_census {entry : DirEntry} {before after : List DirEntry}
    (uncounted : volume.links ino ≠ 0xffff#16) (holder : volume.census.Live parent)
    (split : volume.entries parent = before ++ after)
    (like : ((recounted volume ino 1).setEntries parent (before ++ entry :: after)).Like volume') :
    volume'.census = { volume.census with
      links := Function.update volume.census.links ino (volume.census.links ino + 1)
      names := (parent, entry) ::ₘ volume.census.names } ∧
    ∀ other, volume'.inUse other = true → other ≤ volume'.inodesCount := by
  have relisted := @relisted_insert (recounted volume ino 1) volume' parent entry before after split like
  have holder' : (recounted volume ino 1).census.Live parent := by
    rw [census_raised uncounted]
    exact holder
  refine ⟨?_, ?_⟩
  · rw [relisted.census, relisted.added (placed.bounded parent holder.1) holder', census_raised uncounted]
  · intro other inUse
    rw [relisted.inUse] at inUse
    rw [relisted.inodesCount]
    exact placed.bounded other inUse

end Raising

theorem linkInto_formed (calm : steady) (closed : resolver.Closed)
    (formed : volume.WellFormed exact rooted) (src : Path) {parent : Ino} {name : Name}
    (used : volume.inUse parent = true) (nonempty : name ≠ [])
    (linkable : ∀ ino, resolver.walk volume src = .ok ino → Linkable exact volume ino parent name) :
    wp (libext2fs resolver steady) (linkInto src parent name)
      (fun _ volume' => volume'.WellFormed exact rooted) volume := by
  apply wp_mono (linkInto_raised calm src parent name)
  intro ret volume' outcome
  rcases outcome with ⟨_, same⟩ | ⟨ino, walked, raised⟩
  · rw [same]
    exact formed
  obtain ⟨isFile, uncounted, proper, room⟩ := linkable ino walked
  have counted := formed.sound.counts ino
  have covered := counted.covered isFile
  rcases raised with ⟨_, like, full⟩ | ⟨_, directory, fileType, before, after, _, split, like⟩
  · obtain ⟨census, bounded⟩ := raised_census formed.placed uncounted like
    apply formed_edit formed _ bounded
    rw [census]
    apply Edit.count ino (volume.census.links ino + 1) isFile
    · intro holds
      obtain ⟨directory, fits⟩ := room holds
      obtain ⟨noSpace, stuck⟩ := full directory
      rcases fits with fits | grows
      · exact absurd (fits.symm.trans noSpace) Bool.noConfusion
      · exact absurd (grows.symm.trans stuck) Bool.noConfusion
    · exact Nat.le_succ_of_le covered
  · have holder : volume.census.Live parent := ⟨used, directory⟩
    obtain ⟨census, bounded⟩ := linked_census formed.placed uncounted holder split like
    have referred := referred_of_walk closed formed.placed walked
    have inUse := used_of_walk closed formed.placed (.inl walked)
    apply formed_edit formed _ bounded
    rw [census]
    refine Edit.name (parent, { inode := ino, name := name, fileType := fileType })
      (volume.census.links ino + 1) ⟨holder, proper directory, nonempty⟩ inUse isFile ?_ ?_
    · intro holds
      exact congrArg Nat.succ (counted.counted referred (.inr holds))
    · exact Nat.succ_le_succ covered

theorem nodeExt2fsLink_formed (calm : steady) (closed : resolver.Closed)
    (formed : volume.WellFormed exact rooted) (src dest : Path)
    (nonempty : ∀ before name, strrchr dest = some (before, name) → name ≠ [])
    (linkable : ∀ before name parent ino, strrchr dest = some (before, name) →
      resolver.walk volume (before ++ [slash]) = .ok parent → resolver.walk volume src = .ok ino →
      Linkable exact volume ino parent name) :
    wp (libext2fs resolver steady) (nodeExt2fsLink src dest)
      (fun _ volume' => volume'.WellFormed exact rooted) volume := by
  rw [nodeExt2fsLink, wp_bind]
  apply wp_library .strdup
  intro duplicated volume₁ same
  rw [show volume₁ = _ from same, wp_ite]
  refine ⟨fun _ => formed, fun _ => ?_⟩
  rcases split : strrchr dest with _ | ⟨before, name⟩
  · exact formed
  · dsimp only
    rw [wp_bind]
    apply wp_library (.namei (before ++ [slash]))
    intro parent volume₂ allowed
    obtain ⟨same, resolved⟩ := allowed
    rw [same, wp_ite]
    refine ⟨fun _ => formed, fun fine => ?_⟩
    have there := (walk_of_resolved resolved (not_not.mp fine)).1
    exact linkInto_formed calm closed formed src (used_of_walk closed formed.placed (.inl there))
      (nonempty before name split) fun ino found => linkable before name parent.2 ino split there found

end NodeExt2fs.Trees
