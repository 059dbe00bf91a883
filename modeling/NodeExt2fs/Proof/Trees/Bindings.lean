import NodeExt2fs.Structures.Exchanges
import NodeExt2fs.Proof.Trees.Renaming

/-!
This file reads off a volume which names its directories bind, and follows them through each routine.
-/

namespace NodeExt2fs.Trees
open Programs Structures Glue Library
open Program (wp wp_bind wp_ite wp_mono wp_counting)

variable {resolver : Resolver} {exact rooted : Prop} {volume volume' volume'' : Volume}

/-- A name in a directory, with the inode that it refers to. -/
structure Binding where
  dir : Ino
  name : Name
  ino : Ino
  deriving DecidableEq

def bound (place : Place) : Binding :=
  { dir := place.1, name := place.2.name, ino := place.2.inode }

/-- The names at some places, without the two that every directory has. -/
def bindingsOf (names : Multiset Place) : Multiset Binding :=
  (names.filter fun place => Plain place.2).map bound

theorem bindingsOf_plain {place : Place} (plain : Plain place.2) (names : Multiset Place) :
    bindingsOf (place ::ₘ names) = bound place ::ₘ bindingsOf names := by
  rw [bindingsOf, Multiset.filter_cons_of_pos (p := fun place : Place => Plain place.2) _ plain,
    Multiset.map_cons]
  rfl

theorem bindingsOf_special {place : Place} (special : place.2.name = dot ∨ place.2.name = dotdot)
    (names : Multiset Place) : bindingsOf (place ::ₘ names) = bindingsOf names := by
  have other : ¬Plain place.2 := fun plain => special.elim plain.1 plain.2
  rw [bindingsOf, Multiset.filter_cons_of_neg (p := fun place : Place => Plain place.2) _ other]
  rfl

/-- The names of a filesystem. -/
def bindings (volume : Volume) : Multiset Binding := bindingsOf volume.census.names

/-- Every entry has the file type of its inode. -/
def Typed (volume : Volume) : Prop :=
  ∀ place ∈ volume.census.names, place.2.fileType = ext2FileType (volume.mode place.2.inode)

/-- What is in use keeps its mode, and where the entries have the file types of their inodes, they still
do. -/
structure Recorded (volume volume' : Volume) : Prop where
  mode : ∀ ino, volume.inUse ino = true → volume'.mode ino = volume.mode ino
  typed : Typed volume → Typed volume'

/-- Only new entries can be of a wrong type. -/
theorem typed_of_names
    (kept : ∀ place ∈ volume.census.names, volume'.mode place.2.inode = volume.mode place.2.inode)
    (names : ∀ place ∈ volume'.census.names, place ∈ volume.census.names ∨
      (Typed volume → place.2.fileType = ext2FileType (volume'.mode place.2.inode))) :
    Typed volume → Typed volume' := by
  intro typed place member
  rcases names place member with old | new
  · rw [kept place old]
    exact typed place old
  · exact new typed

/-- No mode differs, and no entry gets a wrong type. -/
structure SameModes (volume volume' : Volume) : Prop where
  mode : volume'.mode = volume.mode
  typed : Typed volume → Typed volume'

theorem SameModes.recorded (same : SameModes volume volume') : Recorded volume volume' :=
  ⟨fun ino _ => congrFun same.mode ino, same.typed⟩

theorem SameModes.trans (first : SameModes volume volume') (second : SameModes volume' volume'') :
    SameModes volume volume'' :=
  ⟨second.mode.trans first.mode, second.typed ∘ first.typed⟩

theorem sameModes_of_names (mode : volume'.mode = volume.mode)
    (names : ∀ place ∈ volume'.census.names, place ∈ volume.census.names ∨
      (Typed volume → place.2.fileType = ext2FileType (volume.mode place.2.inode))) :
    SameModes volume volume' :=
  ⟨mode, typed_of_names (fun place _ => congrFun mode place.2.inode) (by rw [mode]; exact names)⟩

/-- A new inode may be of any kind. -/
theorem recorded_fresh (placed : volume.Placed) {ino : Ino} {kind : BitVec 16}
    (fresh : volume.inUse ino = false) (made : volume'.mode = Function.update volume.mode ino kind)
    (names : ∀ place ∈ volume'.census.names, place ∈ volume.census.names ∨
      place.2.fileType = ext2FileType (volume'.mode place.2.inode)) : Recorded volume volume' := by
  have kept (other : Ino) (used : volume.inUse other = true) : volume'.mode other = volume.mode other := by
    have apart : other ≠ ino := by
      intro same
      rw [same, fresh] at used
      cases used
    rw [made, Function.update_of_ne apart]
  refine ⟨kept, typed_of_names ?_ ?_⟩
  · exact fun place member => kept place.2.inode (placed.shaped.held place member).2.1
  · exact fun place member => (names place member).imp_right fun typed _ => typed

/-- No name differs, and no mode. -/
structure SameNames (volume volume' : Volume) : Prop where
  names : volume'.census.names = volume.census.names
  mode : volume'.mode = volume.mode

theorem SameNames.refl (volume : Volume) : SameNames volume volume := ⟨rfl, rfl⟩

theorem SameNames.bindings (same : SameNames volume volume') : bindings volume' = bindings volume :=
  congrArg bindingsOf same.names

theorem SameNames.modes (same : SameNames volume volume') : SameModes volume volume' :=
  sameModes_of_names same.mode fun _ member => .inl (same.names ▸ member)

theorem names_same (same : SameCensus volume volume') : SameNames volume volume' :=
  ⟨congrArg Census.names same.census, same.mode⟩

theorem names_like (like : volume.Like volume') : SameNames volume volume' := by
  obtain ⟨fits, grows, equal⟩ := like
  rw [equal]
  exact ⟨rfl, rfl⟩

/-- A plain entry more. -/
theorem bindings_entry {dir : Ino} {entry : DirEntry} (plain : Plain entry)
    (same : volume'.census.names = (dir, entry) ::ₘ volume.census.names) :
    bindings volume' = ⟨dir, entry.name, entry.inode⟩ ::ₘ bindings volume := by
  rw [bindings, same, bindingsOf_plain plain]
  rfl

/-- A new directory is one name more, as its own two names are not counted. -/
theorem bindings_directory (placed : volume.Placed) {parent ino : Ino} {name : Name} {mode : BitVec 16}
    {before after : List DirEntry} (split : volume.entries parent = before ++ after)
    (new : Fresh volume parent (directoryEntry ino name)) (kind : linuxSIsdir mode = true) :
    bindings (volume.makeDir parent ino name mode before after) =
      ⟨parent, name, ino⟩ ::ₘ bindings volume := by
  rw [bindings, (names_directory placed split new kind).2, bindingsOf_plain new.plain,
    bindingsOf_special (.inl rfl), bindingsOf_special (.inr rfl)]
  rfl

theorem bindings_founded (placed : volume.Placed) {path : Path}
    (founded : Founded resolver volume path volume') : ∃ before name parent ino,
      strrchr path = some (before, name) ∧ resolver.walk volume (before ++ [slash]) = .ok parent ∧
      volume.find parent name = none ∧ volume.inUse ino = false ∧
      bindings volume' = ⟨parent, name, ino⟩ ::ₘ bindings volume ∧ Recorded volume volume' := by
  obtain ⟨before, name, parent, ino, made, kind, left, right, mode, split, there, absent, new, isDir,
    parts, like, directory, written⟩ := founded
  have census := @census_written made ino mode (made.links ino)
    (directory.trans (founded_isDir isDir like).symm)
  have same := names_like like
  have names : volume'.census.names = (volume.makeDir parent ino name kind left right).census.names := by
    rw [written, census, ← same.names]
  have modes : volume'.mode = Function.update volume.mode ino mode := by
    rw [written]
    show Function.update made.mode ino mode = _
    rw [same.mode]
    exact Function.update_idem _ _ _
  refine ⟨before, name, parent, ino, split, there, absent, new.fresh, ?_, ?_⟩
  · rw [← bindings_directory placed parts new isDir]
    exact congrArg bindingsOf names
  · have apart : parent ≠ ino := by
      intro same
      have fresh : volume.inUse ino = false := new.fresh
      rw [← same] at fresh
      exact Bool.noConfusion (fresh.symm.trans new.holder.1)
    have own : volume'.isDir ino = true := by
      show linuxSIsdir (volume'.mode ino) = true
      rw [modes, Function.update_self]
      exact directory
    have up : volume'.isDir parent = true := by
      show linuxSIsdir (volume'.mode parent) = true
      rw [modes, Function.update_of_ne apart]
      exact new.holder.2
    apply recorded_fresh placed new.fresh modes
    intro place member
    rw [names, (names_directory placed parts new isDir).2, Multiset.mem_cons, Multiset.mem_cons,
      Multiset.mem_cons] at member
    rcases member with same | same | same | old
    · rw [same]
      exact .inr (fileType_directory own).symm
    · rw [same]
      exact .inr (fileType_directory own).symm
    · rw [same]
      exact .inr (fileType_directory up).symm
    · exact .inl old

/-- The modes with a new file. -/
theorem recorded_entry (placed : volume.Placed) {dir : Ino} {entry : DirEntry} {mode : BitVec 16}
    (fresh : volume.inUse entry.inode = false)
    (modes : volume'.mode = Function.update volume.mode entry.inode mode)
    (kind : entry.fileType = ext2FileType mode)
    (names : volume'.census.names = (dir, entry) ::ₘ volume.census.names) : Recorded volume volume' := by
  apply recorded_fresh placed fresh modes
  intro place member
  rw [names, Multiset.mem_cons] at member
  rcases member with same | old
  · rw [same, modes, Function.update_self]
    exact .inr kind
  · exact .inl old

theorem bindings_filed (placed : volume.Placed) {path : Path} {ino : Ino}
    (filed : Filed resolver volume path ino volume') : ∃ before name dir,
      strrchr path = some (before, name) ∧ resolver.walk volume (before ++ [slash]) = .ok dir ∧
      volume.inUse ino = false ∧ bindings volume' = ⟨dir, name, ino⟩ ::ₘ bindings volume ∧
      Recorded volume volume' := by
  obtain ⟨before, entry, dir, linked, mode, split, refers, there, relisted, new, isFile, kind, made⟩ := filed
  rw [← refers] at made ⊢
  have census := census_file placed relisted new isFile
  rw [← made] at census
  have names : volume'.census.names = (dir, entry) ::ₘ volume.census.names := by rw [census]
  have modes : volume'.mode = Function.update volume.mode entry.inode mode := by
    rw [made, ← relisted.mode]
    rfl
  exact ⟨before, entry.name, dir, split, there, new.fresh, bindings_entry new.plain names,
    recorded_entry placed new.fresh modes kind names⟩

theorem bindings_symlinked (placed : volume.Placed) {src dest : Path}
    (made : Symlinked resolver volume src dest volume') : ∃ before name dir ino,
      strrchr dest = some (before, name) ∧ resolver.walk volume (before ++ [slash]) = .ok dir ∧
      volume.find dir name = none ∧ volume.inUse ino = false ∧
      bindings volume' = ⟨dir, name, ino⟩ ::ₘ bindings volume ∧ Recorded volume volume' := by
  obtain ⟨before, name, dir, split, there, ino, mode, left, right, isLnk, absent, new, parts, like⟩ := made
  have census := census_file placed (@relisted_insert volume (volume.setEntries dir (left ++
    { inode := ino, name := name, fileType := EXT2_FT_SYMLINK } :: right)) dir
    { inode := ino, name := name, fileType := EXT2_FT_SYMLINK } left right parts
    ⟨volume.fits, volume.grows, rfl⟩) new (lnk_not_dir isLnk)
  have same := names_like like
  have names : volume'.census.names =
      (dir, { inode := ino, name := name, fileType := EXT2_FT_SYMLINK }) ::ₘ volume.census.names :=
    same.names.trans (congrArg Census.names census)
  exact ⟨before, name, dir, ino, split, there, absent, new.fresh, bindings_entry new.plain names,
    recorded_entry placed new.fresh same.mode (fileType_symlink isLnk).symm names⟩

theorem recounted_mode (volume : Volume) (ino : Ino) (change : BitVec 16) :
    (recounted volume ino change).mode = volume.mode := Function.update_eq_self ino volume.mode

/-- A hard link is one name more. When it fails, the names stay. -/
theorem bindings_raised (placed : volume.Placed) {src : Path} {parent : Ino} {name : Name} {ret : Int}
    (used : volume.inUse parent = true)
    (linkable : ∀ ino, resolver.walk volume src = .ok ino → Linkable exact volume ino parent name)
    (raised : Raised resolver volume src parent name ret volume') :
    ret ≠ 0 ∧ SameNames volume volume' ∨ ret = 0 ∧ ∃ ino, resolver.walk volume src = .ok ino ∧
      bindings volume' = ⟨parent, name, ino⟩ ::ₘ bindings volume ∧ SameModes volume volume' := by
  obtain ⟨ino, walked, ⟨bad, like, _⟩ |
    ⟨zero, directory, fileType, before, after, kind, split, like⟩⟩ := raised
  · have census := (raised_census placed (linkable ino walked).uncounted like).1
    exact .inl ⟨bad, by rw [census], (names_like like).mode.trans (recounted_mode volume ino 1)⟩
  · have linked := linked_census placed (linkable ino walked).uncounted ⟨used, directory⟩ split like
    have names : volume'.census.names =
        (parent, { inode := ino, name := name, fileType := fileType }) ::ₘ volume.census.names := by
      rw [linked.1]
    have plain : Plain { inode := ino, name := name, fileType := fileType } :=
      (linkable ino walked).proper directory
    refine .inr ⟨zero, ino, walked, bindings_entry plain names, ?_⟩
    apply sameModes_of_names ((names_like like).mode.trans (recounted_mode volume ino 1))
    intro place member
    rw [names, Multiset.mem_cons] at member
    rcases member with same | old
    · rw [same]
      exact .inr fun _ => kind
    · exact .inl old

/-- What a removal that succeeded took. -/
theorem bindings_unfiled (placed : volume.Placed) {path : Path} {dir : Ino} {name : Name}
    {entry : DirEntry} (unfiled : Unfiled resolver volume path dir name entry volume') :
    bindings volume = ⟨dir, name, entry.inode⟩ ::ₘ bindings volume' ∧ SameModes volume volume' := by
  obtain ⟨rest, split, census⟩ := unfiled.census placed
  have named := find_name unfiled.found
  have plain : Plain entry := plain_of_file placed.shaped
    (place_of_entry placed unfiled.holder (List.mem_of_find?_eq_some unfiled.found)) unfiled.isFile
  have names : volume'.census.names = rest := by rw [census]
  apply And.intro
  · rw [← named, bindings, split, bindingsOf_plain plain, bindings, names]
    rfl
  · obtain ⟨erased, removed, taken⟩ := unfiled.steps
    apply sameModes_of_names (taken.mode.trans (relisted_erase unfiled.found removed.2.2).mode)
    intro place member
    rw [names] at member
    rw [split]
    exact .inl (Multiset.mem_cons_of_mem member)

theorem bindings_emptied (placed : volume.Placed) {path : Path} {dir : Ino} {name : Name}
    {entry : DirEntry} (emptied : Emptied resolver volume path dir name entry volume') :
    bindings volume = ⟨dir, name, entry.inode⟩ ::ₘ bindings volume' ∧ SameModes volume volume' := by
  obtain ⟨own, up, rest, split, ownName, upName, _, census⟩ := emptied.census placed
  have named := find_name emptied.found
  have names : volume'.census.names = rest := by rw [census]
  apply And.intro
  · rw [← named, bindings, split, bindingsOf_plain emptied.plain, bindingsOf_special (.inl ownName),
      bindingsOf_special (.inr upName), bindings, names]
    rfl
  · obtain ⟨erased, freed, removed, taken, written⟩ := emptied.steps
    have modes : volume'.mode = freed.mode := by
      rw [written]
      exact Function.update_eq_self dir freed.mode
    apply sameModes_of_names
      ((modes.trans taken.mode).trans (relisted_erase emptied.found removed.2.2).mode)
    intro place member
    rw [names] at member
    rw [split]
    exact .inl (Multiset.mem_cons_of_mem (Multiset.mem_cons_of_mem (Multiset.mem_cons_of_mem member)))

theorem bindings_targetRemoved (placed : volume.Placed) {path : Path} {dir ino : Ino} {name : Name}
    (removed : TargetRemoved resolver volume path dir name ino volume') :
    bindings volume = ⟨dir, name, ino⟩ ::ₘ bindings volume' ∧ SameModes volume volume' := by
  obtain ⟨entry, refers, unfiled | emptied⟩ := removed
  · exact refers ▸ bindings_unfiled placed unfiled
  · exact refers ▸ bindings_emptied placed emptied

/-- The parent of a directory is a directory. -/
theorem up_live (shaped : volume.census.Shaped) {place : Place} (member : place ∈ volume.census.names)
    (upName : place.2.name = dotdot) : volume.census.Live place.2.inode := by
  by_cases root : place.1 = EXT2_ROOT_INO
  · rw [shaped.rootParent place member upName root]
    exact shaped.root
  · obtain ⟨name, inside, _, _, same⟩ := shaped.parent place member upName root
    rw [← same]
    exact (shaped.held name inside).1

/-- A move takes one name and gives another to the same inode. -/
theorem bindings_moved (formed' : volume'.WellFormed exact rooted) {fromIno fromDir toDir : Ino}
    {fromName toName : Name} {old : DirEntry}
    (moving : ∀ fileType, Moving volume' fromDir toDir fromName old
      { inode := fromIno, name := toName, fileType := fileType })
    (room : volume'.isDir fromIno = true → fromDir ≠ toDir → volume'.links toDir ≠ 0xffff#16)
    (moved : Moved volume' fromDir toDir fromName fromIno toName volume'') :
    (Exchange.replace ⟨fromDir, fromName, fromIno⟩ ⟨toDir, toName, fromIno⟩).Leads (bindings volume')
        (bindings volume'') ∧ SameModes volume' volume'' := by
  obtain ⟨fileType, before, after, linked, kind, split, like, erased⟩ := moved
  have moving := moving fileType
  have named := find_name moving.found
  have refers : fromIno = old.inode := moving.same
  have oldBound : bound (fromDir, old) = ⟨fromDir, fromName, fromIno⟩ := by
    rw [bound, named, refers]
  have relisted := relisted_insert split like
  have modes : volume''.mode = volume'.mode := by
    by_cases directory : linked.isDir fromIno = true
    · rw [if_pos directory] at erased
      rw [(names_like erased.2.2).mode]
      exact (redirected_mode fromIno fromDir toDir).trans relisted.mode
    · rw [if_neg directory] at erased
      exact (names_like erased.2.2).mode.trans relisted.mode
  rw [relisted.isDir] at erased
  by_cases directory : volume'.isDir fromIno = true
  · rw [if_pos directory] at erased
    have counted : (volume'.links fromDir).toNat ≠ 0 := by
      rw [show (volume'.links fromDir).toNat = _ from counted_live formed'.sound moving.fromLive]
      exact Nat.pos_iff_ne_zero.mp (references_pos formed'.sound.toShaped moving.fromLive)
    rw [refers] at erased
    obtain ⟨⟨up, rest, names, upName, census⟩, _⟩ := moved_directory formed'.placed moving split like
      (refers ▸ directory) counted (room directory) erased
    have names' : volume''.census.names = (toDir, { inode := fromIno, name := toName, fileType := fileType })
        ::ₘ (old.inode, { up with inode := toDir }) ::ₘ rest := by rw [census]
    refine ⟨⟨bindingsOf rest, ?_, ?_⟩, ?_⟩
    · rw [bindings, names, bindingsOf_plain moving.plainOld, bindingsOf_special (.inr upName), oldBound]
      rfl
    · rw [bindings, names', bindingsOf_plain moving.plainNew, bindingsOf_special (.inr upName)]
      rfl
    · apply sameModes_of_names modes
      intro place member
      rw [names', Multiset.mem_cons, Multiset.mem_cons] at member
      rcases member with same | same | stays
      · rw [same]
        exact .inr fun _ => kind
      · -- The entry for the parent was of the type of a directory.
        have upMember : (old.inode, up) ∈ volume'.census.names := by
          rw [names]
          exact Multiset.mem_cons_of_mem (Multiset.mem_cons_self _ _)
        have isDir := (up_live formed'.placed.shaped upMember upName).2
        rw [same]
        refine .inr fun typed => ?_
        rw [fileType_directory moving.toLive.2, ← fileType_directory isDir]
        exact typed _ upMember
      · rw [names]
        exact .inl (Multiset.mem_cons_of_mem (Multiset.mem_cons_of_mem stays))
  · rw [if_neg directory] at erased
    obtain ⟨⟨rest, names, census⟩, _⟩ := moved_file formed'.placed moving split like erased
    have names' : volume''.census.names =
        (toDir, { inode := fromIno, name := toName, fileType := fileType }) ::ₘ rest := by rw [census]
    refine ⟨⟨bindingsOf rest, ?_, ?_⟩, ?_⟩
    · rw [bindings, names, bindingsOf_plain moving.plainOld, oldBound]
      rfl
    · rw [bindings, names', bindingsOf_plain moving.plainNew]
      rfl
    · apply sameModes_of_names modes
      intro place member
      rw [names', Multiset.mem_cons] at member
      rcases member with same | stays
      · rw [same]
        exact .inr fun _ => kind
      · rw [names]
        exact .inl (Multiset.mem_cons_of_mem stays)

end NodeExt2fs.Trees
