import NodeExt2fs.Construction.Js.Names
import NodeExt2fs.Proof.Library.Reference
import NodeExt2fs.Proof.Trees.Renaming

/-!
This file follows link counts and the tree of directories along runs of calls.
-/

namespace NodeExt2fs.Trees
open Programs Structures Glue Library Js
open Program (wp wp_mono run_of_wp)
open Census (Live Shaped Sound Inside Rooted)

/-- A call that keeps the counts and the tree: no directory is emptied by `open`, no directory is
linked, no name that every directory has is removed or moved, no count overflows, a hard link has
space for its entry, and a rename removes the name that it moved. -/
def Orderly (resolver : Resolver) (exact rooted : Prop) (volume : Volume) : NameOperation → Prop
  | .open path flags _ => ∀ used ino, usePath path = some used →
      resolver.lookedUp volume used flags = .ok ino → volume.isDir ino = true →
      hasFlag flags O_TRUNC = true → hasFlag flags O_EXCL = true
  | .mkdir path _ => ∀ used before name parent, usePath path = some used →
      strrchr used = some (before, name) → resolver.walk volume (before ++ [slash]) = .ok parent →
      volume.find parent name = none → volume.links parent ≠ 0xffff#16
  | .link existingPath newPath => ∀ src dest before name parent ino, usePath existingPath = some src →
      usePath newPath = some dest → strrchr dest = some (before, name) →
      resolver.walk volume (before ++ [slash]) = .ok parent → resolver.walk volume src = .ok ino →
      Linkable exact volume ino parent name
  | .symlink _ _ => True
  | .rename existingPath newPath => ∀ fromPath toPath, usePath existingPath = some fromPath →
      usePath newPath = some toPath →
      (∀ target toName toIno, strrchr toPath = some (target, toName) →
        resolver.walk volume toPath = .ok toIno → Vacant volume toIno →
        toName ≠ dot ∧ toName ≠ dotdot) ∧
      ∀ source fromName target toName fromIno fromDir toIno toDir,
        strrchr fromPath = some (source, fromName) → strrchr toPath = some (target, toName) →
        resolver.walk volume fromPath = .ok fromIno →
        resolver.walk volume (source ++ [slash]) = .ok fromDir →
        resolver.walk volume (target ++ [slash]) = .ok toDir →
        Targeted resolver volume toPath fromIno toIno →
        (toIno ≠ 0 → volume.isDir toIno = true → Vacant volume toIno) →
        Movable resolver rooted volume source fromName toName fromIno fromDir toIno toDir
  | .unlink _ => True
  | .rmdir path => ∀ used ino dir name, usePath path = some used →
      resolver.walk volume used = .ok ino → Vacant volume ino →
      Located resolver volume used dir name → name ≠ dot ∧ name ≠ dotdot

variable {Hidden : Type} {resolver : Resolver} {exact rooted : Prop} {volume : Volume}
  {library : Handler Call Answer Hidden} {view : Hidden → Volume}

/-- The C function of an orderly call keeps the volume well-formed. -/
theorem routine_formed (closed : resolver.Closed) (formed : volume.WellFormed exact rooted)
    {operation : NameOperation} (orderly : Orderly resolver exact rooted volume operation)
    {routine : Routine Int} (named : operation.routine? = some routine) :
    wp (libext2fs resolver True) routine (fun _ volume' => volume'.WellFormed exact rooted) volume := by
  cases operation with
  | «open» raw flags mode =>
      obtain ⟨path, used, same⟩ := Option.bind_eq_some_iff.mp named
      rw [← Option.some.inj same]
      exact nodeExt2fsOpen_formed trivial closed formed path flags mode
        fun ino => orderly path ino used
  | mkdir raw mode =>
      obtain ⟨path, used, same⟩ := Option.bind_eq_some_iff.mp named
      rw [← Option.some.inj same]
      exact nodeExt2fsMkdir_formed trivial closed formed path mode
        fun before name parent => orderly path before name parent used
  | link existingPath newPath =>
      obtain ⟨src, source, rest⟩ := Option.bind_eq_some_iff.mp named
      obtain ⟨dest, target, same⟩ := Option.bind_eq_some_iff.mp rest
      rw [← Option.some.inj same]
      exact nodeExt2fsLink_formed trivial closed formed src dest
        (fun _ _ split => last_of_usePath target split)
        fun before name parent ino => orderly src dest before name parent ino source target
  | symlink target raw =>
      obtain ⟨src, _, rest⟩ := Option.bind_eq_some_iff.mp named
      obtain ⟨dest, used, same⟩ := Option.bind_eq_some_iff.mp rest
      rw [← Option.some.inj same]
      exact nodeExt2fsSymlink_formed closed formed src dest
        fun _ _ split => last_of_usePath used split
  | rename existingPath newPath =>
      obtain ⟨fromPath, source, rest⟩ := Option.bind_eq_some_iff.mp named
      obtain ⟨toPath, target, same⟩ := Option.bind_eq_some_iff.mp rest
      rw [← Option.some.inj same]
      obtain ⟨proper, movable⟩ := orderly fromPath toPath source target
      exact nodeExt2fsRename_formed trivial closed formed fromPath toPath
        (fun _ _ split => last_of_usePath source split)
        (fun _ _ split => last_of_usePath target split) proper movable
  | unlink raw =>
      obtain ⟨path, _, same⟩ := Option.bind_eq_some_iff.mp named
      rw [← Option.some.inj same]
      apply wp_mono (nodeExt2fsUnlink_removal trivial closed formed path)
      intro ret volume' removal
      rcases removal with ⟨_, formed', _⟩ | ⟨_, same⟩
      · exact formed'
      · exact same ▸ formed
  | rmdir raw =>
      obtain ⟨path, used, same⟩ := Option.bind_eq_some_iff.mp named
      rw [← Option.some.inj same]
      apply wp_mono (nodeExt2fsRmdir_removal trivial closed formed path
        fun ino dir name => orderly path ino dir name used)
      intro ret volume' removal
      rcases removal with ⟨_, formed', _⟩ | ⟨_, same⟩
      · exact formed'
      · exact same ▸ formed

theorem formed_step (closed : resolver.Closed)
    (honoured : (libext2fs resolver True).Honoured library view) (hidden : Hidden)
    (operation : NameOperation) (hidden' : Hidden) (formed : (view hidden).WellFormed exact rooted)
    (orderly : Orderly resolver exact rooted (view hidden) operation)
    (taken : operation.step library hidden = some hidden') :
    (view hidden').WellFormed exact rooted := by
  rw [← Option.some.inj taken]
  cases named : operation.routine? with
  | none => exact formed
  | some routine => exact run_of_wp honoured (routine_formed closed formed orderly named)

/-- Runs of orderly calls keep the volume well-formed. -/
theorem formed_reached (closed : resolver.Closed)
    (honoured : (libext2fs resolver True).Honoured library view) {first hidden : Hidden}
    (initial : (view first).WellFormed exact rooted)
    (reached : Reaches (NameOperation.step library)
      (fun hidden => Orderly resolver exact rooted (view hidden)) first hidden) :
    (view hidden).WellFormed exact rooted :=
  @Reaches.invariant _ _ _ _ _ (fun hidden => (view hidden).WellFormed exact rooted) initial
    (formed_step closed honoured) _ reached

theorem references_census (volume : Volume) (ino : Ino) :
    volume.census.references ino = volume.references ino :=
  countP_places _

/-- A well-formed volume with exact counts is balanced. -/
theorem balanced_of_formed (formed : volume.WellFormed True rooted) : volume.Balanced := by
  have referred (ino : Ino) (used : volume.inUse ino = true)
      (ordinary : EXT2_GOOD_OLD_FIRST_INO ≤ ino) : 0 < volume.census.references ino := by
    cases kind : volume.isDir ino with
    | true => exact references_pos formed.sound.toShaped ⟨used, kind⟩
    | false => exact (formed.sound.counts ino).referred trivial used kind ordinary
  constructor
  · intro ino used known
    rw [← references_census] at known ⊢
    apply (formed.sound.counts ino).counted _ (.inr trivial)
    rcases known with ordinary | some
    · exact referred ino used ordinary
    · exact some
  · intro dir entry member
    obtain ⟨live, inside⟩ := mem_liveEntries.mp member
    exact (formed.sound.held _ (place_of_entry formed.placed live inside)).2.1
  · intro ino used ordinary
    rw [← references_census]
    exact referred ino used ordinary

/-- A directory below the root does not hold its own name. -/
theorem holder_ne (formed : volume.WellFormed exact rooted) {dir : Ino}
    (inside : volume.census.Inside EXT2_ROOT_INO dir) (other : dir ≠ EXT2_ROOT_INO) {place : Place}
    (member : place ∈ volume.census.names) (plain : Plain place.2) (refers : place.2.inode = dir) :
    place.1 ≠ dir := by
  induction inside generalizing place with
  | here => exact absurd rfl other
  | @deeper name above named plainly live ih =>
      intro same
      -- The only name of the directory is the last one of the way to it.
      have unique := plain_unique formed.sound.toShaped named member plainly plain live.2 refers
      rw [unique] at same
      exact ih (same ▸ other) named plainly same.symm rfl

/-- The directories of a well-formed volume are a tree when all are below the root. -/
theorem tree_of_formed (formed : volume.WellFormed exact True) : volume.Tree := by
  have shaped := formed.sound.toShaped
  have below := formed.rooted trivial
  have place_of {holder : Ino} {entry : DirEntry} (named : volume.Named holder entry) :
      (holder, entry) ∈ volume.census.names := by
    obtain ⟨live, inside⟩ := mem_liveEntries.mp named.1
    exact place_of_entry formed.placed live inside
  have named_of {place : Place} (member : place ∈ volume.census.names) (plain : Plain place.2) :
      volume.Named place.1 place.2 :=
    ⟨mem_liveEntries.mpr (mem_names.mp member).2, plain⟩
  constructor
  · intro dir used directory
    have inside := below dir ⟨used, directory⟩
    induction inside with
    | here => exact .root
    | @deeper place above member plain _ ih =>
        have holder := (shaped.held place member).1
        exact .deeper (ih holder.1 holder.2) (named_of member plain)
  · intro dir used directory other
    have once := shaped.once dir ⟨used, directory⟩ other
    have present : 0 < volume.census.outer dir := by
      rw [once]
      exact Nat.one_pos
    obtain ⟨place, member, refers, plain⟩ := Multiset.countP_pos.mp present
    refine ⟨place.1, place.2, named_of member plain, refers,
      holder_ne formed (below dir ⟨used, directory⟩) other member plain refers,
      (countP_places _).symm.trans once, ?_⟩
    intro up inside upName
    obtain ⟨live, entry⟩ := mem_liveEntries.mp inside
    have upMember := place_of_entry formed.placed live entry
    rw [← refers] at upMember directory
    exact up_inode shaped member plain directory upMember upName
  · constructor
    · intro holder entry named
      exact ne_root shaped (place_of named) named.2
    · intro up inside upName
      obtain ⟨live, entry⟩ := mem_liveEntries.mp inside
      exact shaped.rootParent _ (place_of_entry formed.placed live entry) upName rfl

theorem lookup_of_checked {volume : Volume} {dir ino : Ino} {name : Name} {link : Ino → Bool}
    (checked : ((volume.lookup dir name).bind fun ino =>
      if link ino then .error EXT2_ET_SYMLINK_LOOP else .ok ino) = .ok ino) :
    volume.lookup dir name = .ok ino := by
  rcases looked : volume.lookup dir name with code | target
  · rw [looked] at checked
    cases checked
  · rw [looked] at checked
    change (if link target then _ else _) = _ at checked
    by_cases stuck : link target = true
    · rw [if_pos stuck] at checked
      cases checked
    · rw [if_neg stuck] at checked
      exact checked

theorem walkNames_closed {volume : Volume} {found : Ino → Prop}
    (closed : ∀ dir name ino, found dir → volume.lookup dir name = .ok ino → found ino)
    (follow : Bool) {dir ino : Ino} (names : List Name) (start : found dir)
    (walked : walkNames volume follow dir names = .ok ino) : found ino := by
  induction names generalizing dir with
  | nil => exact Except.ok.inj walked ▸ start
  | cons first rest ih =>
      cases rest with
      | nil =>
          change arrive volume follow dir first = .ok ino at walked
          rw [arrive] at walked
          by_cases nameless : first = []
          · rw [if_pos nameless] at walked
            exact Except.ok.inj walked ▸ start
          · rw [if_neg nameless] at walked
            exact closed dir first ino start
              (@lookup_of_checked _ _ _ _ (fun ino => follow && volume.isLnk ino) walked)
      | cons second rest =>
          change (descend volume dir first).bind _ = .ok ino at walked
          rcases next : descend volume dir first with code | dir'
          · rw [next] at walked
            cases walked
          · rw [next] at walked
            rw [descend] at next
            by_cases nameless : first = []
            · rw [if_pos nameless] at next
              cases next
            · rw [if_neg nameless] at next
              exact ih (closed dir first dir' start (lookup_of_checked next)) walked

/-- The lookup without symbolic links finds only what the directories hold. -/
theorem linkless_closed : linkless.Closed := by
  intro volume found root closed path ino walked
  rcases walked with plain | followed
  · exact walkNames_closed closed false _ root plain
  · exact walkNames_closed closed true _ root followed

theorem isDir_holding {name : Name} {ino : Ino} :
    (Volume.holding [name]).isDir ino = true ↔ ino = EXT2_ROOT_INO := by
  show linuxSIsdir (if ino = EXT2_ROOT_INO then _ else _) = true ↔ ino = EXT2_ROOT_INO
  by_cases root : ino = EXT2_ROOT_INO
  · rw [if_pos root]
    exact iff_of_true (by decide) root
  · rw [if_neg root]
    exact iff_of_false (by decide) root

theorem names_holding (name : Name) : (Volume.holding [name]).census.names =
    ((Volume.holding [name]).entries EXT2_ROOT_INO).map (Prod.mk EXT2_ROOT_INO) := by
  show places (Volume.holding [name]).liveEntries 32 = _
  rw [places, Finset.sum_eq_single EXT2_ROOT_INO]
  · rw [Volume.liveEntries, isDir_holding.mpr rfl]
    rfl
  · intro dir _ other
    have empty : (Volume.holding [name]).entries dir = [] := if_neg other
    rw [Volume.liveEntries, empty, ite_self]
    rfl
  · intro outside
    exact absurd (Finset.mem_range.mpr (by decide)) outside

theorem inUse_holding {name : Name} {ino : Ino} :
    (Volume.holding [name]).inUse ino = true ↔ ino = EXT2_ROOT_INO ∨ ino = 11 := by
  simp only [Volume.holding, Bool.or_eq_true, Bool.and_eq_true, decide_eq_true_eq,
    List.length_singleton]
  grind

/-- A root with one file is well-formed. -/
theorem formed_holding {name : Name} (proper : name ≠ dot ∧ name ≠ dotdot) (nonempty : name ≠ [])
    (exact rooted : Prop) : (Volume.holding [name]).WellFormed exact rooted := by
  have members (place : Place) (member : place ∈ (Volume.holding [name]).census.names) :
      place = (EXT2_ROOT_INO, { inode := EXT2_ROOT_INO, name := dot, fileType := EXT2_FT_DIR }) ∨
      place = (EXT2_ROOT_INO, { inode := EXT2_ROOT_INO, name := dotdot, fileType := EXT2_FT_DIR }) ∨
      place = (EXT2_ROOT_INO, { inode := 11, name := name, fileType := EXT2_FT_REG_FILE }) := by
    rw [names_holding] at member
    simpa [Volume.holding, Volume.dotEntries] using member
  have root : (Volume.holding [name]).census.Live EXT2_ROOT_INO := ⟨rfl, isDir_holding.mpr rfl⟩
  have alone {dir : Ino} (live : (Volume.holding [name]).census.Live dir) : dir = EXT2_ROOT_INO :=
    isDir_holding.mp live.2
  have refers (ino : Ino) : (Volume.holding [name]).census.references ino =
      if ino = EXT2_ROOT_INO then 2 else if ino = 11 then 1 else 0 := by
    rw [Census.references, names_holding]
    simp [Volume.holding, Volume.dotEntries, List.countP_cons]
    grind
  have counted (ino : Ino) : (Volume.holding [name]).census.links ino =
      if ino = EXT2_ROOT_INO then 2 else if ino = 11 then 1 else 0 := by
    simp [Volume.census, Volume.holding]
    grind
  constructor
  · constructor
    · constructor
      · rfl
      · exact root
      · intro place member
        rcases members place member with same | same | same
        · rw [same]
          exact ⟨root, rfl, by decide⟩
        · rw [same]
          exact ⟨root, rfl, by decide⟩
        · rw [same]
          exact ⟨root, rfl, nonempty⟩
      · intro dir live
        rw [alone live, Census.named, names_holding]
        simp [Volume.holding, Volume.dotEntries, proper.1]
      · intro place member own
        rcases members place member with same | same | same
        · rw [same]
        · rw [same]
        · rw [same] at own
          exact absurd own proper.1
      · intro dir live
        rw [alone live, Census.named, names_holding]
        simp [Volume.holding, Volume.dotEntries, proper.2]
      · intro place member up _
        rcases members place member with same | same | same
        · rw [same]
        · rw [same]
        · rw [same] at up
          exact absurd up proper.2
      · rw [Census.outer, names_holding]
        simp [Volume.holding, Volume.dotEntries, Plain]
      · intro dir live other
        exact absurd (alone live) other
      · intro place member _ other
        rcases members place member with same | same | same
        all_goals exact absurd (by rw [same]) other
    · intro ino
      constructor
      · intro _ _
        rw [refers, counted]
      · intro _
        rw [refers, counted]
      · intro _ used isFile _
        rcases inUse_holding.mp used with root | file
        · have directory : (Volume.holding [name]).isDir ino = true := isDir_holding.mpr root
          exact absurd (directory.symm.trans isFile) Bool.noConfusion
        · rw [refers, file]
          decide
  · intro _ dir live
    rw [alone live]
    exact .here
  · intro ino used
    rcases inUse_holding.mp used with root | file
    · rw [root]
      exact Nat.le_add_left 2 30
    · rw [file]
      exact Nat.le_add_left 11 21

/-- In a run of orderly calls every count is that of the names, and an inode is in use as long as it
has names. -/
theorem balanced_of_orderly (closed : resolver.Closed)
    (honoured : (libext2fs resolver True).Honoured library view) {first hidden : Hidden}
    (initial : (view first).WellFormed True False)
    (reached : Reaches (NameOperation.step library)
      (fun hidden => Orderly resolver True False (view hidden)) first hidden) :
    (view hidden).Balanced :=
  balanced_of_formed (formed_reached closed honoured initial reached)

/-- The file may get another name. -/
theorem orderly_link (exact rooted : Prop) : Orderly linkless exact rooted (Volume.holding [[0x61]])
    (.link [0x2f, 0x61] [0x2f, 0x62]) := by
  intro src dest before name parent ino source target split there found
  rw [(Option.some.inj source).symm] at found
  rw [(Option.some.inj target).symm] at split
  have parts : ([], [0x62]) = (before, name) := Option.some.inj split
  rw [← (Prod.mk.inj parts).1] at there
  have root : EXT2_ROOT_INO = parent := Except.ok.inj there
  have file : 11 = ino := Except.ok.inj found
  rw [← (Prod.mk.inj parts).2, ← root, ← file]
  exact ⟨by decide, by decide, fun _ => by decide, fun _ => ⟨by decide, .inl rfl⟩⟩

/-- A file gets a second name and is counted twice. -/
theorem balanced_link :
    ∃ volume, (NameOperation.link [0x2f, 0x61] [0x2f, 0x62]).step reference
      (Volume.holding [[0x61]]) = some volume ∧ volume.Balanced :=
  ⟨_, rfl, balanced_of_orderly linkless_closed (reference_honours True)
    (formed_holding (by decide) (List.cons_ne_nil _ _) True False)
    (@reaches_of_follow _ _ _ _ _ _ _ [.link [0x2f, 0x61] [0x2f, 0x62]] .first
      ⟨orderly_link True False, fun _ _ => trivial⟩ rfl)⟩

/-- A link below a file fails, and the count of the file stays raised. -/
theorem link_below_file :
    ¬∀ (library : Handler Call Answer Volume) (first volume : Volume),
      (libext2fs linkless True).Honoured library id → first.WellFormed True True →
      Reaches (NameOperation.step library) (fun _ _ => True) first volume → volume.Balanced := by
  intro balanced
  have reached := balanced reference (Volume.holding [[0x61]]) _ (reference_honours True)
    (formed_holding (by decide) (List.cons_ne_nil _ _) True True) (reaches_of_follow .first
      (along_of_forall (fun _ _ => trivial) _ [.link [0x2f, 0x61] [0x2f, 0x61, 0x2f, 0x62]]) rfl)
  exact absurd (reached.counted 11 rfl (.inl (Nat.le_refl 11))) (by decide)

/-- In a run of orderly calls the directories are a tree. -/
theorem tree_of_orderly (closed : resolver.Closed)
    (honoured : (libext2fs resolver True).Honoured library view) {first hidden : Hidden}
    (initial : (view first).WellFormed False True)
    (reached : Reaches (NameOperation.step library)
      (fun hidden => Orderly resolver False True (view hidden)) first hidden) :
    (view hidden).Tree :=
  tree_of_formed (formed_reached closed honoured initial reached)

/-- A directory is made below the root. -/
theorem tree_mkdir :
    ∃ volume, (NameOperation.mkdir [0x2f, 0x64] 0o755).step reference
      (Volume.holding [[0x61]]) = some volume ∧ volume.Tree := by
  refine ⟨_, rfl, tree_of_orderly linkless_closed (reference_honours True)
    (formed_holding (by decide) (List.cons_ne_nil _ _) False True)
    (@reaches_of_follow _ _ _ _ _ _ _ [.mkdir [0x2f, 0x64] 0o755] .first ?_ rfl)⟩
  refine ⟨?_, fun _ _ => trivial⟩
  intro used before name parent accepted split there _
  rw [(Option.some.inj accepted).symm] at split
  have parts : ([], [0x64]) = (before, name) := Option.some.inj split
  rw [← (Prod.mk.inj parts).1] at there
  have root : EXT2_ROOT_INO = parent := Except.ok.inj there
  rw [← root]
  decide

/-- A directory is moved into itself. -/
theorem rename_into_itself :
    ¬∀ (library : Handler Call Answer Volume) (first volume : Volume),
      (libext2fs linkless True).Honoured library id → first.WellFormed True True →
      Reaches (NameOperation.step library) (fun _ _ => True) first volume → volume.Tree := by
  intro tree
  have reached := tree reference (Volume.holding [[0x61]]) _ (reference_honours True)
    (formed_holding (by decide) (List.cons_ne_nil _ _) True True) (reaches_of_follow .first
      (along_of_forall (fun _ _ => trivial) _ [.mkdir [0x2f, 0x64] 0o755,
        .rename [0x2f, 0x64] [0x2f, 0x64, 0x2f, 0x65]]) rfl)
  obtain ⟨holder, _, _, _, other, _, up⟩ := reached.named 12 rfl rfl (by decide)
  exact other (up { inode := 12, name := dotdot, fileType := EXT2_FT_DIR } (by decide) rfl).symm

end NodeExt2fs.Trees
