import NodeExt2fs.Proof.Trees.Freeing

/-!
This file follows `unlink` and `rmdir` on a disk that does not fail.
-/

namespace NodeExt2fs.Trees
open Programs Structures Glue Library
open Program (wp wp_pure wp_bind wp_ite wp_mono wp_and wp_counting)
open Census (Live references named Shaped Sound Proper Edit Inside Rooted)

variable {resolver : Resolver} {steady exact rooted : Prop} {volume volume' volume'' : Volume}

theorem taken_toNat (links : BitVec 16) :
    (if links = 0 then 0 else links - 1 : BitVec 16).toNat = links.toNat - 1 := by
  by_cases none : links = 0
  · rw [if_pos none, none]
    rfl
  · rw [if_neg none]
    bv_omega

theorem Taken.isDir {ino : Ino} (taken : Taken volume volume' ino) : volume'.isDir = volume.isDir := by
  funext other
  rw [Volume.isDir, Volume.isDir, taken.mode]

/-- The census of a file that loses a link. -/
theorem Taken.census_file {ino : Ino} (taken : Taken volume volume' ino)
    (isFile : volume.isDir ino = false) :
    volume'.census =
      { inUse :=
          if volume.census.links ino = 1 then Function.update volume.census.inUse ino false
          else volume.census.inUse
        isDir := volume.census.isDir
        links := Function.update volume.census.links ino (volume.census.links ino - 1)
        names := volume.census.names } := by
  have one : volume.links ino = 1 ↔ volume.census.links ino = 1 := BitVec.toNat_inj.symm
  have inUse : volume'.inUse =
      if volume.census.links ino = 1 then Function.update volume.census.inUse ino false
      else volume.census.inUse := by
    rw [taken.inUse]
    by_cases last : volume.links ino = 1
    · rw [if_pos last, if_pos (one.mp last)]
      rfl
    · rw [if_neg last, if_neg (fun here => last (one.mpr here))]
      rfl
  have links : volume'.census.links =
      Function.update volume.census.links ino (volume.census.links ino - 1) := by
    funext other
    show (volume'.links other).toNat = _
    rw [taken.links]
    by_cases here : other = ino
    · rw [here, Function.update_self, Function.update_self]
      exact taken_toNat _
    · rw [Function.update_of_ne here, Function.update_of_ne here]
      rfl
  have names : volume'.census.names = volume.census.names := by
    show places volume'.liveEntries volume'.inodesCount = _
    rw [taken.inodesCount]
    apply places_congr
    intro other
    rw [Volume.liveEntries, Volume.liveEntries, taken.isDir]
    by_cases here : other = ino
    · rw [here, isFile, Bool.and_false, Bool.and_false]
      rfl
    · have kept : volume'.inUse other = volume.inUse other := by
        rw [taken.inUse]
        by_cases last : volume.links ino = 1
        · rw [if_pos last, Function.update_of_ne here]
        · rw [if_neg last]
      rw [kept, taken.others other here]
  show Census.mk volume'.inUse volume'.isDir volume'.census.links volume'.census.names = _
  rw [inUse, taken.isDir, links, names]
  rfl

/-- The last component of a path is looked up in the directory that `unlink_file_by_name` takes. -/
theorem located_lookup {path : Path} {dir ino : Ino} {name : Name}
    (located : Located resolver volume path dir name) (directory : volume.isDir dir = true)
    (nonempty : name ≠ []) (found : resolver.walk volume path = .ok ino) :
    volume.lookup dir name = .ok ino := by
  rcases split : strrchr path with _ | ⟨before, after⟩
  · obtain ⟨root, same⟩ := (located_none split).mp located
    have clean := strrchr_eq_none_iff.mp split
    rw [← root, ← same, ← resolver.walk_name volume path (same ▸ nonempty) clean]
    exact found
  · obtain ⟨outer, same⟩ := (located_some split).mp located
    obtain ⟨joined, clean⟩ := strrchr_eq_some split
    rw [joined, resolver.walk_split volume before after (same ▸ nonempty) clean] at found
    rcases there : resolver.walk volume (before ++ [slash]) with code | dir'
    · rw [there] at found
      cases found
    · rw [there] at found
      rw [resolver.walk_slash volume before dir' dir there outer directory, ← same]
      exact found

/-- A directory has no entries but those for itself and for its parent. -/
def Vacant (volume : Volume) (ino : Ino) : Prop :=
  volume.isDir ino = true ∧ ∀ entry ∈ volume.entries ino, entry.name = dot ∨ entry.name = dotdot

/-- The name of an inode has gone, and the inode with it when it was the last name. -/
structure Vacated (volume volume' : Volume) (dir : Ino) (name : Name) (ino : Ino) : Prop where
  mode : volume'.mode = volume.mode
  target : volume'.target = volume.target
  inUse : ∀ other, other ≠ ino → volume'.inUse other = volume.inUse other
  others : ∀ other, other ≠ dir → other ≠ ino → volume'.entries other = volume.entries other
  erased : volume'.entries dir = (volume.entries dir).eraseP fun entry => entry.name = name
  names : ∀ place ∈ volume'.census.names, place ∈ volume.census.names
  links : volume'.census.links dir + (if volume.isDir ino then 1 else 0) = volume.census.links dir

/-- A name has gone, apart from the counts. -/
structure Withdrawn (volume volume' : Volume) (dir : Ino) (name : Name) (ino : Ino) : Prop where
  mode : volume'.mode = volume.mode
  target : volume'.target = volume.target
  inUse : ∀ other, other ≠ ino → volume'.inUse other = volume.inUse other
  others : ∀ other, other ≠ dir → other ≠ ino → volume'.entries other = volume.entries other
  erased : volume'.entries dir = (volume.entries dir).eraseP fun entry => entry.name = name
  names : ∀ place ∈ volume'.census.names, place ∈ volume.census.names

theorem Vacated.withdrawn {dir ino : Ino} {name : Name} (vacated : Vacated volume volume' dir name ino) :
    Withdrawn volume volume' dir name ino :=
  ⟨vacated.mode, vacated.target, vacated.inUse, vacated.others, vacated.erased, vacated.names⟩

theorem Withdrawn.vacated {dir ino : Ino} {name : Name}
    (withdrawn : Withdrawn volume volume' dir name ino)
    (links : volume'.census.links dir + (if volume.isDir ino then 1 else 0) = volume.census.links dir) :
    Vacated volume volume' dir name ino :=
  ⟨withdrawn.mode, withdrawn.target, withdrawn.inUse, withdrawn.others, withdrawn.erased,
    withdrawn.names, links⟩

/-- The end of a routine that removes the path or leaves the volume alone. -/
def Removal (resolver : Resolver) (exact rooted : Prop) (volume : Volume) (path : Path) (ret : Int)
    (volume' : Volume) : Prop :=
  ret = 0 ∧ volume'.WellFormed exact rooted ∧ (∃ dir name ino, Located resolver volume path dir name ∧
    resolver.walk volume path = .ok ino ∧ volume.isDir dir = true ∧ dir ≠ ino ∧
    (volume.isDir ino = true → Vacant volume ino) ∧ Vacated volume volume' dir name ino) ∨
  ret ≠ 0 ∧ volume' = volume

/-- No inode in use is the null inode. -/
theorem ne_null (placed : volume.Placed) {ino : Ino}
    (used : volume.inUse ino = true) : ino ≠ 0 :=
  used_ne_zero placed.shaped used

/-- The directory of a path is in use. -/
theorem used_of_located (closed : resolver.Closed) (placed : volume.Placed)
    {path : Path} {dir : Ino} {name : Name} (located : Located resolver volume path dir name) :
    volume.inUse dir = true := by
  rcases split : strrchr path with _ | ⟨before, after⟩
  · rw [← ((located_none split).mp located).1]
    exact placed.shaped.root.1
  · exact used_of_walk closed placed (.inl ((located_some split).mp located).1)

/-- An entry that is erased is the one that the path leads to. -/
theorem erased_entry (closed : resolver.Closed) (placed : volume.Placed) {path : Path}
    {dir ino : Ino} {name : Name} (located : Located resolver volume path dir name)
    (erased : Erased volume dir name volume') (found : resolver.walk volume path = .ok ino) :
    volume.census.Live dir ∧ volume.lookup dir name = .ok ino ∧
      ∃ entry, volume.find dir name = some entry ∧ entry.name = name ∧ entry.inode = ino ∧
        (dir, entry) ∈ volume.census.names ∧ Relisted volume volume' dir [entry] [] := by
  obtain ⟨directory, present, like⟩ := erased
  have live : volume.census.Live dir := ⟨used_of_located closed placed located, directory⟩
  obtain ⟨entry, there⟩ := Option.isSome_iff_exists.mp present
  have named := find_name there
  have member := place_of_entry placed live (List.mem_of_find?_eq_some there)
  have nonempty : name ≠ [] := named ▸ (placed.shaped.held _ member).2.2
  have looked := located_lookup located directory nonempty found
  have same : entry.inode = ino :=
    Except.ok.inj ((lookup_of_find directory there).symm.trans looked)
  exact ⟨live, looked, entry, there, named, same, member, relisted_erase there like⟩

theorem erased_like {dir : Ino} {name : Name} (erased : Erased volume dir name volume') :
    volume'.entries dir = (volume.entries dir).eraseP fun entry => entry.name = name := by
  rw [erased.2.2.entries]
  exact Function.update_self _ _ _

/-- What `unlink` has done when it returns zero: the name of a file went, and then one of its links. -/
structure Unfiled (resolver : Resolver) (volume : Volume) (path : Path) (dir : Ino) (name : Name)
    (entry : DirEntry) (volume' : Volume) : Prop where
  located : Located resolver volume path dir name
  walked : resolver.walk volume path = .ok entry.inode
  found : volume.find dir name = some entry
  isFile : volume.isDir entry.inode = false
  holder : volume.census.Live dir
  steps : ∃ erased, Erased volume dir name erased ∧ Taken erased volume' entry.inode

theorem nodeExt2fsUnlink_unfiled (calm : steady) (closed : resolver.Closed) (placed : volume.Placed)
    (path : Path) :
    wp (libext2fs resolver steady) (nodeExt2fsUnlink path)
      (fun ret volume' => ret = 0 ∧
          (∃ dir name entry, Unfiled resolver volume path dir name entry volume') ∨
        ret ≠ 0 ∧ volume' = volume) volume := by
  have failed (err : Errcode) (bad : err ≠ 0) : wp (libext2fs resolver steady) (translateError err)
      (fun ret volume' => ret = 0 ∧
          (∃ dir name entry, Unfiled resolver volume path dir name entry volume') ∨
        ret ≠ 0 ∧ volume' = volume) volume := by
    apply wp_mono (translateError_quiet err)
    intro ret volume' quiet
    exact .inr ⟨quiet.2 bad, quiet.1⟩
  rw [nodeExt2fsUnlink, wp_bind]
  apply wp_library (.namei path)
  intro answer volume₁ found
  rw [found.1, wp_ite]
  refine ⟨fun bad => failed answer.1 bad, fun fine => ?_⟩
  have walked := (walk_of_resolved found.2 (not_not.mp fine)).1
  rw [wp_bind]
  apply wp_library (.checkDirectory answer.2)
  intro code volume₂ checked
  rw [checked.1, wp_ite]
  refine ⟨fun _ => .inr ⟨by decide, rfl⟩, fun other => ?_⟩
  have isFile : volume.isDir answer.2 = false := by
    cases kind : volume.isDir answer.2 with
    | false => rfl
    | true => exact absurd (checked.2.2 calm kind) other
  rw [wp_bind]
  apply wp_mono (unlinkFileByName_erased path)
  intro ret volume₃ removed
  rw [wp_ite]
  rcases removed with ⟨dir, name, located, erased, zero⟩ | ⟨same, bad, _⟩
  · refine ⟨fun bad => absurd (zero calm) bad, fun _ => ?_⟩
    obtain ⟨live, _, entry, there, _, refers, _, _⟩ := erased_entry closed placed located erased walked
    apply wp_mono (removeInode_taken calm answer.2)
    intro ret' volume₄ outcome
    obtain ⟨zero', taken⟩ := outcome
    rw [← refers] at walked isFile taken
    exact .inl ⟨zero', dir, name, entry, located, walked, there, isFile, live, volume₃, erased, taken⟩
  · exact ⟨fun _ => .inr ⟨bad, same⟩, fun zero => absurd bad zero⟩

section Unfiling

variable (placed : volume.Placed) {path : Path} {dir : Ino} {name : Name} {entry : DirEntry}
  (unfiled : Unfiled resolver volume path dir name entry volume')
include placed unfiled

/-- The census without a name of a file. -/
theorem Unfiled.census : ∃ rest, volume.census.names = (dir, entry) ::ₘ rest ∧
    volume'.census =
      { volume.census with
        inUse :=
          if volume.census.links entry.inode = 1 then
            Function.update volume.census.inUse entry.inode false
          else volume.census.inUse
        links := Function.update volume.census.links entry.inode (volume.census.links entry.inode - 1)
        names := rest } := by
  obtain ⟨erased, removed, taken⟩ := unfiled.steps
  have relisted := relisted_erase unfiled.found removed.2.2
  have isFile : erased.isDir entry.inode = false := relisted.isDir ▸ unfiled.isFile
  refine ⟨erased.census.names,
    relisted.dropped (placed.bounded dir unfiled.holder.1) unfiled.holder, ?_⟩
  rw [taken.census_file isFile, relisted.census]

theorem Unfiled.bounded (ino : Ino) (used : volume'.inUse ino = true) : ino ≤ volume'.inodesCount := by
  obtain ⟨erased, removed, taken⟩ := unfiled.steps
  have relisted := relisted_erase unfiled.found removed.2.2
  rw [taken.inodesCount, relisted.inodesCount]
  apply placed.bounded ino
  rw [taken.inUse, relisted.inUse, relisted.links] at used
  by_cases last : volume.links entry.inode = 1
  · rw [if_pos last] at used
    by_cases same : ino = entry.inode
    · rw [same, Function.update_self] at used
      cases used
    · rwa [Function.update_of_ne same] at used
  · rwa [if_neg last] at used

theorem Unfiled.withdrawn : Withdrawn volume volume' dir name entry.inode := by
  obtain ⟨rest, split, census⟩ := unfiled.census placed
  obtain ⟨erased, removed, taken⟩ := unfiled.steps
  have relisted := relisted_erase unfiled.found removed.2.2
  have apart : dir ≠ entry.inode := ne_of_file unfiled.holder unfiled.isFile
  constructor
  · exact taken.mode.trans relisted.mode
  · exact taken.target.trans relisted.target
  · intro other different
    rw [taken.inUse, relisted.inUse]
    by_cases last : erased.links entry.inode = 1
    · rw [if_pos last, Function.update_of_ne different]
    · rw [if_neg last]
  · exact fun other elsewhere different =>
      (taken.others other different).trans (relisted.others other elsewhere)
  · exact (taken.others dir apart).trans (erased_like removed)
  · intro place kept
    rw [census] at kept
    rw [split]
    exact Multiset.mem_cons_of_mem kept

end Unfiling

theorem vacated_of_unfiled (formed : volume.WellFormed exact rooted) {path : Path} {dir : Ino}
    {name : Name} {entry : DirEntry} (unfiled : Unfiled resolver volume path dir name entry volume') :
    volume'.WellFormed exact rooted ∧ Vacated volume volume' dir name entry.inode := by
  obtain ⟨rest, split, census⟩ := unfiled.census formed.placed
  have edit : Edit exact rooted volume.census volume'.census := by
    rw [census]
    exact Edit.unname (dir, entry) rest split unfiled.isFile
  refine ⟨formed_edit formed edit (unfiled.bounded formed.placed), ?_⟩
  apply (unfiled.withdrawn formed.placed).vacated
  rw [census, unfiled.isFile]
  exact Function.update_of_ne (ne_of_file unfiled.holder unfiled.isFile) _ _

/-- `node_ext2fs_unlink` removes the name of a file. -/
theorem nodeExt2fsUnlink_removal (calm : steady) (closed : resolver.Closed)
    (formed : volume.WellFormed exact rooted) (path : Path) :
    wp (libext2fs resolver steady) (nodeExt2fsUnlink path)
      (Removal resolver exact rooted volume path) volume := by
  apply wp_mono (nodeExt2fsUnlink_unfiled calm closed formed.placed path)
  intro ret volume' outcome
  rcases outcome with ⟨zero, dir, name, entry, unfiled⟩ | ⟨bad, same⟩
  · obtain ⟨formed', vacated⟩ := vacated_of_unfiled formed unfiled
    refine .inl ⟨zero, formed', dir, name, entry.inode, unfiled.located, unfiled.walked,
      unfiled.holder.2, ne_of_file unfiled.holder unfiled.isFile, fun directory => ?_, vacated⟩
    exact absurd (directory.symm.trans unfiled.isFile) Bool.noConfusion
  · exact .inr ⟨bad, same⟩

/-- What `rmdir_proc` finds: nothing but the two entries, and the last parent. -/
theorem rmdirProc_fold (entries : List DirEntry) (rds : RdStruct) :
    ((entries.foldl rmdirProc rds).empty = true → rds.empty = true ∧
      ∀ entry ∈ entries, entry.inode ≠ 0 → entry.name = dot ∨ entry.name = dotdot) ∧
    ∀ parent, (∀ entry ∈ entries, entry.name = dotdot → entry.inode = parent ∧ parent ≠ 0) →
      rds.parent = parent ∨ (∃ entry ∈ entries, entry.name = dotdot) →
      (entries.foldl rmdirProc rds).parent = parent := by
  induction entries generalizing rds with
  | nil =>
      refine ⟨fun empty => ⟨empty, fun entry absent => absurd absent List.not_mem_nil⟩, ?_⟩
      intro parent _ known
      rcases known with same | ⟨entry, absent, _⟩
      · exact same
      · exact absurd absent List.not_mem_nil
  | cons first rest ih =>
      rw [List.foldl_cons]
      obtain ⟨emptied, parents⟩ := ih (rmdirProc rds first)
      constructor
      · intro empty
        obtain ⟨before, others⟩ := emptied empty
        rw [rmdirProc] at before
        by_cases zero : first.inode = 0
        · rw [if_pos zero] at before
          exact ⟨before, List.forall_mem_cons.mpr ⟨fun bad => absurd zero bad, others⟩⟩
        · rw [if_neg zero] at before
          by_cases own : first.name = dot
          · rw [if_pos own] at before
            exact ⟨before, List.forall_mem_cons.mpr ⟨fun _ => .inl own, others⟩⟩
          · rw [if_neg own] at before
            by_cases up : first.name = dotdot
            · rw [if_pos up] at before
              exact ⟨before, List.forall_mem_cons.mpr ⟨fun _ => .inr up, others⟩⟩
            · rw [if_neg up] at before
              cases before
      · intro parent all known
        apply parents parent fun entry member => all entry (List.mem_cons_of_mem _ member)
        by_cases up : first.name = dotdot
        · obtain ⟨same, positive⟩ := all first List.mem_cons_self up
          left
          rw [rmdirProc, if_neg (same ▸ positive), if_neg fun own => dot_ne_dotdot (own.symm.trans up),
            if_pos up]
          exact same
        · rcases known with same | ⟨entry, member, named⟩
          · left
            rw [rmdirProc, if_neg up]
            by_cases zero : first.inode = 0
            · rw [if_pos zero]
              exact same
            · rw [if_neg zero]
              by_cases own : first.name = dot
              · rw [if_pos own]
                exact same
              · rw [if_neg own]
                exact same
          · right
            rcases List.mem_cons.mp member with here | later
            · exact absurd (here ▸ named) up
            · exact ⟨entry, later, named⟩

/-- `rmdir_proc` finds nothing where all entries with an inode are special. -/
theorem fold_vacant {entries : List DirEntry} (rds : RdStruct)
    (special : ∀ entry ∈ entries, entry.inode ≠ 0 → entry.name = dot ∨ entry.name = dotdot) :
    (entries.foldl rmdirProc rds).empty = rds.empty := by
  induction entries generalizing rds with
  | nil => rfl
  | cons first rest ih =>
      have step : (rmdirProc rds first).empty = rds.empty := by
        rw [rmdirProc]
        by_cases zero : first.inode = 0
        · rw [if_pos zero]
        · rw [if_neg zero]
          rcases special first List.mem_cons_self zero with own | up
          · rw [if_pos own]
          · rw [if_neg fun own => dot_ne_dotdot (own.symm.trans up), if_pos up]
      rw [List.foldl_cons, ih _ fun entry member => special entry (List.mem_cons_of_mem _ member), step]

/-- A vacant directory has two entries, besides its name. -/
theorem vacant_split (placed : volume.Placed) {dir : Ino} {entry : DirEntry}
    {others : Multiset Place} (split : volume.census.names = (dir, entry) ::ₘ others)
    (plain : Plain entry) (vacant : Vacant volume entry.inode) :
    ∃ own up rest, others = (entry.inode, own) ::ₘ (entry.inode, up) ::ₘ rest ∧ own.name = dot ∧
      up.name = dotdot ∧ dir ≠ entry.inode ∧ ∀ other ∈ rest, other.1 ≠ entry.inode := by
  have shaped := placed.shaped
  have gone : (dir, entry) ∈ volume.census.names := by
    rw [split]
    exact Multiset.mem_cons_self _ _
  have live : volume.census.Live entry.inode := ⟨(shaped.held _ gone).2.1, vacant.1⟩
  have apart : dir ≠ entry.inode := by
    intro same
    have inside := (mem_names.mp gone).2.2
    rw [show (dir, entry).1 = entry.inode from same] at inside
    rcases vacant.2 entry inside with own | up
    · exact plain.1 own
    · exact plain.2 up
  have ownOnce := shaped.selfOnce _ live
  have upOnce := shaped.parentOnce _ live
  rw [named, split, Multiset.countP_cons_of_neg _ fun both => apart both.1] at ownOnce upOnce
  have present {name : Name} (once : others.countP
      (fun place => place.1 = entry.inode ∧ place.2.name = name) = 1) :
      ∃ found, (entry.inode, found) ∈ others ∧ found.name = name := by
    have positive : 0 < others.countP
        fun place => place.1 = entry.inode ∧ place.2.name = name := by
      rw [once]
      exact Nat.one_pos
    obtain ⟨place, member, here, its⟩ := Multiset.countP_pos.mp positive
    exact ⟨place.2, here ▸ member, its⟩
  obtain ⟨own, ownMember, ownName⟩ := present ownOnce
  obtain ⟨up, upMember, upName⟩ := present upOnce
  obtain ⟨left, leftSplit⟩ := Multiset.exists_cons_of_mem ownMember
  rw [leftSplit] at upMember
  have distinct : (entry.inode, up) ≠ (entry.inode, own) := by
    intro same
    have names := congrArg (fun place => place.2.name) same
    exact dot_ne_dotdot (ownName.symm.trans (names.symm.trans upName))
  obtain ⟨rest, restSplit⟩ :=
    Multiset.exists_cons_of_mem ((Multiset.mem_cons.mp upMember).resolve_left distinct)
  refine ⟨own, up, rest, by rw [leftSplit, restSplit], ownName, upName, apart, ?_⟩
  intro other member here
  have inside : other ∈ volume.census.names := by
    rw [split, leftSplit, restSplit]
    exact Multiset.mem_cons_of_mem (Multiset.mem_cons_of_mem (Multiset.mem_cons_of_mem member))
  have its := (mem_names.mp inside).2.2
  rw [here] at its
  rw [leftSplit, restSplit] at ownOnce upOnce
  rcases vacant.2 other.2 its with itself | upwards
  · rw [Multiset.countP_cons_of_pos _ ⟨rfl, ownName⟩, Multiset.countP_cons] at ownOnce
    have none := (Nat.add_eq_zero_iff.mp (Nat.succ.inj ownOnce)).1
    exact Multiset.countP_eq_zero.mp none other member ⟨here, itself⟩
  · rw [Multiset.countP_cons, Multiset.countP_cons_of_pos _ ⟨rfl, upName⟩, Nat.add_right_comm] at upOnce
    have none := (Nat.add_eq_zero_iff.mp (Nat.succ.inj upOnce)).1
    exact Multiset.countP_eq_zero.mp none other member ⟨here, upwards⟩

/-- The counts of a vacant directory and of its parent. -/
theorem vacant_counts (formed : volume.WellFormed exact rooted) {dir : Ino}
    {entry own up : DirEntry} {rest : Multiset Place}
    (split : volume.census.names =
      (dir, entry) ::ₘ (entry.inode, own) ::ₘ (entry.inode, up) ::ₘ rest)
    (directory : volume.isDir entry.inode = true) (plain : Plain entry) (ownName : own.name = dot)
    (upName : up.name = dotdot) (apart : dir ≠ entry.inode)
    (free : ∀ other ∈ rest, other.1 ≠ entry.inode) :
    volume.links entry.inode = 2 ∧ 1 < volume.links dir := by
  have shaped := formed.sound.toShaped
  have inside {place : Place} (left : place ∈ rest) : place ∈ volume.census.names := by
    rw [split]
    exact Multiset.mem_cons_of_mem (Multiset.mem_cons_of_mem (Multiset.mem_cons_of_mem left))
  have member : (dir, entry) ∈ volume.census.names := by
    rw [split]
    exact Multiset.mem_cons_self _ _
  have holder := (shaped.held _ member).1
  have unnamed (place : Place) (left : place ∈ rest) : place.2.inode ≠ entry.inode :=
    vacant_unnamed shaped split directory plain ownName upName apart free left
  have count := references_undirectory shaped split directory plain ownName upName
  constructor
  · have two := counted_live formed.sound ⟨(shaped.held _ member).2.1, directory⟩
    rw [count, if_neg apart, if_pos rfl, Multiset.countP_eq_zero.mpr unnamed] at two
    exact BitVec.eq_of_toNat_eq two
  · have more := counted_live formed.sound holder
    rw [count, if_pos rfl, if_neg (Ne.symm apart)] at more
    have once := shaped.selfOnce dir holder
    rw [Census.named, split, Multiset.countP_cons_of_neg _ fun both => plain.1 both.2,
      Multiset.countP_cons_of_neg _ fun both => apart both.1.symm,
      Multiset.countP_cons_of_neg _ fun both => apart both.1.symm] at once
    have present : 0 < rest.countP fun place => place.1 = dir ∧ place.2.name = dot := by
      rw [once]
      exact Nat.one_pos
    obtain ⟨place, left, here, own⟩ := Multiset.countP_pos.mp present
    have referred : 0 < rest.countP fun place => place.2.inode = dir :=
      Multiset.countP_pos_of_mem left ((shaped.self place (inside left) own).trans here)
    have counted : (volume.links dir).toNat = _ := more
    rw [BitVec.lt_def, counted]
    exact Nat.lt_add_of_pos_left referred

/-- An inode is freed with all that it holds. -/
structure Freed (volume volume' : Volume) (ino : Ino) : Prop where
  inodesCount : volume'.inodesCount = volume.inodesCount
  inUse : volume'.inUse = Function.update volume.inUse ino false
  mode : volume'.mode = volume.mode
  target : volume'.target = volume.target
  links : volume'.links = Function.update volume.links ino 0
  others : ∀ other, other ≠ ino → volume'.entries other = volume.entries other

/-- "Directories have to be 'removed' twice." The second time does nothing to one that had one link. -/
theorem freed_of_taken {ino : Ino} (few : volume.links ino = 1 ∨ volume.links ino = 2)
    (first : Taken volume volume' ino) (second : Taken volume' volume'' ino) :
    Freed volume volume'' ino := by
  have inUse : volume''.inUse = Function.update volume.inUse ino false := by
    rw [second.inUse, first.inUse, first.links, Function.update_self]
    rcases few with one | two
    · rw [one, if_neg (by decide), if_pos rfl]
    · rw [two, if_pos (by decide), if_neg (by decide)]
  have links : volume''.links = Function.update volume.links ino 0 := by
    rw [second.links, first.links, Function.update_self, Function.update_idem]
    rcases few with one | two
    · rw [one]
      rfl
    · rw [two]
      rfl
  constructor
  · exact second.inodesCount.trans first.inodesCount
  · exact inUse
  · exact second.mode.trans first.mode
  · exact second.target.trans first.target
  · exact links
  · exact fun other different => (second.others other different).trans (first.others other different)

theorem Freed.isDir {ino : Ino} (freed : Freed volume volume' ino) : volume'.isDir = volume.isDir := by
  funext other
  rw [Volume.isDir, Volume.isDir, freed.mode]

/-- The census without a directory that was freed. -/
theorem Freed.census {ino : Ino} (freed : Freed volume volume' ino)
    (bounded : ino ≤ volume.inodesCount) :
    volume'.census =
      { inUse := Function.update volume.census.inUse ino false
        isDir := volume.census.isDir
        links := Function.update volume.census.links ino 0
        names := volume.census.names.filter fun place => place.1 ≠ ino } := by
  have links : volume'.census.links = Function.update volume.census.links ino 0 := by
    funext other
    show (volume'.links other).toNat = _
    rw [freed.links]
    exact Function.apply_update (fun _ => BitVec.toNat) volume.links ino 0 other
  have names : volume'.census.names = volume.census.names.filter fun place => place.1 ≠ ino := by
    show places volume'.liveEntries volume'.inodesCount = _
    rw [freed.inodesCount]
    apply places_clear bounded
    · intro other different
      rw [Volume.liveEntries, Volume.liveEntries, freed.isDir, freed.inUse,
        Function.update_of_ne different, freed.others other different]
    · rw [Volume.liveEntries, freed.inUse, Function.update_self, Bool.false_and]
      rfl
  show Census.mk volume'.inUse volume'.isDir volume'.census.links volume'.census.names = _
  rw [freed.inUse, freed.isDir, links, names]
  rfl

/-- The end of `rmdir` writes the count of the parent. -/
theorem dropParentLink_written (calm : steady) (parent : Ino) :
    wp (libext2fs resolver steady) (dropParentLink parent)
      (fun ret volume' => ret = 0 ∧ volume' = volume.written parent (volume.mode parent)
        (if volume.links parent > 1 then volume.links parent - 1 else volume.links parent)) volume := by
  rw [dropParentLink, wp_bind]
  apply wp_library (.readInodeFull parent)
  intro answer volume₁ allowed
  obtain ⟨same, read, fine⟩ := allowed
  rw [same, wp_ite]
  refine ⟨fun bad => absurd (fine calm) bad, fun zero => ?_⟩
  obtain ⟨mode, count⟩ := read (not_not.mp zero)
  dsimp only
  rw [wp_bind]
  apply wp_mono (updateMtime_some parent _)
  intro updated volume₂ outcome
  obtain ⟨same, fine, keeps⟩ := outcome
  rw [same, wp_ite]
  refine ⟨fun bad => absurd fine bad, fun _ => ?_⟩
  rw [wp_bind]
  apply wp_library (.writeInodeFull parent updated.2)
  intro code volume₃ wrote
  have written : code = 0 ∧
      volume₃ = volume.written parent updated.2.iMode updated.2.iLinksCount := by
    rcases wrote with done | ⟨unsteady, _⟩
    · exact done
    · exact absurd calm unsteady
  rw [wp_ite]
  refine ⟨fun bad => absurd written.1 bad, fun _ => ⟨rfl, ?_⟩⟩
  rw [written.2, keeps.1, keeps.2]
  have above : answer.2.iLinksCount = volume.links parent := count
  rw [← above]
  split
  · rw [← show answer.2.iMode = _ from mode]
  · rw [← show answer.2.iMode = _ from mode]

/-- The count of the parent of a removed directory. -/
theorem dropped_toNat (count : BitVec 16) :
    (if count > 1 then count - 1 else count : BitVec 16).toNat =
      if 1 < count.toNat then count.toNat - 1 else count.toNat := by
  have above : count > 1 ↔ 1 < count.toNat := BitVec.lt_def
  by_cases more : count > 1
  · rw [if_pos more, if_pos (above.mp more)]
    exact BitVec.toNat_sub_of_le (BitVec.le_of_lt more)
  · rw [if_neg more, if_neg fun here => more (above.mpr here)]

/-- What `rmdir` has done when it returns zero: the name went, then the directory, and then the link
that it had on its parent, unless the parent has no link to lose. -/
structure Emptied (resolver : Resolver) (volume : Volume) (path : Path) (dir : Ino) (name : Name)
    (entry : DirEntry) (volume' : Volume) : Prop where
  located : Located resolver volume path dir name
  walked : resolver.walk volume path = .ok entry.inode
  found : volume.find dir name = some entry
  plain : Plain entry
  vacant : Vacant volume entry.inode
  holder : volume.census.Live dir
  apart : dir ≠ entry.inode
  steps : ∃ erased freed, Erased volume dir name erased ∧ Freed erased freed entry.inode ∧
    volume' = freed.written dir (freed.mode dir)
      (if freed.links dir > 1 then freed.links dir - 1 else freed.links dir)

section Emptying

variable (placed : volume.Placed) {path : Path} {dir : Ino} {name : Name} {entry : DirEntry}
  (emptied : Emptied resolver volume path dir name entry volume')
include placed emptied

/-- The census without a vacant directory. -/
theorem Emptied.census : ∃ own up rest,
    volume.census.names = (dir, entry) ::ₘ (entry.inode, own) ::ₘ (entry.inode, up) ::ₘ rest ∧
    own.name = dot ∧ up.name = dotdot ∧ (∀ other ∈ rest, other.1 ≠ entry.inode) ∧
    volume'.census =
      { volume.census with
        inUse := Function.update volume.census.inUse entry.inode false
        links := Function.update (Function.update volume.census.links dir
          (if 1 < volume.census.links dir then volume.census.links dir - 1
            else volume.census.links dir)) entry.inode 0
        names := rest } := by
  obtain ⟨erased, freed, removed, taken, written⟩ := emptied.steps
  have relisted := relisted_erase emptied.found removed.2.2
  have dropped := relisted.dropped (placed.bounded dir emptied.holder.1) emptied.holder
  obtain ⟨own, up, rest, others, ownName, upName, apart, free⟩ :=
    vacant_split placed dropped emptied.plain emptied.vacant
  have split := dropped
  rw [others] at split
  refine ⟨own, up, rest, split, ownName, upName, free, ?_⟩
  have gone : (dir, entry) ∈ volume.census.names := by
    rw [split]
    exact Multiset.mem_cons_self _ _
  have bounded : entry.inode ≤ erased.inodesCount := by
    rw [relisted.inodesCount]
    exact placed.bounded _ (placed.shaped.held _ gone).2.1
  have left : (erased.census.names.filter fun place => place.1 ≠ entry.inode) = rest := by
    rw [others, Multiset.filter_cons_of_neg, Multiset.filter_cons_of_neg]
    · exact Multiset.filter_eq_self.mpr free
    · exact not_not_intro rfl
    · exact not_not_intro rfl
  have links : freed.links dir = volume.links dir := by
    rw [taken.links, relisted.links, Function.update_of_ne apart]
  rw [written, census_written rfl, taken.census bounded, links, dropped_toNat, left, relisted.census]
  dsimp only
  rw [Function.update_comm apart]
  rfl

theorem Emptied.bounded (ino : Ino) (used : volume'.inUse ino = true) : ino ≤ volume'.inodesCount := by
  obtain ⟨erased, freed, removed, taken, written⟩ := emptied.steps
  have relisted := relisted_erase emptied.found removed.2.2
  rw [written] at used ⊢
  show ino ≤ freed.inodesCount
  rw [taken.inodesCount, relisted.inodesCount]
  apply placed.bounded ino
  change freed.inUse ino = true at used
  rw [taken.inUse, relisted.inUse] at used
  by_cases same : ino = entry.inode
  · rw [same, Function.update_self] at used
    cases used
  · rwa [Function.update_of_ne same] at used

theorem Emptied.withdrawn : Withdrawn volume volume' dir name entry.inode := by
  obtain ⟨own, up, rest, split, _, _, _, census⟩ := emptied.census placed
  obtain ⟨erased, freed, removed, taken, written⟩ := emptied.steps
  have relisted := relisted_erase emptied.found removed.2.2
  constructor
  · rw [written]
    show Function.update freed.mode dir (freed.mode dir) = volume.mode
    rw [Function.update_eq_self, taken.mode, relisted.mode]
  · rw [written]
    exact taken.target.trans relisted.target
  · intro other different
    rw [written]
    show freed.inUse other = volume.inUse other
    rw [taken.inUse, Function.update_of_ne different, relisted.inUse]
  · intro other elsewhere different
    rw [written]
    exact (taken.others other different).trans (relisted.others other elsewhere)
  · rw [written]
    exact (taken.others dir emptied.apart).trans (erased_like removed)
  · intro place kept
    rw [census] at kept
    rw [split]
    exact Multiset.mem_cons_of_mem (Multiset.mem_cons_of_mem (Multiset.mem_cons_of_mem kept))

end Emptying

/-- What `rmdir` has done when it returns zero: the name went, then the directory, and then the link
that it had on its parent. -/
structure Undirectoried (resolver : Resolver) (volume : Volume) (path : Path) (dir : Ino) (name : Name)
    (entry : DirEntry) (volume' : Volume) : Prop where
  located : Located resolver volume path dir name
  walked : resolver.walk volume path = .ok entry.inode
  found : volume.find dir name = some entry
  plain : Plain entry
  vacant : Vacant volume entry.inode
  holder : volume.census.Live dir
  apart : dir ≠ entry.inode
  more : 1 < volume.links dir
  steps : ∃ erased freed, Erased volume dir name erased ∧ Freed erased freed entry.inode ∧
    volume' = freed.written dir (freed.mode dir) (freed.links dir - 1)

/-- The links on the parent are those before the directory went. -/
theorem freed_links {dir ino : Ino} {name : Name} {entry : DirEntry} {erased freed : Volume}
    (found : volume.find dir name = some entry) (removed : Erased volume dir name erased)
    (taken : Freed erased freed ino) (apart : dir ≠ ino) : freed.links dir = volume.links dir := by
  rw [taken.links, (relisted_erase found removed.2.2).links, Function.update_of_ne apart]

section Undirectory

variable {path : Path} {dir : Ino} {name : Name} {entry : DirEntry}

theorem Undirectoried.emptied (gone : Undirectoried resolver volume path dir name entry volume') :
    Emptied resolver volume path dir name entry volume' := by
  obtain ⟨erased, freed, removed, taken, written⟩ := gone.steps
  refine ⟨gone.located, gone.walked, gone.found, gone.plain, gone.vacant, gone.holder, gone.apart,
    erased, freed, removed, taken, ?_⟩
  rw [if_pos]
  · exact written
  · rw [freed_links gone.found removed taken gone.apart]
    exact gone.more

theorem undirectoried_of_emptied (formed : volume.WellFormed exact rooted)
    (emptied : Emptied resolver volume path dir name entry volume') :
    Undirectoried resolver volume path dir name entry volume' := by
  obtain ⟨own, up, rest, split, ownName, upName, free, _⟩ := emptied.census formed.placed
  obtain ⟨erased, freed, removed, taken, written⟩ := emptied.steps
  obtain ⟨_, more⟩ := vacant_counts formed split emptied.vacant.1 emptied.plain ownName upName
    emptied.apart free
  refine ⟨emptied.located, emptied.walked, emptied.found, emptied.plain, emptied.vacant,
    emptied.holder, emptied.apart, more, erased, freed, removed, taken, ?_⟩
  rw [if_pos] at written
  · exact written
  · rw [freed_links emptied.found removed taken emptied.apart]
    exact more

/-- A vacant directory has gone with its name, and its parent has one link less. -/
theorem vacated_of_undirectoried (formed : volume.WellFormed exact rooted)
    (gone : Undirectoried resolver volume path dir name entry volume') :
    volume'.WellFormed exact rooted ∧ Vacated volume volume' dir name entry.inode := by
  obtain ⟨own, up, rest, split, ownName, upName, free, census⟩ := gone.emptied.census formed.placed
  have more : 1 < volume.census.links dir := BitVec.lt_def.mp gone.more
  rw [if_pos more] at census
  have edit : Edit exact rooted volume.census volume'.census := by
    rw [census]
    exact Edit.undirectory (dir, entry) own up rest split gone.vacant.1 gone.plain ownName upName
      gone.apart free
  refine ⟨formed_edit formed edit (gone.emptied.bounded formed.placed), ?_⟩
  apply (gone.emptied.withdrawn formed.placed).vacated
  rw [census, if_pos gone.vacant.1]
  dsimp only
  rw [Function.update_of_ne gone.apart, Function.update_self]
  exact Nat.sub_add_cancel (Nat.le_of_lt more)

end Undirectory

/-- The directory went, and one call freed it, or nothing happened. -/
def ClearedOnce (resolver : Resolver) (volume : Volume) (path : Path) (count : Nat) (ret : Int)
    (state' : Volume × Nat) : Prop :=
  ret = 0 ∧ state'.2 = count + 1 ∧
      (∃ dir name entry, Undirectoried resolver volume path dir name entry state'.1) ∨
    ret ≠ 0 ∧ state' = (volume, count)

/-- The directory went, whatever its parent counted, and one call freed it, or nothing happened. -/
def EmptiedOnce (resolver : Resolver) (volume : Volume) (path : Path) (count : Nat) (ret : Int)
    (state' : Volume × Nat) : Prop :=
  ret = 0 ∧ state'.2 = count + 1 ∧
      (∃ dir name entry, Emptied resolver volume path dir name entry state'.1) ∨
    ret ≠ 0 ∧ state' = (volume, count)

/-- The other entries that a directory has are reported. -/
def Refuses (resolver : Resolver) (volume : Volume) (path : Path) (ret : Int) : Prop :=
  ∀ child, resolver.walk volume path = .ok child → volume.isDir child = true →
    (∃ entry ∈ volume.entries child, Plain entry) → ret = -ENOTEMPTY

/-- A directory with one link or two is freed once. -/
theorem removeTwice_freed (calm : steady) {ino : Ino}
    (few : volume.links ino = 1 ∨ volume.links ino = 2) {next : Routine Int} {count : Nat}
    {post : Int → Volume × Nat → Prop}
    (rest : ∀ volume', Freed volume volume' ino →
      wp ((libext2fs resolver steady).counting frees) next post (volume', count + 1)) :
    wp ((libext2fs resolver steady).counting frees) (removeTwice ino next) post (volume, count) := by
  apply wp_continuing
  apply wp_mono (wp_and (wp_counting.mpr (removeInode_taken calm ino)) (removeInode_frees calm ino count))
  intro ret₁ state₁ outcome
  obtain ⟨volume₁, count₁⟩ := state₁
  obtain ⟨⟨zero₁, first⟩, counted₁⟩ := outcome
  refine ⟨fun bad => absurd zero₁ bad, fun _ => ?_⟩
  apply wp_continuing
  apply wp_mono (wp_and (wp_counting.mpr (removeInode_taken calm ino))
    (removeInode_frees calm ino count₁))
  intro ret₂ state₂ outcome
  obtain ⟨volume₂, count₂⟩ := state₂
  obtain ⟨⟨zero₂, second⟩, counted₂⟩ := outcome
  refine ⟨fun bad => absurd zero₂ bad, fun _ => ?_⟩
  have once : count₂ = count + 1 := by
    rw [show count₂ = _ from counted₂, show count₁ = _ from counted₁, first.links,
      Function.update_self]
    rcases few with one | two
    · rw [one, if_pos rfl, if_neg (by decide)]
    · rw [two, if_neg (by decide), if_pos (by decide)]
  rw [once]
  exact rest volume₂ (freed_of_taken few first second)

/-- A directory that is known to be vacant goes. -/
theorem removeEmptied_emptied (calm : steady) (closed : resolver.Closed) (placed : volume.Placed)
    (few : ∀ dir entry, (dir, entry) ∈ volume.census.names → Plain entry →
      Vacant volume entry.inode → volume.links entry.inode = 1 ∨ volume.links entry.inode = 2)
    {path : Path} {child : Ino} {visited : List DirEntry} (entries : visited = volume.entries child)
    (walked : resolver.walk volume path = .ok child) (vacant : Vacant volume child)
    (proper : ∀ dir name, Located resolver volume path dir name → volume.isDir dir = true →
      name ≠ dot ∧ name ≠ dotdot) (count : Nat) :
    wp ((libext2fs resolver steady).counting frees)
      (removeEmptied path child (visited.foldl rmdirProc { parent := 0, empty := true }).parent)
      (EmptiedOnce resolver volume path count) (volume, count) := by
  have live : volume.census.Live child := ⟨used_of_walk closed placed (.inl walked), vacant.1⟩
  apply wp_continuing
  apply wp_mono (wp_uncounted (unlinkFileByName_only upkeep_free (fun _ _ => rfl) path)
    (unlinkFileByName_erased path))
  intro ret state' outcome
  obtain ⟨volume₁, removed, same⟩ := outcome
  rw [same]
  rcases removed with ⟨dir, name, located, erased, zero⟩ | ⟨same, bad, _⟩
  · refine ⟨fun bad => absurd (zero calm) bad, fun _ => ?_⟩
    obtain ⟨holder, _, entry, there, named, refers, member, relisted⟩ :=
      erased_entry closed placed located erased walked
    have plain : Plain entry := by
      rw [Plain, named]
      exact proper dir name located erased.1
    rw [← refers] at walked vacant live entries ⊢
    obtain ⟨own, up, rest, others, ownName, upName, apart, free⟩ :=
      vacant_split placed (relisted.dropped (placed.bounded dir holder.1) holder) plain vacant
    have split := relisted.dropped (placed.bounded dir holder.1) holder
    rw [others] at split
    have positive : dir ≠ 0 := ne_null placed holder.1
    have upMember : up ∈ volume.entries entry.inode := by
      have inside : (entry.inode, up) ∈ volume.census.names := by
        rw [split]
        exact Multiset.mem_cons_of_mem (Multiset.mem_cons_of_mem (Multiset.mem_cons_self _ _))
      exact (mem_names.mp inside).2.2
    have parent : (visited.foldl rmdirProc { parent := 0, empty := true }).parent = dir := by
      rw [entries]
      apply (rmdirProc_fold (volume.entries entry.inode) { parent := 0, empty := true }).2 dir _
        (.inr ⟨up, upMember, upName⟩)
      intro other inside upwards
      exact ⟨up_inode placed.shaped member plain vacant.1 (place_of_entry placed live inside) upwards,
        positive⟩
    have links : volume₁.links entry.inode = volume.links entry.inode := by
      rw [relisted.links]
    apply removeTwice_freed calm (links ▸ few dir entry member plain vacant)
    intro volume₂ freed
    rw [parent, wp_ite]
    refine ⟨fun _ => ?_, fun null => absurd positive null⟩
    apply wp_mono (wp_uncounted (dropParentLink_only records_free dir)
      (dropParentLink_written calm dir))
    intro ret₂ state₂ outcome
    obtain ⟨volume₃, ⟨zero₃, written⟩, same₃⟩ := outcome
    rw [same₃]
    exact .inl ⟨zero₃, rfl, dir, name, entry, located, walked, there, plain, vacant, holder, apart,
      volume₁, volume₂, erased, freed, written⟩
  · exact ⟨fun _ => .inr ⟨bad, same ▸ rfl⟩, fun zero => absurd zero bad⟩

/-- A directory that `rmdir_proc` finds empty is vacant. -/
theorem vacant_of_foundEmpty (placed : volume.Placed) {dir : Ino} (live : volume.census.Live dir)
    (empty : volume.FoundEmpty dir) : Vacant volume dir := by
  refine ⟨live.2, fun entry member => ?_⟩
  apply ((rmdirProc_fold (volume.entries dir) { parent := 0, empty := true }).1 empty).2 entry member
  exact ne_null placed (placed.shaped.held _ (place_of_entry placed live member)).2.1

/-- `rmdir` frees a vacant directory once, or leaves the volume alone. It tells when the directory has
other entries. -/
theorem nodeExt2fsRmdir_emptied (calm : steady) (closed : resolver.Closed) (placed : volume.Placed)
    (few : ∀ dir entry, (dir, entry) ∈ volume.census.names → Plain entry →
      Vacant volume entry.inode → volume.links entry.inode = 1 ∨ volume.links entry.inode = 2)
    (path : Path)
    (proper : ∀ ino dir name, resolver.walk volume path = .ok ino → Vacant volume ino →
      Located resolver volume path dir name → volume.isDir dir = true → name ≠ dot ∧ name ≠ dotdot)
    (count : Nat) :
    wp ((libext2fs resolver steady).counting frees) (nodeExt2fsRmdir path)
      (fun ret state' => EmptiedOnce resolver volume path count ret state' ∧
        Refuses resolver volume path ret) (volume, count) := by
  have inUse {child : Ino} (walked : resolver.walk volume path = .ok child) :
      volume.inUse child = true := used_of_walk closed placed (.inl walked)
  have positive {child : Ino} (walked : resolver.walk volume path = .ok child) : child ≠ 0 :=
    ne_null placed (inUse walked)
  have failed {err : Errcode} (bad : err ≠ 0) (unlisted : ∀ child,
      resolver.walk volume path = .ok child → volume.isDir child = false) :
      wp ((libext2fs resolver steady).counting frees) (translateError err)
        (fun ret state' => EmptiedOnce resolver volume path count ret state' ∧
          Refuses resolver volume path ret) (volume, count) := by
    apply wp_mono (wp_uncounted (translateError_only records_free err) (translateError_quiet err))
    intro ret state' outcome
    obtain ⟨volume', quiet, same⟩ := outcome
    rw [same, quiet.1]
    refine ⟨.inr ⟨quiet.2 bad, rfl⟩, fun child walked directory => ?_⟩
    exact absurd ((unlisted child walked).symm.trans directory) Bool.noConfusion
  rw [nodeExt2fsRmdir, wp_bind]
  apply wp_counted (.namei path)
  intro answer volume₁ found
  obtain ⟨same, resolved⟩ := found
  dsimp only
  rw [same, wp_ite]
  refine ⟨fun bad => failed bad fun child walked => ?_, fun fine => ?_⟩
  · rw [walked] at resolved
    rcases resolved with ⟨fine, _⟩ | ⟨null, _⟩
    · exact absurd fine bad
    · exact absurd (null calm) (positive walked)
  have walked := (walk_of_resolved resolved (not_not.mp fine)).1
  rw [wp_bind]
  apply wp_counted (.dirIterate answer.2 .rmdirProc)
  intro visited volume₂ iterated
  obtain ⟨same, listed⟩ := rmdirProc_effect iterated
  rw [same, wp_ite]
  refine ⟨fun bad => failed bad fun child walked' => ?_, fun zero => ?_⟩
  · rcases iterated with ⟨fine, _⟩ | ⟨_, file, _⟩
    · exact absurd fine bad
    · rw [← Except.ok.inj (walked.symm.trans walked')]
      exact file calm
  obtain ⟨directory, entries⟩ := listed (not_not.mp zero)
  have known {child : Ino} (walked' : resolver.walk volume path = .ok child) : answer.2 = child :=
    Except.ok.inj (walked.symm.trans walked')
  rw [wp_ite]
  refine ⟨fun _ => ⟨.inr ⟨by decide, rfl⟩, fun _ _ _ _ => rfl⟩, fun empty => ?_⟩
  have vacant : Vacant volume answer.2 := by
    rw [entries] at empty
    exact vacant_of_foundEmpty placed ⟨inUse walked, directory⟩
      (by simpa [Volume.FoundEmpty] using empty)
  apply wp_mono (removeEmptied_emptied calm closed placed few entries walked vacant
    (fun dir name => proper answer.2 dir name walked vacant) count)
  intro ret state' emptied
  refine ⟨emptied, fun child walked' _ other => ?_⟩
  obtain ⟨entry, member, plain⟩ := other
  rw [← known walked'] at member
  rcases vacant.2 entry member with own | up
  · exact absurd own plain.1
  · exact absurd up plain.2

/-- A vacant directory has two links where the counts are right. -/
theorem two_links (formed : volume.WellFormed exact rooted) (dir : Ino) (entry : DirEntry)
    (member : (dir, entry) ∈ volume.census.names) (plain : Plain entry)
    (vacant : Vacant volume entry.inode) : volume.links entry.inode = 2 := by
  obtain ⟨others, split⟩ := Multiset.exists_cons_of_mem member
  obtain ⟨own, up, rest, same, ownName, upName, apart, free⟩ :=
    vacant_split formed.placed split plain vacant
  rw [same] at split
  exact (vacant_counts formed split vacant.1 plain ownName upName apart free).1

theorem nodeExt2fsRmdir_counted (calm : steady) (closed : resolver.Closed)
    (formed : volume.WellFormed exact rooted) (path : Path)
    (proper : ∀ ino dir name, resolver.walk volume path = .ok ino → Vacant volume ino →
      Located resolver volume path dir name → volume.isDir dir = true → name ≠ dot ∧ name ≠ dotdot)
    (count : Nat) :
    wp ((libext2fs resolver steady).counting frees) (nodeExt2fsRmdir path)
      (fun ret state' => ClearedOnce resolver volume path count ret state' ∧
        Refuses resolver volume path ret) (volume, count) := by
  apply wp_mono (nodeExt2fsRmdir_emptied calm closed formed.placed
    (fun dir entry member plain vacant => .inr (two_links formed dir entry member plain vacant))
    path proper count)
  intro ret state' outcome
  refine ⟨?_, outcome.2⟩
  rcases outcome.1 with ⟨zero, once, dir, name, entry, emptied⟩ | failed
  · exact .inl ⟨zero, once, dir, name, entry, undirectoried_of_emptied formed emptied⟩
  · exact .inr failed

/-- `node_ext2fs_rmdir` removes a vacant directory with its name. -/
theorem nodeExt2fsRmdir_removal (calm : steady) (closed : resolver.Closed)
    (formed : volume.WellFormed exact rooted) (path : Path)
    (proper : ∀ ino dir name, resolver.walk volume path = .ok ino → Vacant volume ino →
      Located resolver volume path dir name → name ≠ dot ∧ name ≠ dotdot) :
    wp (libext2fs resolver steady) (nodeExt2fsRmdir path)
      (Removal resolver exact rooted volume path) volume := by
  apply (@wp_counting _ _ _ _ _ frees _ _ _ 0).mp
  apply wp_mono (nodeExt2fsRmdir_counted calm closed formed path
    (fun ino dir name walked vacant located _ => proper ino dir name walked vacant located) 0)
  intro ret state' outcome
  rcases outcome.1 with ⟨zero, _, dir, name, entry, gone⟩ | ⟨bad, same⟩
  · obtain ⟨formed', vacated⟩ := vacated_of_undirectoried formed gone
    exact .inl ⟨zero, formed', dir, name, entry.inode, gone.located, gone.walked, gone.holder.2,
      gone.apart, fun _ => gone.vacant, vacated⟩
  · rw [same]
    exact .inr ⟨bad, rfl⟩

end NodeExt2fs.Trees
