import NodeExt2fs.Construction.Library.Census

/-!
This file keeps the names of a census sound through each change.
-/

namespace NodeExt2fs.Trees
open Structures Glue Library
open Census (Live references outer named Shaped Counted Sound Proper Edit Inside Rooted)

variable {exact rooted : Prop} {census : Census}

theorem dot_ne_dotdot : dot ≠ dotdot := by decide

theorem not_plain_dot {entry : DirEntry} (own : entry.name = dot) : ¬Plain entry :=
  fun plain => plain.1 own

theorem not_plain_dotdot {entry : DirEntry} (up : entry.name = dotdot) : ¬Plain entry :=
  fun plain => plain.2 up

/-- No inode in use is the null inode. -/
theorem used_ne_zero (shaped : census.Shaped) {ino : Ino} (used : census.inUse ino = true) : ino ≠ 0 := by
  intro zero
  rw [zero, shaped.null] at used
  cases used

/-- A directory that is in use has its own entry. -/
theorem references_pos (sound : census.Shaped) {dir : Ino} (live : census.Live dir) :
    0 < census.references dir := by
  have once := sound.selfOnce dir live
  have some : 0 < census.named dir dot := by
    rw [once]
    exact Nat.one_pos
  obtain ⟨place, member, here, own⟩ := Multiset.countP_pos.mp some
  apply Multiset.countP_pos_of_mem member
  rw [sound.self place member own, here]

/-- The names of one directory are one name. -/
theorem plain_unique (sound : census.Shaped) {place other : Place}
    (member : place ∈ census.names) (member' : other ∈ census.names) (plain : Plain place.2)
    (plain' : Plain other.2) (directory : census.isDir place.2.inode = true)
    (same : other.2.inode = place.2.inode) : other = place := by
  have live : census.Live place.2.inode := ⟨(sound.held place member).2.1, directory⟩
  by_cases root : place.2.inode = EXT2_ROOT_INO
  · have alone := sound.rootAlone
    have some : 0 < census.outer EXT2_ROOT_INO := Multiset.countP_pos_of_mem member ⟨root, plain⟩
    omega
  · exact eq_of_countP_one (sound.once _ live root) member member' ⟨rfl, plain⟩ ⟨same, plain'⟩

/-- No name leads to the root. -/
theorem ne_root (sound : census.Shaped) {place : Place} (member : place ∈ census.names)
    (plain : Plain place.2) : place.2.inode ≠ EXT2_ROOT_INO := by
  intro root
  have some : 0 < census.outer EXT2_ROOT_INO := Multiset.countP_pos_of_mem member ⟨root, plain⟩
  have alone := sound.rootAlone
  omega

/-- The entry of a directory for its parent refers to the directory that has its name. -/
theorem up_inode (sound : census.Shaped) {place : Place} (member : place ∈ census.names)
    (plain : Plain place.2) (directory : census.isDir place.2.inode = true) {up : DirEntry}
    (member' : (place.2.inode, up) ∈ census.names) (upName : up.name = dotdot) :
    up.inode = place.1 := by
  obtain ⟨name, there, refers, named, holder⟩ :=
    sound.parent _ member' upName (ne_root sound member plain)
  rw [plain_unique sound member there plain named directory refers] at holder
  exact holder.symm

/-- What refers to a file is a name. -/
theorem plain_of_file (sound : census.Shaped) {place : Place} (member : place ∈ census.names)
    (isFile : census.isDir place.2.inode = false) : Plain place.2 := by
  have directory {dir : Ino} (live : census.Live dir) : place.2.inode ≠ dir := by
    intro same
    rw [same, live.2] at isFile
    cases isFile
  have holder := (sound.held place member).1
  apply And.intro
  · intro own
    exact directory holder (sound.self place member own)
  · intro up
    by_cases root : place.1 = EXT2_ROOT_INO
    · exact directory sound.root (sound.rootParent place member up root)
    · obtain ⟨name, there, _, _, same⟩ := sound.parent place member up root
      exact directory (sound.held name there).1 same.symm

/-- A name for an inode that was not in use. -/
theorem not_referred (sound : census.Shaped) {ino : Ino} (fresh : census.inUse ino = false)
    {place : Place} (member : place ∈ census.names) : place.2.inode ≠ ino := by
  intro same
  have used := (sound.held place member).2.1
  rw [same, fresh] at used
  cases used

theorem ne_of_live {dir ino : Ino} (live : census.Live dir) (fresh : census.inUse ino = false) :
    dir ≠ ino := by
  intro same
  rw [← same, live.1] at fresh
  cases fresh

theorem ne_of_file {dir ino : Ino} (live : census.Live dir) (isFile : census.isDir ino = false) :
    dir ≠ ino := by
  intro same
  rw [← same, live.2] at isFile
  cases isFile

/-- The counts are no part of the shape. -/
theorem shaped_links (shaped : census.Shaped) (links : Ino → Nat) :
    Shaped { census with links := links } where
  null := shaped.null
  root := shaped.root
  held := shaped.held
  selfOnce := shaped.selfOnce
  self := shaped.self
  parentOnce := shaped.parentOnce
  rootParent := shaped.rootParent
  rootAlone := shaped.rootAlone
  once := shaped.once
  parent := shaped.parent

/-- An inode without names, which is no directory, comes into use or goes out of it. -/
theorem shaped_mark (shaped : census.Shaped) {ino : Ino} {used : Bool} {isDir : Ino → Bool}
    (positive : ino ≠ 0) (unnamed : ∀ place ∈ census.names, place.2.inode ≠ ino)
    (kinds : ∀ other, other ≠ ino → isDir other = census.isDir other) (isFile : isDir ino = false)
    (dead : ¬census.Live ino) :
    Shaped { census with inUse := Function.update census.inUse ino used, isDir := isDir } := by
  have kept {dir : Ino} (other : dir ≠ ino) :
      Live { census with inUse := Function.update census.inUse ino used, isDir := isDir } dir ↔
        census.Live dir := by
    dsimp only [Live]
    rw [Function.update_of_ne other, kinds dir other]
  have live {dir : Ino} (isLive : census.Live dir) :
      Live { census with inUse := Function.update census.inUse ino used, isDir := isDir } dir := by
    refine (kept ?_).mpr isLive
    intro same
    exact dead (same ▸ isLive)
  have before {dir : Ino} (isLive : Live
      { census with inUse := Function.update census.inUse ino used, isDir := isDir } dir) :
      census.Live dir := by
    refine (kept ?_).mp isLive
    intro same
    rw [same] at isLive
    exact absurd (isLive.2.symm.trans isFile) Bool.noConfusion
  constructor
  · exact (Function.update_of_ne positive.symm _ _).trans shaped.null
  · exact live shaped.root
  · intro place member
    obtain ⟨holder, inUse, nonempty⟩ := shaped.held place member
    exact ⟨live holder, (Function.update_of_ne (unnamed place member) _ _).trans inUse, nonempty⟩
  · exact fun dir isLive => shaped.selfOnce dir (before isLive)
  · exact shaped.self
  · exact fun dir isLive => shaped.parentOnce dir (before isLive)
  · exact shaped.rootParent
  · exact shaped.rootAlone
  · exact fun dir isLive => shaped.once dir (before isLive)
  · exact shaped.parent

/-- A file gets a name. -/
theorem shaped_add (shaped : census.Shaped) {place : Place} (proper : census.Proper place)
    (used : census.inUse place.2.inode = true) (isFile : census.isDir place.2.inode = false) :
    Shaped { census with names := place ::ₘ census.names } := by
  have other {dir : Ino} (live : census.Live dir) : place.2.inode ≠ dir :=
    (ne_of_file live isFile).symm
  constructor
  · exact shaped.null
  · exact shaped.root
  · intro name member
    rcases Multiset.mem_cons.mp member with same | old
    · rw [same]
      exact ⟨proper.holder, used, proper.nonempty⟩
    · exact shaped.held name old
  · intro dir live
    rw [named, Multiset.countP_cons_of_neg _ fun own => proper.plain.1 own.2]
    exact shaped.selfOnce dir live
  · intro name member own
    rcases Multiset.mem_cons.mp member with same | old
    · rw [same] at own
      exact absurd own proper.plain.1
    · exact shaped.self name old own
  · intro dir live
    rw [named, Multiset.countP_cons_of_neg _ fun up => proper.plain.2 up.2]
    exact shaped.parentOnce dir live
  · intro name member up
    rcases Multiset.mem_cons.mp member with same | old
    · rw [same] at up
      exact absurd up proper.plain.2
    · exact shaped.rootParent name old up
  · rw [outer, Multiset.countP_cons_of_neg _ fun root => other shaped.root root.1]
    exact shaped.rootAlone
  · intro dir live proper_dir
    rw [outer, Multiset.countP_cons_of_neg _ fun same => other live same.1]
    exact shaped.once dir live proper_dir
  · intro name member up root
    rcases Multiset.mem_cons.mp member with same | old
    · rw [same] at up
      exact absurd up proper.plain.2
    · obtain ⟨holder, there, rest⟩ := shaped.parent name old up root
      exact ⟨holder, Multiset.mem_cons_of_mem there, rest⟩

/-- A file loses a name. -/
theorem shaped_drop (shaped : census.Shaped) {place : Place} {rest : Multiset Place}
    (split : census.names = place ::ₘ rest) (isFile : census.isDir place.2.inode = false) :
    Shaped { census with names := rest } := by
  have other {dir : Ino} (live : census.Live dir) : place.2.inode ≠ dir :=
    (ne_of_file live isFile).symm
  have gone : place ∈ census.names := by
    rw [split]
    exact Multiset.mem_cons_self _ _
  have old {name : Place} (member : name ∈ rest) : name ∈ census.names := by
    rw [split]
    exact Multiset.mem_cons_of_mem member
  have plain := plain_of_file shaped gone isFile
  constructor
  · exact shaped.null
  · exact shaped.root
  · exact fun name member => shaped.held name (old member)
  · intro dir live
    have once := shaped.selfOnce dir live
    rwa [named, split, Multiset.countP_cons_of_neg _ fun own => plain.1 own.2] at once
  · exact fun name member => shaped.self name (old member)
  · intro dir live
    have once := shaped.parentOnce dir live
    rwa [named, split, Multiset.countP_cons_of_neg _ fun up => plain.2 up.2] at once
  · exact fun name member => shaped.rootParent name (old member)
  · have alone := shaped.rootAlone
    rwa [outer, split, Multiset.countP_cons_of_neg _ fun root => other shaped.root root.1] at alone
  · intro dir live proper_dir
    have once := shaped.once dir live proper_dir
    rwa [outer, split, Multiset.countP_cons_of_neg _ fun same => other live same.1] at once
  · intro name member up root
    obtain ⟨holder, there, refers, rest⟩ := shaped.parent name (old member) up root
    rw [split] at there
    rcases Multiset.mem_cons.mp there with same | kept
    · rw [same] at refers
      exact absurd refers (other (shaped.held name (old member)).1)
    · exact ⟨holder, kept, refers, rest⟩

/-- A directory comes into use with its name and its own entries. -/
theorem shaped_directory (shaped : census.Shaped) {place : Place} {own up : DirEntry}
    (proper : census.Proper place) (fresh : census.inUse place.2.inode = false)
    (positive : place.2.inode ≠ 0) (ownName : own.name = dot)
    (ownInode : own.inode = place.2.inode) (upName : up.name = dotdot)
    (upInode : up.inode = place.1) :
    Shaped { census with
      inUse := Function.update census.inUse place.2.inode true
      isDir := Function.update census.isDir place.2.inode true
      names := place ::ₘ (place.2.inode, own) ::ₘ (place.2.inode, up) ::ₘ census.names } := by
  have unnamed {name : Place} (member : name ∈ census.names) : name.2.inode ≠ place.2.inode :=
    not_referred shaped fresh member
  have outside {name : Place} (member : name ∈ census.names) : name.1 ≠ place.2.inode :=
    ne_of_live (shaped.held name member).1 fresh
  have used : Function.update census.inUse place.2.inode true place.2.inode = true :=
    Function.update_self _ _ _
  have kept {dir : Ino} (live : census.Live dir) :
      Function.update census.inUse place.2.inode true dir = true ∧
        Function.update census.isDir place.2.inode true dir = true := by
    have other := ne_of_live live fresh
    rw [Function.update_of_ne other, Function.update_of_ne other]
    exact live
  have here : Function.update census.inUse place.2.inode true place.2.inode = true ∧
      Function.update census.isDir place.2.inode true place.2.inode = true :=
    ⟨used, Function.update_self _ _ _⟩
  have before {dir : Ino} (other : dir ≠ place.2.inode)
      (live : Function.update census.inUse place.2.inode true dir = true ∧
        Function.update census.isDir place.2.inode true dir = true) : census.Live dir := by
    rwa [Function.update_of_ne other, Function.update_of_ne other] at live
  -- A new member is the name, one of the two own entries, or an old one.
  have cases_of {name : Place} (member : name ∈
      place ::ₘ (place.2.inode, own) ::ₘ (place.2.inode, up) ::ₘ census.names) :
      name = place ∨ name = (place.2.inode, own) ∨ name = (place.2.inode, up) ∨
        name ∈ census.names := by
    simpa only [Multiset.mem_cons] using member
  have upPlain := not_plain_dotdot upName
  have ownPlain := not_plain_dot ownName
  have ownUp : own.name ≠ dotdot := fun same => dot_ne_dotdot (ownName.symm.trans same)
  have upOwn : up.name ≠ dot := fun same => dot_ne_dotdot (same.symm.trans upName)
  constructor
  · exact (Function.update_of_ne positive.symm _ _).trans shaped.null
  · exact kept shaped.root
  · intro name member
    rcases cases_of member with same | same | same | old
    · rw [same]
      exact ⟨kept proper.holder, used, proper.nonempty⟩
    · rw [same]
      refine ⟨here, ?_, ?_⟩
      · show Function.update census.inUse place.2.inode true own.inode = true
        rw [ownInode]
        exact used
      · show own.name ≠ []
        rw [ownName]
        exact List.cons_ne_nil _ _
    · rw [same]
      refine ⟨here, ?_, ?_⟩
      · show Function.update census.inUse place.2.inode true up.inode = true
        rw [upInode]
        exact (kept proper.holder).1
      · show up.name ≠ []
        rw [upName]
        exact List.cons_ne_nil _ _
    · obtain ⟨holder, inUse, nonempty⟩ := shaped.held name old
      exact ⟨kept holder, (Function.update_of_ne (unnamed old) _ _).trans inUse, nonempty⟩
  · intro dir live
    rw [named, Multiset.countP_cons_of_neg _ fun own => proper.plain.1 own.2]
    by_cases same : dir = place.2.inode
    · rw [same, Multiset.countP_cons_of_pos _ ⟨rfl, ownName⟩,
        Multiset.countP_cons_of_neg _ fun both => upOwn both.2]
      apply congrArg Nat.succ
      exact Multiset.countP_eq_zero.mpr fun name member both => outside member both.1
    · rw [Multiset.countP_cons_of_neg _ fun both => same both.1.symm,
        Multiset.countP_cons_of_neg _ fun both => same both.1.symm]
      exact shaped.selfOnce dir (before same live)
  · intro name member itself
    rcases cases_of member with same | same | same | old
    · rw [same] at itself
      exact absurd itself proper.plain.1
    · rw [same]
      exact ownInode
    · rw [same] at itself
      exact absurd itself upOwn
    · exact shaped.self name old itself
  · intro dir live
    rw [named, Multiset.countP_cons_of_neg _ fun up => proper.plain.2 up.2,
      Multiset.countP_cons_of_neg _ fun both => ownUp both.2]
    by_cases same : dir = place.2.inode
    · rw [same, Multiset.countP_cons_of_pos _ ⟨rfl, upName⟩]
      apply congrArg Nat.succ
      exact Multiset.countP_eq_zero.mpr fun name member both => outside member both.1
    · rw [Multiset.countP_cons_of_neg _ fun both => same both.1.symm]
      exact shaped.parentOnce dir (before same live)
  · intro name member upwards root
    rcases cases_of member with same | same | same | old
    · rw [same] at upwards
      exact absurd upwards proper.plain.2
    · rw [same] at upwards
      exact absurd upwards ownUp
    · rw [same] at root
      exact absurd root.symm (ne_of_live shaped.root fresh)
    · exact shaped.rootParent name old upwards root
  · rw [outer, Multiset.countP_cons_of_neg _ fun both =>
        ne_of_live shaped.root fresh both.1.symm,
      Multiset.countP_cons_of_neg _ fun both => ownPlain both.2,
      Multiset.countP_cons_of_neg _ fun both => upPlain both.2]
    exact shaped.rootAlone
  · intro dir live proper_dir
    by_cases same : dir = place.2.inode
    · rw [outer, same, Multiset.countP_cons_of_pos _ ⟨rfl, proper.plain⟩,
        Multiset.countP_cons_of_neg _ fun both => ownPlain both.2,
        Multiset.countP_cons_of_neg _ fun both => upPlain both.2]
      apply congrArg Nat.succ
      exact Multiset.countP_eq_zero.mpr fun name member both => unnamed member both.1
    · rw [outer, Multiset.countP_cons_of_neg _ fun both => same both.1.symm,
        Multiset.countP_cons_of_neg _ fun both => ownPlain both.2,
        Multiset.countP_cons_of_neg _ fun both => upPlain both.2]
      exact shaped.once dir (before same live) proper_dir
  · intro name member upwards root
    rcases cases_of member with same | same | same | old
    · rw [same] at upwards
      exact absurd upwards proper.plain.2
    · rw [same] at upwards
      exact absurd upwards ownUp
    · rw [same]
      exact ⟨place, Multiset.mem_cons_self _ _, rfl, proper.plain, upInode.symm⟩
    · obtain ⟨holder, there, rest⟩ := shaped.parent name old upwards root
      exact ⟨holder, Multiset.mem_cons_of_mem (Multiset.mem_cons_of_mem
        (Multiset.mem_cons_of_mem there)), rest⟩

section Directory

variable {place : Place} {own up : DirEntry} {rest : Multiset Place}

/-- A directory without names in it is referred to by its name and by itself only. -/
theorem vacant_unnamed (shaped : census.Shaped)
    (split : census.names = place ::ₘ (place.2.inode, own) ::ₘ (place.2.inode, up) ::ₘ rest)
    (isDirectory : census.isDir place.2.inode = true) (plain : Plain place.2)
    (ownName : own.name = dot) (upName : up.name = dotdot) (apart : place.1 ≠ place.2.inode)
    (vacant : ∀ other ∈ rest, other.1 ≠ place.2.inode) {name : Place} (member : name ∈ rest) :
    name.2.inode ≠ place.2.inode := by
  intro refers
  have gone : place ∈ census.names := by
    rw [split]
    exact Multiset.mem_cons_self _ _
  have old {name : Place} (member : name ∈ rest) : name ∈ census.names := by
    rw [split]
    exact Multiset.mem_cons_of_mem (Multiset.mem_cons_of_mem (Multiset.mem_cons_of_mem member))
  have proper := ne_root shaped gone plain
  by_cases itself : name.2.name = dot
  · exact vacant name member ((shaped.self name (old member) itself).symm.trans refers)
  · by_cases upwards : name.2.name = dotdot
    · by_cases root : name.1 = EXT2_ROOT_INO
      · exact proper (refers.symm.trans (shaped.rootParent name (old member) upwards root))
      · obtain ⟨below, there, _, plainly, holder⟩ := shaped.parent name (old member) upwards root
        rw [refers] at holder
        rw [split] at there
        simp only [Multiset.mem_cons] at there
        rcases there with same | same | same | kept
        · rw [same] at holder
          exact apart holder
        · rw [same] at plainly
          exact not_plain_dot ownName plainly
        · rw [same] at plainly
          exact not_plain_dotdot upName plainly
        · exact vacant below kept holder
    · have live : census.Live place.2.inode := ⟨(shaped.held place gone).2.1, isDirectory⟩
      have once := shaped.once _ live proper
      rw [outer, split, Multiset.countP_cons_of_pos _ ⟨rfl, plain⟩,
        Multiset.countP_cons_of_neg _ fun both => not_plain_dot ownName both.2,
        Multiset.countP_cons_of_neg _ fun both => not_plain_dotdot upName both.2] at once
      have another : 0 < rest.countP fun name => name.2.inode = place.2.inode ∧ Plain name.2 :=
        Multiset.countP_pos_of_mem member ⟨refers, itself, upwards⟩
      omega

/-- A directory without names in it goes out of use. -/
theorem shaped_undirectory (shaped : census.Shaped)
    (split : census.names = place ::ₘ (place.2.inode, own) ::ₘ (place.2.inode, up) ::ₘ rest)
    (isDirectory : census.isDir place.2.inode = true) (plain : Plain place.2)
    (ownName : own.name = dot) (upName : up.name = dotdot) (apart : place.1 ≠ place.2.inode)
    (vacant : ∀ other ∈ rest, other.1 ≠ place.2.inode) :
    Shaped { census with
      inUse := Function.update census.inUse place.2.inode false, names := rest } := by
  have gone : place ∈ census.names := by
    rw [split]
    exact Multiset.mem_cons_self _ _
  have old {name : Place} (member : name ∈ rest) : name ∈ census.names := by
    rw [split]
    exact Multiset.mem_cons_of_mem (Multiset.mem_cons_of_mem (Multiset.mem_cons_of_mem member))
  have positive : place.2.inode ≠ 0 := used_ne_zero shaped (shaped.held place gone).2.1
  have kept {dir : Ino} (live : census.Live dir) (other : dir ≠ place.2.inode) :
      Function.update census.inUse place.2.inode false dir = true ∧ census.isDir dir = true := by
    rw [Function.update_of_ne other]
    exact live
  have before {dir : Ino} (live : Function.update census.inUse place.2.inode false dir = true ∧
      census.isDir dir = true) : dir ≠ place.2.inode ∧ census.Live dir := by
    by_cases same : dir = place.2.inode
    · rw [same, Function.update_self] at live
      cases live.1
    · rw [Function.update_of_ne same] at live
      exact ⟨same, live⟩
  constructor
  · exact (Function.update_of_ne positive.symm _ _).trans shaped.null
  · exact kept shaped.root (ne_root shaped gone plain).symm
  · intro name member
    obtain ⟨holder, used, nonempty⟩ := shaped.held name (old member)
    have unnamed := vacant_unnamed shaped split isDirectory plain ownName upName apart vacant member
    exact ⟨kept holder (vacant name member), (Function.update_of_ne unnamed _ _).trans used, nonempty⟩
  · intro dir live
    have once := shaped.selfOnce dir (before live).2
    rwa [named, split, Multiset.countP_cons_of_neg _ fun both => plain.1 both.2,
      Multiset.countP_cons_of_neg _ fun both => (before live).1 both.1.symm,
      Multiset.countP_cons_of_neg _ fun both => (before live).1 both.1.symm] at once
  · exact fun name member => shaped.self name (old member)
  · intro dir live
    have once := shaped.parentOnce dir (before live).2
    rwa [named, split, Multiset.countP_cons_of_neg _ fun both => plain.2 both.2,
      Multiset.countP_cons_of_neg _ fun both => (before live).1 both.1.symm,
      Multiset.countP_cons_of_neg _ fun both => (before live).1 both.1.symm] at once
  · exact fun name member => shaped.rootParent name (old member)
  · have alone := shaped.rootAlone
    rwa [outer, split,
      Multiset.countP_cons_of_neg _ fun both => ne_root shaped gone plain both.1,
      Multiset.countP_cons_of_neg _ fun both => not_plain_dot ownName both.2,
      Multiset.countP_cons_of_neg _ fun both => not_plain_dotdot upName both.2] at alone
  · intro dir live proper_dir
    have once := shaped.once dir (before live).2 proper_dir
    rwa [outer, split,
      Multiset.countP_cons_of_neg _ fun both => (before live).1 both.1.symm,
      Multiset.countP_cons_of_neg _ fun both => not_plain_dot ownName both.2,
      Multiset.countP_cons_of_neg _ fun both => not_plain_dotdot upName both.2] at once
  · intro name member upwards root
    obtain ⟨holder, there, refers, plainly, parent⟩ := shaped.parent name (old member) upwards root
    rw [split] at there
    simp only [Multiset.mem_cons] at there
    rcases there with same | same | same | left
    · rw [same] at refers
      exact absurd refers.symm (vacant name member)
    · rw [same] at plainly
      exact absurd plainly (not_plain_dot ownName)
    · rw [same] at plainly
      exact absurd plainly (not_plain_dotdot upName)
    · exact ⟨holder, left, refers, plainly, parent⟩

end Directory

section Move

variable {place place' : Place} {up up' : DirEntry} {rest : Multiset Place}

/-- A directory that is moved has one entry for its parent. -/
theorem up_unique (shaped : census.Shaped)
    (split : census.names = place ::ₘ (place.2.inode, up) ::ₘ rest)
    (isDirectory : census.isDir place.2.inode = true) (upName : up.name = dotdot) {name : Place}
    (member : name ∈ rest) (upwards : name.2.name = dotdot) : name.1 ≠ place.2.inode := by
  intro here
  have gone : place ∈ census.names := by
    rw [split]
    exact Multiset.mem_cons_self _ _
  have once := shaped.parentOnce place.2.inode ⟨(shaped.held place gone).2.1, isDirectory⟩
  have another : 0 < rest.countP fun name => name.1 = place.2.inode ∧ name.2.name = dotdot :=
    Multiset.countP_pos_of_mem member ⟨here, upwards⟩
  rw [named, split, Multiset.countP_cons, Multiset.countP_cons_of_pos _ ⟨rfl, upName⟩] at once
  omega

/-- A directory gets another name in place of its name, and another parent. -/
theorem shaped_moveDirectory (shaped : census.Shaped)
    (split : census.names = place ::ₘ (place.2.inode, up) ::ₘ rest)
    (same : place'.2.inode = place.2.inode) (isDirectory : census.isDir place.2.inode = true)
    (plain : Plain place.2) (proper : census.Proper place') (upName : up.name = dotdot)
    (upName' : up'.name = dotdot) (upInode' : up'.inode = place'.1) :
    Shaped { census with names := place' ::ₘ (place.2.inode, up') ::ₘ rest } := by
  have gone : place ∈ census.names := by
    rw [split]
    exact Multiset.mem_cons_self _ _
  have old {name : Place} (member : name ∈ rest) : name ∈ census.names := by
    rw [split]
    exact Multiset.mem_cons_of_mem (Multiset.mem_cons_of_mem member)
  have live : census.Live place.2.inode := ⟨(shaped.held place gone).2.1, isDirectory⟩
  have properly := ne_root shaped gone plain
  have cases_of {name : Place} (member : name ∈ place' ::ₘ (place.2.inode, up') ::ₘ rest) :
      name = place' ∨ name = (place.2.inode, up') ∨ name ∈ rest := by
    simpa only [Multiset.mem_cons] using member
  have upOwn {entry : DirEntry} (upwards : entry.name = dotdot) : entry.name ≠ dot :=
    fun own => dot_ne_dotdot (own.symm.trans upwards)
  constructor
  · exact shaped.null
  · exact shaped.root
  · intro name member
    rcases cases_of member with equal | equal | kept
    · rw [equal]
      refine ⟨proper.holder, ?_, proper.nonempty⟩
      rw [same]
      exact live.1
    · rw [equal]
      refine ⟨live, ?_, ?_⟩
      · show census.inUse up'.inode = true
        rw [upInode']
        exact proper.holder.1
      · show up'.name ≠ []
        rw [upName']
        exact List.cons_ne_nil _ _
    · exact shaped.held name (old kept)
  · intro dir dirLive
    have once := shaped.selfOnce dir dirLive
    rw [named, split, Multiset.countP_cons_of_neg _ fun both => plain.1 both.2,
      Multiset.countP_cons_of_neg _ fun both => upOwn upName both.2] at once
    rw [named, Multiset.countP_cons_of_neg _ fun both => proper.plain.1 both.2,
      Multiset.countP_cons_of_neg _ fun both => upOwn upName' both.2]
    exact once
  · intro name member itself
    rcases cases_of member with equal | equal | kept
    · rw [equal] at itself
      exact absurd itself proper.plain.1
    · rw [equal] at itself
      exact absurd itself (upOwn upName')
    · exact shaped.self name (old kept) itself
  · intro dir dirLive
    have once := shaped.parentOnce dir dirLive
    rw [named, split, Multiset.countP_cons_of_neg _ fun both => plain.2 both.2] at once
    rw [named, Multiset.countP_cons_of_neg _ fun both => proper.plain.2 both.2]
    by_cases here : place.2.inode = dir
    · rw [Multiset.countP_cons_of_pos _ ⟨here, upName⟩] at once
      rw [Multiset.countP_cons_of_pos _ ⟨here, upName'⟩]
      exact once
    · rw [Multiset.countP_cons_of_neg _ fun both => here both.1] at once
      rw [Multiset.countP_cons_of_neg _ fun both => here both.1]
      exact once
  · intro name member upwards root
    rcases cases_of member with equal | equal | kept
    · rw [equal] at upwards
      exact absurd upwards proper.plain.2
    · rw [equal] at root
      exact absurd root properly
    · exact shaped.rootParent name (old kept) upwards root
  · have alone := shaped.rootAlone
    rw [outer, split, Multiset.countP_cons_of_neg _ fun both => properly both.1,
      Multiset.countP_cons_of_neg _ fun both => not_plain_dotdot upName both.2] at alone
    rw [outer, Multiset.countP_cons_of_neg _ fun both => properly (same.symm.trans both.1),
      Multiset.countP_cons_of_neg _ fun both => not_plain_dotdot upName' both.2]
    exact alone
  · intro dir dirLive proper_dir
    have once := shaped.once dir dirLive proper_dir
    rw [outer, split] at once
    rw [outer]
    by_cases here : place.2.inode = dir
    · rw [Multiset.countP_cons_of_pos _ ⟨here, plain⟩,
        Multiset.countP_cons_of_neg _ fun both => not_plain_dotdot upName both.2] at once
      rw [Multiset.countP_cons_of_pos _ ⟨same.trans here, proper.plain⟩,
        Multiset.countP_cons_of_neg _ fun both => not_plain_dotdot upName' both.2]
      exact once
    · rw [Multiset.countP_cons_of_neg _ fun both => here both.1,
        Multiset.countP_cons_of_neg _ fun both => not_plain_dotdot upName both.2] at once
      rw [Multiset.countP_cons_of_neg _ fun both => here (same.symm.trans both.1),
        Multiset.countP_cons_of_neg _ fun both => not_plain_dotdot upName' both.2]
      exact once
  · intro name member upwards root
    rcases cases_of member with equal | equal | kept
    · rw [equal] at upwards
      exact absurd upwards proper.plain.2
    · rw [equal]
      exact ⟨place', Multiset.mem_cons_self _ _, same, proper.plain, upInode'.symm⟩
    · obtain ⟨holder, there, refers, plainly, parent⟩ := shaped.parent name (old kept) upwards root
      rw [split] at there
      simp only [Multiset.mem_cons] at there
      rcases there with equal | equal | left
      · -- The moved directory has no other entry for its parent.
        rw [equal] at refers
        exact absurd refers.symm (up_unique shaped split isDirectory upName kept upwards)
      · rw [equal] at plainly
        exact absurd plainly (not_plain_dotdot upName)
      · exact ⟨holder, Multiset.mem_cons_of_mem (Multiset.mem_cons_of_mem left), refers, plainly,
          parent⟩

end Move

end NodeExt2fs.Trees
