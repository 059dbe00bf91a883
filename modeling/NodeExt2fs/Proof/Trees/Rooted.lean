import NodeExt2fs.Proof.Trees.Counts

/-!
This file keeps every directory below the root.
-/

namespace NodeExt2fs.Trees
open Structures Glue Library
open Census (Live Shaped Sound Proper Edit Inside Rooted)

variable {exact : Prop} {census after : Census}

/-- A directory that is left out takes only its own descendants away. -/
theorem inside_kept {top : Ino} {left : Ino → Prop}
    (closed : ∀ place ∈ census.names, Plain place.2 → census.Live place.2.inode →
      left place.1 → left place.2.inode)
    (kept : ∀ place ∈ census.names, Plain place.2 → census.Live place.2.inode →
      ¬left place.2.inode → place ∈ after.names ∧ after.Live place.2.inode)
    {dir : Ino} (inside : census.Inside top dir) (stays : ¬left dir) : after.Inside top dir := by
  induction inside with
  | here => exact .here
  | deeper _ member plain live ih =>
      obtain ⟨member', live'⟩ := kept _ member plain live stays
      exact .deeper (ih fun gone => stays (closed _ member plain live gone)) member' plain live'

/-- A directory stays below another one when no name of a directory goes. -/
theorem inside_mono {top : Ino}
    (kept : ∀ place ∈ census.names, Plain place.2 → census.Live place.2.inode →
      place ∈ after.names ∧ after.Live place.2.inode)
    {dir : Ino} (inside : census.Inside top dir) : after.Inside top dir :=
  @inside_kept census after top (fun _ => False) (fun _ _ _ _ gone => gone)
    (fun place member plain live _ => kept place member plain live) dir inside not_false

theorem inside_trans {top middle dir : Ino} (above : census.Inside top middle)
    (below : census.Inside middle dir) : census.Inside top dir := by
  induction below with
  | here => exact above
  | deeper _ member plain live ih => exact .deeper ih member plain live

/-- No name of a directory goes, and no directory comes. -/
theorem rooted_mono (rooted : census.Rooted)
    (kept : ∀ place ∈ census.names, Plain place.2 → census.Live place.2.inode → place ∈ after.names)
    (live : ∀ dir, after.Live dir ↔ census.Live dir) : after.Rooted := by
  intro dir isLive
  apply inside_mono _ (rooted dir ((live dir).mp isLive))
  exact fun place member plain held => ⟨kept place member plain held, (live _).mpr held⟩

/-- A directory comes into use. -/
theorem rooted_directory (rooted : census.Rooted) {place : Place} {names : Multiset Place}
    (proper : census.Proper place) (fresh : census.inUse place.2.inode = false)
    (kept : ∀ name ∈ census.names, name ∈ names) (named : place ∈ names) (links : Ino → Nat) :
    Rooted
      { inUse := Function.update census.inUse place.2.inode true
        isDir := Function.update census.isDir place.2.inode true
        links := links
        names := names } := by
  generalize result : Census.mk (Function.update census.inUse place.2.inode true)
    (Function.update census.isDir place.2.inode true) links names = after
  have live {dir : Ino} (other : dir ≠ place.2.inode) : after.Live dir ↔ census.Live dir := by
    rw [← result]
    dsimp only [Live]
    rw [Function.update_of_ne other, Function.update_of_ne other]
  have fromRoot {dir : Ino} (held : census.Live dir) : after.Inside EXT2_ROOT_INO dir := by
    apply inside_mono _ (rooted dir held)
    intro name member _ holder
    refine ⟨?_, (live (ne_of_live holder fresh)).mpr holder⟩
    rw [← result]
    exact kept name member
  intro dir isLive
  by_cases same : dir = place.2.inode
  · rw [same] at isLive ⊢
    refine .deeper (fromRoot proper.holder) ?_ proper.plain isLive
    rw [← result]
    exact named
  · exact fromRoot ((live same).mp isLive)

/-- A directory without names in it goes out of use. -/
theorem rooted_undirectory (rooted : census.Rooted) {place : Place} {own up : DirEntry}
    {rest : Multiset Place}
    (split : census.names = place ::ₘ (place.2.inode, own) ::ₘ (place.2.inode, up) ::ₘ rest)
    (ownName : own.name = dot) (upName : up.name = dotdot) (apart : place.1 ≠ place.2.inode)
    (vacant : ∀ other ∈ rest, other.1 ≠ place.2.inode) (links : Ino → Nat) :
    Rooted { census with
      inUse := Function.update census.inUse place.2.inode false
      links := links
      names := rest } := by
  intro dir isLive
  have other : dir ≠ place.2.inode := by
    intro same
    have used := isLive.1
    rw [same] at used
    exact absurd ((Function.update_self _ _ _).symm.trans used) Bool.noConfusion
  have before : census.Live dir := ⟨(Function.update_of_ne other _ _).symm.trans isLive.1, isLive.2⟩
  have cases_of {name : Place} (member : name ∈ census.names) (plain : Plain name.2) :
      name = place ∨ name ∈ rest := by
    rw [split] at member
    simp only [Multiset.mem_cons] at member
    rcases member with same | same | same | kept
    · exact .inl same
    · rw [same] at plain
      exact absurd plain (not_plain_dot ownName)
    · rw [same] at plain
      exact absurd plain (not_plain_dotdot upName)
    · exact .inr kept
  apply @inside_kept census _ _ (fun ino => ino = place.2.inode) _ _ dir (rooted dir before) other
  · intro name member plain _ holder
    rcases cases_of member plain with same | kept
    · rw [same] at holder
      exact absurd holder apart
    · exact absurd holder (vacant name kept)
  · intro name member plain live stays
    refine ⟨?_, (Function.update_of_ne stays _ _).trans live.1, live.2⟩
    rcases cases_of member plain with same | kept
    · rw [same] at stays
      exact absurd rfl stays
    · exact kept

/-- A directory moves to a place that is not below it. -/
theorem rooted_moveDirectory (rooted : census.Rooted) {place place' : Place} {up up' : DirEntry}
    {rest : Multiset Place} (split : census.names = place ::ₘ (place.2.inode, up) ::ₘ rest)
    (same : place'.2.inode = place.2.inode) (shaped : census.Shaped)
    (isDirectory : census.isDir place.2.inode = true) (proper : census.Proper place')
    (upName : up.name = dotdot) (apart : ¬census.Inside place.2.inode place'.1) (links : Ino → Nat) :
    Rooted { census with links := links, names := place' ::ₘ (place.2.inode, up') ::ₘ rest } := by
  generalize result : Census.mk census.inUse census.isDir links
    (place' ::ₘ (place.2.inode, up') ::ₘ rest) = after
  have live (dir : Ino) : after.Live dir ↔ census.Live dir := by
    rw [← result]
    rfl
  have gone : place ∈ census.names := by
    rw [split]
    exact Multiset.mem_cons_self _ _
  have moved : census.Live place.2.inode := ⟨(shaped.held place gone).2.1, isDirectory⟩
  have kept {name : Place} (member : name ∈ census.names) (plain : Plain name.2)
      (stays : name ≠ place) : name ∈ after.names := by
    rw [split] at member
    simp only [Multiset.mem_cons] at member
    rw [← result]
    rcases member with equal | equal | left
    · exact absurd equal stays
    · rw [equal] at plain
      exact absurd plain (not_plain_dotdot upName)
    · exact Multiset.mem_cons_of_mem (Multiset.mem_cons_of_mem left)
  -- What is not below the moved directory stays where it is.
  have outside {dir : Ino} (held : census.Live dir) (out : ¬census.Inside place.2.inode dir) :
      after.Inside EXT2_ROOT_INO dir := by
    apply inside_kept _ _ (rooted dir held) out
    · exact fun name member plain holder above => .deeper above member plain holder
    · intro name member plain holder stays
      refine ⟨kept member plain ?_, (live _).mpr holder⟩
      intro equal
      rw [equal] at stays
      exact stays .here
  -- What is below it moves along.
  have along {dir : Ino} (below : census.Inside place.2.inode dir) :
      after.Inside place.2.inode dir := by
    induction below with
    | here => exact .here
    | @deeper name _ member plain holder ih =>
        by_cases equal : name = place
        · rw [equal]
          exact .here
        · exact .deeper ih (kept member plain equal) plain ((live _).mpr holder)
  have reached : after.Inside EXT2_ROOT_INO place.2.inode := by
    rw [← same]
    refine .deeper (outside proper.holder apart) ?_ proper.plain ?_
    · rw [← result]
      exact Multiset.mem_cons_self _ _
    · rw [same]
      exact (live _).mpr moved
  intro dir isLive
  by_cases below : census.Inside place.2.inode dir
  · exact inside_trans reached (along below)
  · exact outside ((live dir).mp isLive) below

/-- A file's name is no way to a directory. -/
theorem ne_of_plain_live {place name : Place} (isFile : census.isDir place.2.inode = false)
    (live : census.Live name.2.inode) : name ≠ place := by
  intro equal
  rw [equal] at live
  exact ne_of_file live isFile rfl

/-- Each change keeps every directory below the root. -/
theorem rooted_edit (shaped : census.Shaped) (rooted : census.Rooted)
    (edit : Edit exact True census after) : after.Rooted := by
  cases edit with
  | file place proper fresh positive =>
      apply rooted_mono rooted
      · exact fun name member _ _ => Multiset.mem_cons_of_mem member
      · intro dir
        by_cases same : dir = place.2.inode
        · apply iff_of_false
          · intro live
            have isDirectory := live.2
            rw [same] at isDirectory
            exact absurd ((Function.update_self _ _ _).symm.trans isDirectory) Bool.noConfusion
          · exact fun live => ne_of_live live fresh same
        · dsimp only [Live]
          rw [Function.update_of_ne same, Function.update_of_ne same]
  | directory place own up proper fresh positive ownName ownInode upName upInode =>
      apply rooted_directory rooted proper fresh
      · exact fun name member => Multiset.mem_cons_of_mem (Multiset.mem_cons_of_mem
          (Multiset.mem_cons_of_mem member))
      · exact Multiset.mem_cons_self _ _
  | name place count proper used isFile exactly covers =>
      exact rooted_mono rooted (fun name member _ _ => Multiset.mem_cons_of_mem member)
        fun _ => Iff.rfl
  | count ino count isFile exactly covers =>
      exact rooted_mono rooted (fun name member _ _ => member) fun _ => Iff.rfl
  | unname place rest split isFile =>
      apply rooted_mono rooted
      · intro name member _ live
        rw [split] at member
        exact (Multiset.mem_cons.mp member).resolve_left (ne_of_plain_live isFile live)
      · intro dir
        by_cases last : census.links place.2.inode = 1
        · by_cases same : dir = place.2.inode
          · apply iff_of_false
            · intro live
              exact absurd ((same ▸ live.2).symm.trans isFile) Bool.noConfusion
            · exact fun live => ne_of_file live isFile same
          · dsimp only [Live]
            rw [if_pos last, Function.update_of_ne same]
        · dsimp only [Live]
          rw [if_neg last]
  | undirectory place own up rest split isDirectory plain ownName upName apart vacant =>
      exact rooted_undirectory rooted split ownName upName apart vacant _
  | move place place' rest split same isFile proper =>
      apply rooted_mono rooted
      · intro name member _ live
        rw [split] at member
        exact Multiset.mem_cons_of_mem
          ((Multiset.mem_cons.mp member).resolve_left (ne_of_plain_live isFile live))
      · exact fun _ => Iff.rfl
  | moveDirectory place place' up up' rest split same isDirectory plain proper upName upName' upInode'
      apart =>
      exact rooted_moveDirectory rooted split same shaped isDirectory proper upName (apart trivial) _

end NodeExt2fs.Trees
