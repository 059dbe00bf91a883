import NodeExt2fs.Proof.Trees.Sound

/-!
This file keeps the counts of a census through each change.
-/

namespace NodeExt2fs.Trees
open Structures Glue Library
open Census (Live references outer named Shaped Counted Sound Proper Edit Inside Rooted)

variable {exact rooted : Prop} {census after : Census}

/-- An inode that a change leaves alone. -/
theorem counted_same {ino : Ino} (counted : census.Counted exact ino)
    (references : after.references ino = census.references ino)
    (links : after.links ino = census.links ino) (isDir : after.isDir ino = census.isDir ino)
    (inUse : after.inUse ino = census.inUse ino) : after.Counted exact ino where
  counted some exactly := by
    rw [links, references]
    rw [references] at some
    rw [isDir] at exactly
    exact counted.counted some exactly
  covered isFile := by
    rw [links, references]
    rw [isDir] at isFile
    exact counted.covered isFile
  referred exactly used isFile ordinary := by
    rw [references]
    rw [isDir] at isFile
    rw [inUse] at used
    exact counted.referred exactly used isFile ordinary

/-- An inode with the right count. -/
theorem counted_equal {ino : Ino} (equal : after.links ino = after.references ino)
    (some : after.inUse ino = true → after.isDir ino = false → 0 < after.references ino) :
    after.Counted exact ino where
  counted _ _ := equal
  covered _ := le_of_eq equal.symm
  referred _ used isFile _ := some used isFile

/-- A file with a count that covers its names. -/
theorem counted_file {ino : Ino} {count references : Nat} (links : after.links ino = count)
    (referred : after.references ino = references) (isFile : after.isDir ino = false)
    (exactly : exact → 0 < references → count = references)
    (covers : references ≤ count)
    (some : exact → after.inUse ino = true → EXT2_GOOD_OLD_FIRST_INO ≤ ino → 0 < references) :
    after.Counted exact ino := by
  constructor
  · intro positive known
    rw [links, referred]
    rw [referred] at positive
    rcases known with directory | holds
    · exact absurd (directory.symm.trans isFile) Bool.noConfusion
    · exact exactly holds positive
  · intro _
    rw [links, referred]
    exact covers
  · intro holds used _ ordinary
    rw [referred]
    exact some holds used ordinary

/-- The count of a directory in use is right. -/
theorem counted_live (sound : census.Sound exact) {dir : Ino} (live : census.Live dir) :
    census.links dir = census.references dir :=
  (sound.counts dir).counted (references_pos sound.toShaped live) (.inl live.2)

theorem references_eq (census : Census) (ino : Ino) :
    census.references ino = census.names.countP fun place => place.2.inode = ino := rfl

/-- One name more. -/
theorem references_cons (place : Place) (names : Multiset Place) (ino : Ino) :
    (place ::ₘ names).countP (fun name => name.2.inode = ino) =
      names.countP (fun name => name.2.inode = ino) + if place.2.inode = ino then 1 else 0 :=
  Multiset.countP_cons _ _ _

theorem unreferred (shaped : census.Shaped) {ino : Ino} (fresh : census.inUse ino = false) :
    census.references ino = 0 :=
  Multiset.countP_eq_zero.mpr fun _ member => not_referred shaped fresh member

/-- A directory keeps the right count. -/
theorem counted_directory {ino : Ino} (equal : after.links ino = after.references ino)
    (isDirectory : after.isDir ino = true) : after.Counted exact ino := by
  apply counted_equal equal
  intro _ isFile
  rw [isDirectory] at isFile
  cases isFile

/-- A file comes into use with its first name. -/
theorem sound_file (sound : census.Sound exact) {place : Place} (proper : census.Proper place)
    (fresh : census.inUse place.2.inode = false) (positive : place.2.inode ≠ 0) :
    Sound exact
      { inUse := Function.update census.inUse place.2.inode true
        isDir := Function.update census.isDir place.2.inode false
        links := Function.update census.links place.2.inode 1
        names := place ::ₘ census.names } where
  toShaped := by
    have marked := @shaped_mark census sound.toShaped place.2.inode true
      (Function.update census.isDir place.2.inode false) positive
      (fun _ member => not_referred sound.toShaped fresh member)
      (fun _ other => Function.update_of_ne other _ _) (Function.update_self _ _ _)
      (fun live => ne_of_live live fresh rfl)
    have other := ne_of_live proper.holder fresh
    have holder : Live { census with
        inUse := Function.update census.inUse place.2.inode true
        isDir := Function.update census.isDir place.2.inode false } place.1 :=
      ⟨(Function.update_of_ne other _ _).trans proper.holder.1,
        (Function.update_of_ne other _ _).trans proper.holder.2⟩
    exact shaped_links (shaped_add marked ⟨holder, proper.plain, proper.nonempty⟩
      (Function.update_self _ _ _) (Function.update_self _ _ _)) _
  counts ino := by
    by_cases same : ino = place.2.inode
    · rw [same]
      apply @counted_file _ _ _ 1 1 (Function.update_self _ _ _)
      · rw [references_eq, references_cons, if_pos rfl]
        exact congrArg Nat.succ (unreferred sound.toShaped fresh)
      · exact Function.update_self _ _ _
      · exact fun _ _ => rfl
      · exact le_rfl
      · exact fun _ _ _ => Nat.one_pos
    · apply counted_same (sound.counts ino)
      · rw [references_eq, references_cons, if_neg (Ne.symm same)]
        rfl
      · exact Function.update_of_ne same _ _
      · exact Function.update_of_ne same _ _
      · exact Function.update_of_ne same _ _

/-- A directory comes into use. -/
theorem sound_directory (sound : census.Sound exact) {place : Place} {own up : DirEntry}
    (proper : census.Proper place) (fresh : census.inUse place.2.inode = false)
    (positive : place.2.inode ≠ 0) (ownName : own.name = dot)
    (ownInode : own.inode = place.2.inode) (upName : up.name = dotdot)
    (upInode : up.inode = place.1) :
    Sound exact
      { inUse := Function.update census.inUse place.2.inode true
        isDir := Function.update census.isDir place.2.inode true
        links := Function.update
          (Function.update census.links place.1 (census.links place.1 + 1)) place.2.inode 2
        names := place ::ₘ (place.2.inode, own) ::ₘ (place.2.inode, up) ::ₘ census.names } where
  toShaped := shaped_links (shaped_directory sound.toShaped proper fresh positive ownName ownInode
    upName upInode) _
  counts ino := by
    have apart := ne_of_live proper.holder fresh
    by_cases child : ino = place.2.inode
    · rw [child]
      apply counted_directory
      · have none := unreferred sound.toShaped fresh
        rw [references_eq] at none
        rw [references_eq, references_cons, references_cons, references_cons, if_pos rfl, ownInode,
          if_pos rfl, upInode, if_neg apart, none]
        exact Function.update_self _ _ _
      · exact Function.update_self _ _ _
    · by_cases parent : ino = place.1
      · rw [parent]
        apply counted_directory
        · rw [references_eq, references_cons, references_cons, references_cons,
            if_neg apart.symm, ownInode, if_neg apart.symm, upInode, if_pos rfl]
          apply (Function.update_of_ne apart _ _).trans
          rw [Function.update_self, counted_live sound proper.holder]
          rfl
        · exact (Function.update_of_ne apart _ _).trans proper.holder.2
      · apply counted_same (sound.counts ino)
        · rw [references_eq, references_cons, references_cons, references_cons,
            if_neg (Ne.symm child), ownInode, if_neg (Ne.symm child), upInode,
            if_neg (Ne.symm parent)]
          rfl
        · exact (Function.update_of_ne child _ _).trans (Function.update_of_ne parent _ _)
        · exact Function.update_of_ne child _ _
        · exact Function.update_of_ne child _ _

/-- A file gets another name. -/
theorem sound_name (sound : census.Sound exact) {place : Place} {count : Nat}
    (proper : census.Proper place) (used : census.inUse place.2.inode = true)
    (isFile : census.isDir place.2.inode = false)
    (exactly : exact → count = census.references place.2.inode + 1)
    (covers : census.references place.2.inode + 1 ≤ count) :
    Sound exact { census with
      links := Function.update census.links place.2.inode count
      names := place ::ₘ census.names } where
  toShaped := shaped_links (shaped_add sound.toShaped proper used isFile) _
  counts ino := by
    by_cases same : ino = place.2.inode
    · rw [same]
      apply @counted_file _ _ _ count (census.references place.2.inode + 1)
        (Function.update_self _ _ _)
      · rw [references_eq, references_cons, if_pos rfl]
        rfl
      · exact isFile
      · exact fun holds _ => exactly holds
      · exact covers
      · exact fun _ _ _ => Nat.succ_pos _
    · apply counted_same (sound.counts ino)
      · rw [references_eq, references_cons, if_neg (Ne.symm same)]
        rfl
      · exact Function.update_of_ne same _ _
      · rfl
      · rfl

/-- The count of a file changes. -/
theorem sound_count (sound : census.Sound exact) {ino : Ino} {count : Nat}
    (isFile : census.isDir ino = false) (exactly : exact → count = census.links ino)
    (covers : census.references ino ≤ count) :
    Sound exact { census with links := Function.update census.links ino count } where
  toShaped := shaped_links sound.toShaped _
  counts other := by
    by_cases same : other = ino
    · have counted := sound.counts ino
      rw [same]
      apply @counted_file _ { census with links := Function.update census.links ino count } _ count
        (census.references ino) (Function.update_self _ _ _) rfl isFile
      · exact fun holds some => (exactly holds).trans (counted.counted some (.inr holds))
      · exact covers
      · exact fun holds used => counted.referred holds used isFile
    · exact counted_same (sound.counts other) rfl (Function.update_of_ne same _ _) rfl rfl

/-- A file that loses its last counted name is referred to no longer. -/
theorem shaped_unname (shaped : census.Shaped) {place : Place} {rest : Multiset Place}
    (split : census.names = place ::ₘ rest) (isFile : census.isDir place.2.inode = false)
    (covered : census.references place.2.inode ≤ census.links place.2.inode) :
    Shaped { census with
      inUse :=
        if census.links place.2.inode = 1 then Function.update census.inUse place.2.inode false
        else census.inUse
      links := Function.update census.links place.2.inode (census.links place.2.inode - 1)
      names := rest } := by
  have gone : place ∈ census.names := by
    rw [split]
    exact Multiset.mem_cons_self _ _
  have used := (shaped.held place gone).2.1
  have dropped := shaped_drop shaped split isFile
  by_cases last : census.links place.2.inode = 1
  · have unnamed : rest.countP (fun name => name.2.inode = place.2.inode) = 0 := by
      rw [references_eq, split, references_cons, if_pos rfl, last] at covered
      exact Nat.le_zero.mp (Nat.le_of_succ_le_succ covered)
    have positive : place.2.inode ≠ 0 := used_ne_zero shaped used
    rw [if_pos last]
    exact shaped_links (shaped_mark dropped positive (Multiset.countP_eq_zero.mp unnamed)
      (fun _ _ => rfl) isFile fun live => ne_of_file live isFile rfl) _
  · rw [if_neg last]
    exact shaped_links dropped _

/-- A file that loses its last counted name goes out of use. -/
theorem sound_unname (sound : census.Sound exact) {place : Place} {rest : Multiset Place}
    (split : census.names = place ::ₘ rest) (isFile : census.isDir place.2.inode = false) :
    Sound exact { census with
      inUse :=
        if census.links place.2.inode = 1 then Function.update census.inUse place.2.inode false
        else census.inUse
      links := Function.update census.links place.2.inode (census.links place.2.inode - 1)
      names := rest } := by
  have counted := sound.counts place.2.inode
  have before (ino : Ino) : census.references ino =
      rest.countP (fun name => name.2.inode = ino) + if place.2.inode = ino then 1 else 0 := by
    rw [references_eq, split, references_cons]
  have here := before place.2.inode
  rw [if_pos rfl] at here
  have some : 0 < census.references place.2.inode := by
    rw [here]
    exact Nat.succ_pos _
  constructor
  · exact shaped_unname sound.toShaped split isFile (counted.covered isFile)
  · intro ino
    by_cases same : ino = place.2.inode
    · rw [same]
      apply @counted_file _ _ _ (census.links place.2.inode - 1)
        (census.references place.2.inode - 1) (Function.update_self _ _ _)
      · rw [here]
        rfl
      · exact isFile
      · intro holds _
        rw [counted.counted some (.inr holds)]
      · exact Nat.sub_le_sub_right (counted.covered isFile) 1
      · intro holds stays ordinary
        have equal := counted.counted some (.inr holds)
        by_cases last : census.links place.2.inode = 1
        · dsimp only at stays
          rw [if_pos last, Function.update_self] at stays
          cases stays
        · omega
    · apply counted_same (sound.counts ino)
      · have other := before ino
        rw [if_neg (Ne.symm same)] at other
        exact other.symm
      · exact Function.update_of_ne same _ _
      · rfl
      · dsimp only
        by_cases last : census.links place.2.inode = 1
        · rw [if_pos last]
          exact Function.update_of_ne same _ _
        · rw [if_neg last]

/-- The names that a vacant directory has, and those of its parent. -/
theorem references_undirectory (shaped : census.Shaped) {place : Place} {own up : DirEntry}
    {rest : Multiset Place}
    (split : census.names = place ::ₘ (place.2.inode, own) ::ₘ (place.2.inode, up) ::ₘ rest)
    (isDirectory : census.isDir place.2.inode = true) (plain : Plain place.2)
    (ownName : own.name = dot) (upName : up.name = dotdot) (ino : Ino) :
    census.references ino =
      rest.countP (fun name => name.2.inode = ino) + (if place.1 = ino then 1 else 0) +
        (if place.2.inode = ino then 1 else 0) + if place.2.inode = ino then 1 else 0 := by
  have gone : place ∈ census.names := by
    rw [split]
    exact Multiset.mem_cons_self _ _
  have itself : (place.2.inode, own) ∈ census.names := by
    rw [split]
    exact Multiset.mem_cons_of_mem (Multiset.mem_cons_self _ _)
  have upwards : (place.2.inode, up) ∈ census.names := by
    rw [split]
    exact Multiset.mem_cons_of_mem (Multiset.mem_cons_of_mem (Multiset.mem_cons_self _ _))
  have ownInode : own.inode = place.2.inode := shaped.self _ itself ownName
  have upInode : up.inode = place.1 := up_inode shaped gone plain isDirectory upwards upName
  rw [references_eq, split, references_cons, references_cons, references_cons, ownInode, upInode]

/-- A directory goes out of use. -/
theorem sound_undirectory (sound : census.Sound exact) {place : Place} {own up : DirEntry}
    {rest : Multiset Place}
    (split : census.names = place ::ₘ (place.2.inode, own) ::ₘ (place.2.inode, up) ::ₘ rest)
    (isDirectory : census.isDir place.2.inode = true) (plain : Plain place.2)
    (ownName : own.name = dot) (upName : up.name = dotdot) (apart : place.1 ≠ place.2.inode)
    (vacant : ∀ other ∈ rest, other.1 ≠ place.2.inode) :
    Sound exact { census with
      inUse := Function.update census.inUse place.2.inode false
      links := Function.update
        (Function.update census.links place.1 (census.links place.1 - 1)) place.2.inode 0
      names := rest } := by
  have shaped := sound.toShaped
  have gone : place ∈ census.names := by
    rw [split]
    exact Multiset.mem_cons_self _ _
  have before := references_undirectory shaped split isDirectory plain ownName upName
  constructor
  · exact shaped_links (shaped_undirectory shaped split isDirectory plain ownName upName apart vacant) _
  · intro ino
    by_cases child : ino = place.2.inode
    · rw [child]
      apply counted_equal
      · apply (Function.update_self _ _ _).trans
        apply Eq.symm
        exact Multiset.countP_eq_zero.mpr fun _ member =>
          vacant_unnamed shaped split isDirectory plain ownName upName apart vacant member
      · intro used
        exact absurd ((Function.update_self _ _ _).symm.trans used) Bool.noConfusion
    · by_cases parent : ino = place.1
      · have live := (shaped.held place gone).1
        have count := before place.1
        rw [if_pos rfl, if_neg apart.symm] at count
        rw [parent]
        apply counted_directory
        · apply (Function.update_of_ne apart _ _).trans
          rw [Function.update_self, counted_live sound live, count]
          rfl
        · exact live.2
      · apply counted_same (sound.counts ino)
        · have other := before ino
          rw [if_neg (Ne.symm parent), if_neg (Ne.symm child)] at other
          exact other.symm
        · exact (Function.update_of_ne child _ _).trans (Function.update_of_ne parent _ _)
        · rfl
        · exact Function.update_of_ne child _ _

/-- A file gets another name in place of one. -/
theorem sound_move (sound : census.Sound exact) {place place' : Place} {rest : Multiset Place}
    (split : census.names = place ::ₘ rest) (same : place'.2.inode = place.2.inode)
    (isFile : census.isDir place.2.inode = false) (proper : census.Proper place') :
    Sound exact { census with names := place' ::ₘ rest } := by
  have gone : place ∈ census.names := by
    rw [split]
    exact Multiset.mem_cons_self _ _
  constructor
  · apply shaped_add (shaped_drop sound.toShaped split isFile)
      ⟨proper.holder, proper.plain, proper.nonempty⟩
    · rw [same]
      exact (sound.held place gone).2.1
    · rw [same]
      exact isFile
  · intro ino
    have count : references { census with names := place' ::ₘ rest } ino = census.references ino := by
      rw [references_eq, references_eq, split, references_cons, references_cons, same]
    exact counted_same (sound.counts ino) count rfl rfl rfl

/-- The counts after a directory has moved from one directory to another one. -/
def movedLinks (links : Ino → Nat) (source target : Ino) : Ino → Nat :=
  let taken := Function.update links source (links source - 1)
  Function.update taken target (taken target + 1)

/-- A link moves from the old parent to the new one. -/
theorem links_moved {links : Ino → Nat} {source : Ino} (some : 0 < links source) (target ino : Ino) :
    movedLinks links source target ino + (if source = ino then 1 else 0) =
      links ino + if target = ino then 1 else 0 := by
  have taken : Function.update links source (links source - 1) ino + (if source = ino then 1 else 0) =
      links ino := by
    by_cases here : source = ino
    · rw [if_pos here, ← here, Function.update_self]
      exact Nat.sub_add_cancel some
    · rw [if_neg here, Function.update_of_ne (Ne.symm here)]
      rfl
  by_cases there : target = ino
  · rw [if_pos there, movedLinks, there, Function.update_self]
    omega
  · rw [if_neg there, movedLinks, Function.update_of_ne (Ne.symm there)]
    exact taken

/-- The names of both parents of a moved directory. -/
theorem references_moved (shaped : census.Shaped) {place place' : Place} {up up' : DirEntry}
    {rest : Multiset Place} (split : census.names = place ::ₘ (place.2.inode, up) ::ₘ rest)
    (same : place'.2.inode = place.2.inode) (isDirectory : census.isDir place.2.inode = true)
    (plain : Plain place.2) (upName : up.name = dotdot) (upInode' : up'.inode = place'.1)
    (links : Ino → Nat) (ino : Ino) :
    references { census with links := links, names := place' ::ₘ (place.2.inode, up') ::ₘ rest } ino +
        (if place.1 = ino then 1 else 0) =
      census.references ino + if place'.1 = ino then 1 else 0 := by
  have gone : place ∈ census.names := by
    rw [split]
    exact Multiset.mem_cons_self _ _
  have upwards : (place.2.inode, up) ∈ census.names := by
    rw [split]
    exact Multiset.mem_cons_of_mem (Multiset.mem_cons_self _ _)
  have upInode : up.inode = place.1 := up_inode shaped gone plain isDirectory upwards upName
  rw [references_eq, references_eq, split, references_cons, references_cons, references_cons,
    references_cons, same, upInode, upInode']
  omega

/-- The counts of the parents follow the entries. -/
theorem moved_balance (shaped : census.Shaped) {place place' : Place} {up up' : DirEntry}
    {rest : Multiset Place} (split : census.names = place ::ₘ (place.2.inode, up) ::ₘ rest)
    (same : place'.2.inode = place.2.inode) (isDirectory : census.isDir place.2.inode = true)
    (plain : Plain place.2) (upName : up.name = dotdot) (upInode' : up'.inode = place'.1)
    (some : 0 < census.links place.1) (ino : Ino) :
    movedLinks census.links place.1 place'.1 ino + census.references ino =
      census.links ino + references { census with
        links := movedLinks census.links place.1 place'.1
        names := place' ::ₘ (place.2.inode, up') ::ₘ rest } ino := by
  have count := references_moved shaped split same isDirectory plain upName upInode'
    (movedLinks census.links place.1 place'.1) ino
  have link := links_moved some place'.1 ino
  omega

/-- The other counts stay. -/
theorem movedLinks_of_ne {links : Ino → Nat} {source target ino : Ino}
    (elsewhere : ¬(ino = source ∨ ino = target)) : movedLinks links source target ino = links ino := by
  rw [not_or] at elsewhere
  rw [movedLinks, Function.update_of_ne elsewhere.2, Function.update_of_ne elsewhere.1]

/-- A directory gets another name, and its parents' counts follow. -/
theorem sound_moveDirectory (sound : census.Sound exact) {place place' : Place} {up up' : DirEntry}
    {rest : Multiset Place} (split : census.names = place ::ₘ (place.2.inode, up) ::ₘ rest)
    (same : place'.2.inode = place.2.inode) (isDirectory : census.isDir place.2.inode = true)
    (plain : Plain place.2) (proper : census.Proper place') (upName : up.name = dotdot)
    (upName' : up'.name = dotdot) (upInode' : up'.inode = place'.1) :
    Sound exact { census with
      links :=
        let taken := Function.update census.links place.1 (census.links place.1 - 1)
        Function.update taken place'.1 (taken place'.1 + 1)
      names := place' ::ₘ (place.2.inode, up') ::ₘ rest } := by
  have shaped := sound.toShaped
  have gone : place ∈ census.names := by
    rw [split]
    exact Multiset.mem_cons_self _ _
  have live := (shaped.held place gone).1
  have some : 0 < census.links place.1 := (counted_live sound live).symm ▸ references_pos shaped live
  constructor
  · exact shaped_links (shaped_moveDirectory shaped split same isDirectory plain proper upName upName'
      upInode') _
  · intro ino
    change Census.Counted exact { census with
      links := movedLinks census.links place.1 place'.1
      names := place' ::ₘ (place.2.inode, up') ::ₘ rest } ino
    have balance := moved_balance shaped split same isDirectory plain upName upInode' some ino
    by_cases parent : ino = place.1 ∨ ino = place'.1
    · have directory : census.Live ino := by
        rcases parent with rfl | rfl
        · exact live
        · exact proper.holder
      have before := counted_live sound directory
      refine counted_directory ?_ directory.2
      change movedLinks census.links place.1 place'.1 ino = _
      omega
    · have still : movedLinks census.links place.1 place'.1 ino = census.links ino :=
        movedLinks_of_ne parent
      refine counted_same (sound.counts ino) ?_ still rfl rfl
      omega

/-- Each change keeps the census sound. -/
theorem sound_edit (sound : census.Sound exact) (edit : Edit exact rooted census after) :
    after.Sound exact := by
  cases edit with
  | file place proper fresh positive => exact sound_file sound proper fresh positive
  | directory place own up proper fresh positive ownName ownInode upName upInode =>
      exact sound_directory sound proper fresh positive ownName ownInode upName upInode
  | name place count proper used isFile exactly covers =>
      exact sound_name sound proper used isFile exactly covers
  | count ino count isFile exactly covers => exact sound_count sound isFile exactly covers
  | unname place rest split isFile => exact sound_unname sound split isFile
  | undirectory place own up rest split isDirectory plain ownName upName apart vacant =>
      exact sound_undirectory sound split isDirectory plain ownName upName apart vacant
  | move place place' rest split same isFile proper => exact sound_move sound split same isFile proper
  | moveDirectory place place' up up' rest split same isDirectory plain proper upName upName' upInode' _ =>
      exact sound_moveDirectory sound split same isDirectory plain proper upName upName' upInode'

end NodeExt2fs.Trees
