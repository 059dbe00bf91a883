import NodeExt2fs.Construction.Library.Updates
import NodeExt2fs.Proof.Trees.Counts

/-!
This file keeps the counts of a census above zero through each change, where directories may have stopped
counting.
-/

namespace NodeExt2fs.Counting
open Structures Glue Library
open Census (Live Shaped Proper Tallied references)
open Trees (references_eq references_cons references_pos shaped_links shaped_add shaped_drop)

variable {census after : Census} {place place' : Place} {rest : Multiset Place}

/-- The count of one inode. -/
structure Weighed (census : Census) (ino : Ino) : Prop where
  file : census.isDir ino = false → census.references ino ≤ census.links ino
  directory : census.Live ino → 0 < census.links ino ∧ census.links ino ≤ census.references ino

theorem tallied_of_weighed (shaped : after.Shaped) (weighed : ∀ ino, Weighed after ino) :
    after.Tallied where
  toShaped := shaped
  files ino := (weighed ino).file
  directories ino := (weighed ino).directory

/-- A change of other inodes. -/
theorem weighed_same (tallied : census.Tallied) {ino : Ino}
    (references : after.references ino = census.references ino)
    (links : after.links ino = census.links ino) (isDir : after.isDir ino = census.isDir ino)
    (inUse : after.inUse ino = true → census.inUse ino = true) : Weighed after ino where
  file isFile := by
    rw [references, links]
    exact tallied.files ino (isDir ▸ isFile)
  directory live := by
    rw [references, links]
    exact tallied.directories ino ⟨inUse live.1, isDir ▸ live.2⟩

theorem weighed_file {ino : Ino} {count references : Nat} (links : after.links ino = count)
    (referred : after.references ino = references) (isFile : after.isDir ino = false)
    (covers : references ≤ count) : Weighed after ino where
  file _ := by
    rw [links, referred]
    exact covers
  directory live := absurd (isFile.symm.trans live.2) Bool.noConfusion

theorem weighed_directory {ino : Ino} {count references : Nat} (links : after.links ino = count)
    (referred : after.references ino = references) (isDirectory : after.isDir ino = true)
    (some : 0 < count) (counted : count ≤ references) : Weighed after ino where
  file isFile := absurd (isFile.symm.trans isDirectory) Bool.noConfusion
  directory _ := by
    rw [links, referred]
    exact ⟨some, counted⟩

/-- A file gets another name. -/
theorem tallied_name (tallied : census.Tallied) {count : Nat} (proper : census.Proper place)
    (used : census.inUse place.2.inode = true) (isFile : census.isDir place.2.inode = false)
    (covers : census.references place.2.inode + 1 ≤ count) :
    Tallied { census with
      links := Function.update census.links place.2.inode count
      names := place ::ₘ census.names } := by
  apply tallied_of_weighed (shaped_links (shaped_add tallied.toShaped proper used isFile) _)
  intro ino
  by_cases same : ino = place.2.inode
  · rw [same]
    apply @weighed_file _ _ count (census.references place.2.inode + 1) (Function.update_self _ _ _)
    · rw [references_eq, references_cons, if_pos rfl]
      rfl
    · exact isFile
    · exact covers
  · apply weighed_same tallied
    · rw [references_eq, references_cons, if_neg (Ne.symm same)]
      rfl
    · exact Function.update_of_ne same _ _
    · rfl
    · exact fun used => used

/-- The count of a file grows. -/
theorem tallied_count (tallied : census.Tallied) {ino : Ino} {count : Nat}
    (isFile : census.isDir ino = false) (covers : census.references ino ≤ count) :
    Tallied { census with links := Function.update census.links ino count } := by
  apply tallied_of_weighed (shaped_links tallied.toShaped _)
  intro other
  by_cases same : other = ino
  · rw [same]
    apply @weighed_file _ _ count (census.references ino) (Function.update_self _ _ _)
    · rfl
    · exact isFile
    · exact covers
  · apply weighed_same tallied
    · rfl
    · exact Function.update_of_ne same _ _
    · rfl
    · exact fun used => used

/-- A file loses a name. -/
theorem tallied_unname (tallied : census.Tallied) (split : census.names = place ::ₘ rest)
    (isFile : census.isDir place.2.inode = false) :
    Tallied { census with
      inUse :=
        if census.links place.2.inode = 1 then Function.update census.inUse place.2.inode false
        else census.inUse
      links := Function.update census.links place.2.inode (census.links place.2.inode - 1)
      names := rest } := by
  have covered := tallied.files place.2.inode isFile
  have before (ino : Ino) : census.references ino =
      rest.countP (fun name => name.2.inode = ino) + if place.2.inode = ino then 1 else 0 := by
    rw [references_eq, split, references_cons]
  apply tallied_of_weighed (Trees.shaped_unname tallied.toShaped split isFile covered)
  intro ino
  have count := before ino
  by_cases same : ino = place.2.inode
  · rw [if_pos same.symm, same] at count
    rw [same]
    apply @weighed_file _ _ (census.links place.2.inode - 1) (census.references place.2.inode - 1)
      (Function.update_self _ _ _)
    · rw [count]
      rfl
    · exact isFile
    · exact Nat.sub_le_sub_right covered 1
  · rw [if_neg (Ne.symm same)] at count
    apply weighed_same tallied
    · exact count.symm
    · exact Function.update_of_ne same _ _
    · rfl
    · intro used
      dsimp only at used
      by_cases last : census.links place.2.inode = 1
      · rwa [if_pos last, Function.update_of_ne same] at used
      · rwa [if_neg last] at used

/-- A directory goes, and the count of its parent stays above zero. -/
theorem tallied_undirectory (tallied : census.Tallied) {own up : DirEntry}
    (split : census.names = place ::ₘ (place.2.inode, own) ::ₘ (place.2.inode, up) ::ₘ rest)
    (isDirectory : census.isDir place.2.inode = true) (plain : Plain place.2)
    (ownName : own.name = dot) (upName : up.name = dotdot) (apart : place.1 ≠ place.2.inode)
    (vacant : ∀ other ∈ rest, other.1 ≠ place.2.inode) :
    Tallied { census with
      inUse := Function.update census.inUse place.2.inode false
      links := Function.update (Function.update census.links place.1
        (if 1 < census.links place.1 then census.links place.1 - 1 else census.links place.1))
        place.2.inode 0
      names := rest } := by
  have shaped := tallied.toShaped
  have gone : place ∈ census.names := by
    rw [split]
    exact Multiset.mem_cons_self _ _
  have before := Trees.references_undirectory shaped split isDirectory plain ownName upName
  have left := shaped_links (Trees.shaped_undirectory shaped split isDirectory plain ownName upName
    apart vacant) (Function.update (Function.update census.links place.1
      (if 1 < census.links place.1 then census.links place.1 - 1 else census.links place.1))
      place.2.inode 0)
  apply tallied_of_weighed left
  intro ino
  have count := before ino
  by_cases child : ino = place.2.inode
  · constructor
    · intro isFile
      exact absurd ((child ▸ isFile).symm.trans isDirectory) Bool.noConfusion
    · intro live
      have used := live.1
      rw [child] at used
      exact absurd ((Function.update_self _ _ _).symm.trans used) Bool.noConfusion
  · rw [if_neg (Ne.symm child)] at count
    by_cases parent : ino = place.1
    · have holder := (shaped.held place gone).1
      obtain ⟨some, counted⟩ := tallied.directories place.1 holder
      -- The parent still refers to itself.
      have stays : 0 < rest.countP fun name => name.2.inode = place.1 :=
        references_pos left ⟨(Function.update_of_ne apart _ _).trans holder.1, holder.2⟩
      rw [parent, if_pos rfl] at count
      rw [parent]
      apply @weighed_directory _ _
        (if 1 < census.links place.1 then census.links place.1 - 1 else census.links place.1)
        (rest.countP fun name => name.2.inode = place.1)
      · exact (Function.update_of_ne apart _ _).trans (Function.update_self _ _ _)
      · rfl
      · exact holder.2
      · by_cases more : 1 < census.links place.1
        · rw [if_pos more]
          exact Nat.sub_pos_of_lt more
        · rwa [if_neg more]
      · by_cases more : 1 < census.links place.1
        · rw [if_pos more]
          omega
        · rw [if_neg more]
          omega
    · rw [if_neg (Ne.symm parent)] at count
      apply weighed_same tallied
      · exact count.symm
      · exact (Function.update_of_ne child _ _).trans (Function.update_of_ne parent _ _)
      · rfl
      · exact fun used => (Function.update_of_ne child _ _).symm.trans used

/-- A file gets another name in place of one. -/
theorem tallied_move (tallied : census.Tallied) (split : census.names = place ::ₘ rest)
    (same : place'.2.inode = place.2.inode) (isFile : census.isDir place.2.inode = false)
    (proper : census.Proper place') : Tallied { census with names := place' ::ₘ rest } := by
  have gone : place ∈ census.names := by
    rw [split]
    exact Multiset.mem_cons_self _ _
  have used := (tallied.held place gone).2.1
  rw [← same] at used isFile
  apply tallied_of_weighed
  · exact shaped_add (shaped_drop tallied.toShaped split (same ▸ isFile))
      ⟨proper.holder, proper.plain, proper.nonempty⟩ used isFile
  · intro ino
    apply weighed_same tallied
    · rw [references_eq, references_eq, split, references_cons, references_cons, same]
    · rfl
    · rfl
    · exact fun used => used

/-- A directory gets another name, when the count of its old parent is above one. -/
theorem tallied_moveDirectory (tallied : census.Tallied) {up up' : DirEntry}
    (split : census.names = place ::ₘ (place.2.inode, up) ::ₘ rest)
    (same : place'.2.inode = place.2.inode) (isDirectory : census.isDir place.2.inode = true)
    (plain : Plain place.2) (proper : census.Proper place') (upName : up.name = dotdot)
    (upName' : up'.name = dotdot) (upInode' : up'.inode = place'.1)
    (more : 1 < census.links place.1) :
    Tallied { census with
      links := Trees.movedLinks census.links place.1 place'.1
      names := place' ::ₘ (place.2.inode, up') ::ₘ rest } := by
  have shaped := tallied.toShaped
  have gone : place ∈ census.names := by
    rw [split]
    exact Multiset.mem_cons_self _ _
  have live := (shaped.held place gone).1
  have some : 0 < census.links place.1 := Nat.zero_lt_of_lt more
  apply tallied_of_weighed
  · exact shaped_links (Trees.shaped_moveDirectory shaped split same isDirectory plain proper upName
      upName' upInode') _
  · intro ino
    have balance := Trees.moved_balance shaped split same isDirectory plain upName upInode' some ino
    by_cases parent : ino = place.1 ∨ ino = place'.1
    · have directory : census.Live ino := by
        rcases parent with rfl | rfl
        · exact live
        · exact proper.holder
      obtain ⟨positive, fewer⟩ := tallied.directories ino directory
      have link := Trees.links_moved some place'.1 ino
      refine weighed_directory rfl rfl directory.2 ?_ ?_
      · change 0 < Trees.movedLinks census.links place.1 place'.1 ino
        by_cases source : place.1 = ino
        · rw [if_pos source] at link
          rw [source] at more
          omega
        · rw [if_neg source] at link
          omega
      · change Trees.movedLinks census.links place.1 place'.1 ino ≤ _
        omega
    · have still : Trees.movedLinks census.links place.1 place'.1 ino = census.links ino :=
        Trees.movedLinks_of_ne parent
      refine weighed_same tallied ?_ still rfl fun used => used
      omega

/-- A directory stops counting. -/
theorem tallied_stopped (tallied : census.Tallied) {dir : Ino} (live : census.Live dir) :
    Tallied { census with links := Function.update census.links dir 1 } := by
  apply tallied_of_weighed (shaped_links tallied.toShaped _)
  intro ino
  by_cases same : ino = dir
  · rw [same]
    exact weighed_directory (Function.update_self _ _ _) rfl live.2 Nat.one_pos
      (references_pos tallied.toShaped live)
  · apply weighed_same tallied
    · rfl
    · exact Function.update_of_ne same _ _
    · rfl
    · exact fun used => used

/-- Counts that are right cover the names. -/
theorem tallied_of_sound {exact : Prop} (sound : census.Sound exact) : census.Tallied where
  toShaped := sound.toShaped
  files ino isFile := (sound.counts ino).covered isFile
  directories dir live := by
    rw [Trees.counted_live sound live]
    exact ⟨references_pos sound.toShaped live, le_rfl⟩

end NodeExt2fs.Counting
