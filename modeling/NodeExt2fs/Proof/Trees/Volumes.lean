import NodeExt2fs.Proof.Trees.Rooted
import NodeExt2fs.Proof.Library.Shrinking

/-!
This file takes the census of a volume whose directories change.
-/

namespace NodeExt2fs.Trees
open Structures Glue Library
open Census (Live Shaped Sound Proper Edit Inside Rooted)

variable {exact rooted : Prop} {volume volume' : Volume}

theorem mem_liveEntries {dir : Ino} {entry : DirEntry} :
    entry ∈ volume.liveEntries dir ↔ volume.census.Live dir ∧ entry ∈ volume.entries dir := by
  change _ ↔ (volume.inUse dir = true ∧ volume.isDir dir = true) ∧ _
  rw [Volume.liveEntries, ← Bool.and_eq_true]
  by_cases live : (volume.inUse dir && volume.isDir dir) = true
  · rw [if_pos live]
    exact ⟨fun member => ⟨live, member⟩, fun both => both.2⟩
  · rw [if_neg live]
    exact ⟨fun member => absurd member List.not_mem_nil, fun both => absurd both.1 live⟩

theorem mem_names {place : Place} : place ∈ volume.census.names ↔
    place.1 ≤ volume.inodesCount ∧ volume.census.Live place.1 ∧ place.2 ∈ volume.entries place.1 := by
  rw [← mem_liveEntries]
  exact mem_places

theorem place_of_entry (placed : volume.Placed) {dir : Ino} (live : volume.census.Live dir)
    {entry : DirEntry} (member : entry ∈ volume.entries dir) : (dir, entry) ∈ volume.census.names :=
  mem_names.mpr ⟨placed.bounded dir live.1, live, member⟩

theorem find_name {dir : Ino} {name : Name} {entry : DirEntry}
    (found : volume.find dir name = some entry) : entry.name = name := by
  have named := List.find?_some found
  exact of_decide_eq_true named

/-- A successful lookup finds an entry. -/
theorem find_of_lookup {dir ino : Ino} {name : Name} (found : volume.lookup dir name = .ok ino) :
    volume.isDir dir = true ∧
      ∃ entry, volume.find dir name = some entry ∧ entry.name = name ∧ entry.inode = ino := by
  rw [Volume.lookup] at found
  by_cases directory : volume.isDir dir = true
  · refine ⟨directory, ?_⟩
    rw [if_pos directory] at found
    cases there : volume.find dir name with
    | none =>
        rw [there] at found
        cases found
    | some entry =>
        rw [there] at found
        exact ⟨entry, rfl, find_name there, Except.ok.inj found⟩
  · rw [if_neg directory] at found
    cases found

theorem lookup_of_find {dir : Ino} {name : Name} {entry : DirEntry}
    (directory : volume.isDir dir = true) (there : volume.find dir name = some entry) :
    volume.lookup dir name = .ok entry.inode := by
  rw [Volume.lookup, if_pos directory, there]

/-- What is looked up in a directory in use is in use. -/
theorem used_of_lookup (placed : volume.Placed) {dir ino : Ino} {name : Name}
    (used : volume.inUse dir = true) (found : volume.lookup dir name = .ok ino) :
    volume.inUse ino = true := by
  obtain ⟨directory, entry, there, _, same⟩ := find_of_lookup found
  rw [← same]
  exact (placed.shaped.held _
    (place_of_entry placed ⟨used, directory⟩ (List.mem_of_find?_eq_some there))).2.1

/-- What a path leads to is in use. -/
theorem used_of_walk {resolver : Resolver} (closed : resolver.Closed)
    (placed : volume.Placed) {path : Path} {ino : Ino}
    (found : resolver.walk volume path = .ok ino ∨ resolver.walkFollow volume path = .ok ino) :
    volume.inUse ino = true :=
  closed volume (fun ino => volume.inUse ino = true) placed.shaped.root.1
    (fun _ _ _ used there => used_of_lookup placed used there) path ino found

/-- Every directory in use has entries for itself and for its parent. -/
theorem lookup_special (placed : volume.Placed) {dir : Ino}
    (live : volume.census.Live dir) {name : Name} (special : name = dot ∨ name = dotdot) :
    ∃ ino, volume.lookup dir name = .ok ino ∧ volume.census.Live ino := by
  have shaped := placed.shaped
  have once : volume.census.named dir name = 1 := by
    rcases special with own | up
    · rw [own]
      exact shaped.selfOnce dir live
    · rw [up]
      exact shaped.parentOnce dir live
  have present : 0 < volume.census.named dir name := by
    rw [once]
    exact Nat.one_pos
  obtain ⟨place, member, here, named⟩ := Multiset.countP_pos.mp present
  obtain ⟨_, _, entry⟩ := mem_names.mp member
  rw [here] at entry
  cases there : volume.find dir name with
  | none =>
      have other := List.find?_eq_none.mp there place.2 entry
      exact absurd (decide_eq_true named) other
  | some first =>
      refine ⟨first.inode, lookup_of_find live.2 there, ?_⟩
      have name_first := find_name there
      have first_member := place_of_entry placed live (List.mem_of_find?_eq_some there)
      rcases special with own | up
      · rw [shaped.self _ first_member (name_first.trans own)]
        exact live
      · by_cases root : dir = EXT2_ROOT_INO
        · rw [shaped.rootParent _ first_member (name_first.trans up) root]
          exact shaped.root
        · obtain ⟨holder, there, _, _, same⟩ :=
            shaped.parent _ first_member (name_first.trans up) root
          rw [← same]
          exact (shaped.held holder there).1

/-- The entries of one directory change, and nothing else but its space. -/
structure Relisted (volume volume' : Volume) (dir : Ino) (gone new : List DirEntry) : Prop where
  inodesCount : volume'.inodesCount = volume.inodesCount
  inUse : volume'.inUse = volume.inUse
  mode : volume'.mode = volume.mode
  links : volume'.links = volume.links
  target : volume'.target = volume.target
  others : ∀ other, other ≠ dir → volume'.entries other = volume.entries other
  moved : (volume'.entries dir ++ gone).Perm (volume.entries dir ++ new)

theorem relisted_of_like {dir : Ino} {entries gone new : List DirEntry}
    (like : (volume.setEntries dir entries).Like volume')
    (moved : (entries ++ gone).Perm (volume.entries dir ++ new)) :
    Relisted volume volume' dir gone new := by
  obtain ⟨fits, grows, same⟩ := like
  rw [same]
  constructor
  · rfl
  · rfl
  · rfl
  · rfl
  · rfl
  · exact fun other different => Function.update_of_ne different _ _
  · show (Function.update volume.entries dir entries dir ++ gone).Perm _
    rw [Function.update_self]
    exact moved

/-- An entry comes between the others. -/
theorem relisted_insert {dir : Ino} {entry : DirEntry} {before after : List DirEntry}
    (split : volume.entries dir = before ++ after)
    (like : (volume.setEntries dir (before ++ entry :: after)).Like volume') :
    Relisted volume volume' dir [] [entry] := by
  apply relisted_of_like like
  rw [split, List.append_nil]
  exact List.perm_middle.trans (List.perm_append_singleton _ _).symm

theorem eraseP_perm {entries : List DirEntry} {entry : DirEntry} {p : DirEntry → Bool}
    (found : entries.find? p = some entry) : (entries.eraseP p ++ [entry]).Perm entries := by
  obtain ⟨holds, before, after, split, earlier⟩ := List.find?_eq_some_iff_append.mp found
  have left : entries.eraseP p = before ++ after := by
    rw [split, List.eraseP_append_right]
    · rw [List.eraseP_cons_of_pos holds]
    · intro other member
      have not := earlier other member
      rwa [Bool.not_eq_true', ← Bool.not_eq_true] at not
  rw [left, split]
  exact (List.perm_append_singleton _ _).trans List.perm_middle.symm

/-- The first entry of a name goes. -/
theorem relisted_erase {dir : Ino} {name : Name} {entry : DirEntry}
    (found : volume.find dir name = some entry)
    (like : (volume.setEntries dir
      ((volume.entries dir).eraseP fun entry => entry.name = name)).Like volume') :
    Relisted volume volume' dir [entry] [] := by
  apply relisted_of_like like
  rw [List.append_nil]
  exact eraseP_perm found

theorem Relisted.isDir {dir : Ino} {gone new : List DirEntry}
    (relisted : Relisted volume volume' dir gone new) : volume'.isDir = volume.isDir := by
  funext ino
  rw [Volume.isDir, Volume.isDir, relisted.mode]

/-- The places of the changed entries. -/
theorem Relisted.places {dir : Ino} {gone new : List DirEntry}
    (relisted : Relisted volume volume' dir gone new) (bounded : dir ≤ volume.inodesCount)
    (live : volume.census.Live dir) :
    volume'.census.names + (gone.map (Prod.mk dir) : Multiset Place) =
      volume.census.names + (new.map (Prod.mk dir) : Multiset Place) := by
  have entries (other : Ino) : volume'.liveEntries other =
      if volume.inUse other && volume.isDir other then volume'.entries other else [] := by
    rw [Volume.liveEntries, relisted.inUse, relisted.isDir]
  have both : (volume.inUse dir && volume.isDir dir) = true := Bool.and_eq_true_iff.mpr live
  change Structures.places volume'.liveEntries volume'.inodesCount + _ =
    Structures.places volume.liveEntries volume.inodesCount + _
  rw [relisted.inodesCount]
  apply places_update bounded
  · intro other different
    rw [entries, relisted.others other different, Volume.liveEntries]
  · rw [entries, if_pos both, Volume.liveEntries, if_pos both]
    exact relisted.moved

/-- An entry more is a name more. -/
theorem Relisted.added {dir : Ino} {entry : DirEntry}
    (relisted : Relisted volume volume' dir [] [entry]) (bounded : dir ≤ volume.inodesCount)
    (live : volume.census.Live dir) :
    volume'.census.names = (dir, entry) ::ₘ volume.census.names := by
  have places := relisted.places bounded live
  rw [List.map_nil, Multiset.coe_nil, add_zero] at places
  rw [places, add_comm]
  rfl

theorem Relisted.dropped {dir : Ino} {entry : DirEntry}
    (relisted : Relisted volume volume' dir [entry] []) (bounded : dir ≤ volume.inodesCount)
    (live : volume.census.Live dir) :
    volume.census.names = (dir, entry) ::ₘ volume'.census.names := by
  have places := relisted.places bounded live
  rw [List.map_nil, Multiset.coe_nil, add_zero] at places
  rw [← places, add_comm]
  rfl

theorem Relisted.swapped {dir : Ino} {entry entry' : DirEntry}
    (relisted : Relisted volume volume' dir [entry] [entry']) (bounded : dir ≤ volume.inodesCount)
    (live : volume.census.Live dir) :
    (dir, entry) ::ₘ volume'.census.names = (dir, entry') ::ₘ volume.census.names := by
  rw [← Multiset.singleton_add, ← Multiset.singleton_add, add_comm, add_comm {(dir, entry')}]
  exact relisted.places bounded live

/-- Nothing but the entries changes. -/
theorem Relisted.census {dir : Ino} {gone new : List DirEntry}
    (relisted : Relisted volume volume' dir gone new) :
    volume'.census =
      { inUse := volume.census.inUse
        isDir := volume.census.isDir
        links := volume.census.links
        names := volume'.census.names } := by
  rw [Volume.census, Volume.census, relisted.inUse, relisted.isDir, relisted.links]

/-- An inode is written with another count. -/
theorem census_written {ino : Ino} {mode links : BitVec 16}
    (same : linuxSIsdir mode = volume.isDir ino) :
    (volume.written ino mode links).census =
      { inUse := volume.census.inUse
        isDir := volume.census.isDir
        links := Function.update volume.census.links ino links.toNat
        names := volume.census.names } := by
  have isDir : (volume.written ino mode links).isDir = volume.isDir := by
    funext other
    show linuxSIsdir (Function.update volume.mode ino mode other) = volume.isDir other
    by_cases here : other = ino
    · rw [here, Function.update_self, same]
    · rw [Function.update_of_ne here]
      rfl
  have counts : (volume.written ino mode links).census.links =
      Function.update volume.census.links ino links.toNat := by
    funext other
    exact Function.apply_update (fun _ => BitVec.toNat) volume.links ino links other
  have names : (volume.written ino mode links).census.names = volume.census.names := by
    apply places_congr
    intro other
    rw [Volume.liveEntries, isDir]
    rfl
  show Census.mk _ _ (volume.written ino mode links).census.links
    (volume.written ino mode links).census.names = _
  rw [counts, names, isDir]
  rfl

/-- A change of the census that is allowed keeps the volume well-formed. -/
theorem formed_edit (formed : volume.WellFormed exact rooted)
    (edit : Edit exact rooted volume.census volume'.census)
    (bounded : ∀ ino, volume'.inUse ino = true → ino ≤ volume'.inodesCount) :
    volume'.WellFormed exact rooted where
  sound := sound_edit formed.sound edit
  rooted holds := by
    rw [eq_true holds] at edit
    exact rooted_edit formed.sound.toShaped (formed.rooted holds) edit
  bounded := bounded

/-- A volume with the same census is as well formed. -/
theorem formed_same (formed : volume.WellFormed exact rooted) (same : volume'.census = volume.census)
    (count : volume'.inodesCount = volume.inodesCount) : volume'.WellFormed exact rooted where
  sound := same ▸ formed.sound
  rooted holds := same ▸ formed.rooted holds
  bounded ino used := by
    rw [count]
    exact formed.bounded ino ((congrFun (congrArg Census.inUse same) ino).symm.trans used)

theorem formed_like (formed : volume.WellFormed exact rooted) (like : volume.Like volume') :
    volume'.WellFormed exact rooted := by
  obtain ⟨fits, grows, same⟩ := like
  rw [same]
  exact formed_same formed rfl rfl

end NodeExt2fs.Trees
