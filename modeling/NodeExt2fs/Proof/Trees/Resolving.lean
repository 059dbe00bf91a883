import NodeExt2fs.Structures.Routes
import NodeExt2fs.Proof.Names.Parents
import NodeExt2fs.Proof.Names.Unique
import NodeExt2fs.Proof.Trees.Refining

/-!
This file compares the lookup of paths with the names that the directories bind.
-/

namespace NodeExt2fs.Trees
open Programs Structures Glue Library Js
open Program (run_of_wp)
open Names (UniqueNames Unoccupied)

variable {Hidden : Type} {resolver : Resolver} {exact rooted : Prop} {volume volume' : Volume}
  {library : Handler Call Answer Hidden} {view : Hidden → Volume}

/-- The names lead from one inode to another. -/
abbrev Leading (names : Multiset Binding) : Ino → List Name → Ino → Prop :=
  Route fun dir name ino => ⟨dir, name, ino⟩ ∈ names

/-- The path of some names below the root. -/
def spell (names : List Name) : Path := names.flatMap fun name => slash :: name

theorem spell_concat (names : List Name) (name : Name) :
    spell (names ++ [name]) = spell names ++ slash :: name := by
  rw [spell, List.flatMap_append, List.flatMap_singleton]
  rfl

/-- A path of names does not end with a slash. -/
theorem spell_last {names : List Name} (proper : ∀ name ∈ names, name ≠ [] ∧ slash ∉ name) :
    (spell names).getLast? ≠ some slash := by
  induction names using List.reverseRecOn with
  | nil => exact Option.some_ne_none slash ∘ Eq.symm
  | append_singleton names name _ =>
      obtain ⟨nonempty, clean⟩ := proper name (List.mem_append_right _ (List.mem_singleton_self _))
      rw [spell_concat, List.getLast?_append, List.getLast?_cons, List.getLast?_eq_getLast_of_ne_nil nonempty]
      intro same
      have last := Option.some.inj same
      exact clean (last ▸ List.getLast_mem nonempty)

theorem directory_not_lnk {dir : Ino} (directory : volume.isDir dir = true) :
    volume.isLnk dir = false :=
  Bool.eq_false_of_not_eq_true fun link => Bool.noConfusion ((lnk_not_dir link).symm.trans directory)

/-- The directory of a path is found with a slash as without it. -/
theorem walk_directory (follows : Names.Follows resolver volume) {names : List Name} {dir : Ino}
    (proper : ∀ name ∈ names, name ≠ [] ∧ slash ∉ name)
    (found : resolver.walk volume (spell names) = .ok dir) (directory : volume.isDir dir = true) :
    resolver.walk volume (spell names ++ [slash]) = .ok dir := by
  rw [follows.slash_follows _ (spell_last proper)]
  exact resolver.walkFollow_of_walk volume _ dir found (directory_not_lnk directory)

/-- The first entry of a name is the only one. -/
theorem lookup_of_entry (unique : UniqueNames volume) {dir : Ino} {entry : DirEntry}
    (directory : volume.isDir dir = true) (member : entry ∈ volume.entries dir) :
    volume.lookup dir entry.name = .ok entry.inode := by
  cases there : volume.find dir entry.name with
  | none => exact absurd (List.mem_map_of_mem member) (Names.find_eq_none_iff.mp there)
  | some other =>
      have same : other = entry :=
        List.inj_on_of_nodup_map (unique dir) (List.mem_of_find?_eq_some there) member (find_name there)
      rw [lookup_of_find directory there, same]

/-- A name that the directories bind, where the names are unique. -/
theorem lookup_of_binding (placed : volume.Placed) (unique : UniqueNames volume) {dir ino : Ino}
    {name : Name} (member : ⟨dir, name, ino⟩ ∈ bindings volume) :
    volume.census.Live dir ∧ volume.lookup dir name = .ok ino ∧ name ≠ [] := by
  obtain ⟨place, inside, same⟩ := Multiset.mem_map.mp member
  have named := (Multiset.mem_filter.mp inside).1
  obtain ⟨_, live, entry⟩ := mem_names.mp named
  have nonempty := (placed.shaped.held place named).2.2
  cases same
  exact ⟨live, lookup_of_entry unique live.2 entry, nonempty⟩

theorem leading_nonempty (placed : volume.Placed) (unique : UniqueNames volume) {first last : Ino}
    {names : List Name} (leading : Leading (bindings volume) first names last) :
    ∀ name ∈ names, name ≠ [] := by
  induction leading with
  | here => exact fun _ member => absurd member List.not_mem_nil
  | on before taken ih =>
      intro name member
      rcases List.mem_append.mp member with inner | last
      · exact ih name inner
      · rw [List.mem_singleton.mp last]
        exact (lookup_of_binding placed unique taken).2.2

/-- The names of the directories lead where the lookup of their path does. -/
theorem walk_of_leading (placed : volume.Placed) (unique : UniqueNames volume)
    (follows : Names.Follows resolver volume) {names : List Name} {ino : Ino}
    (proper : ∀ name ∈ names, slash ∉ name)
    (leading : Leading (bindings volume) EXT2_ROOT_INO names ino) :
    resolver.walk volume (spell names) = .ok ino := by
  induction leading with
  | here => exact resolver.walk_nil volume
  | @on names dir ino name before taken ih =>
      obtain ⟨live, found, nonempty⟩ := lookup_of_binding placed unique taken
      have clean := proper name (List.mem_append_right _ (List.mem_singleton_self _))
      have inner (name : Name) (member : name ∈ names) := proper name (List.mem_append_left _ member)
      rw [spell_concat, resolver.walk_split volume _ name nonempty clean,
        walk_directory follows
          (fun name member => ⟨leading_nonempty placed unique before name member, inner name member⟩)
          (ih inner) live.2]
      exact found

/-- Where the names are unique, a directory binds each of them once. -/
theorem bindings_once (unique : UniqueNames volume) (dir : Ino) (name : Name) :
    ((bindings volume).countP fun binding => binding.dir = dir ∧ binding.name = name) ≤ 1 := by
  have listed : (volume.liveEntries dir).map DirEntry.name |>.Nodup := by
    rw [Volume.liveEntries]
    by_cases live : (volume.inUse dir && volume.isDir dir) = true
    · rw [if_pos live]
      exact unique dir
    · rw [if_neg live]
      exact List.nodup_nil
  have counted : ((volume.liveEntries dir).countP fun entry => entry.name = name) ≤ 1 := by
    have once := List.nodup_iff_count_le_one.mp listed name
    rw [List.count, List.countP_map] at once
    simpa only [Function.comp_def, beq_eq_decide] using once
  calc ((bindings volume).countP fun binding => binding.dir = dir ∧ binding.name = name)
      = Multiset.card ((volume.census.names.filter fun place => Plain place.2).filter
          fun place => place.1 = dir ∧ place.2.name = name) := Multiset.countP_map _ _ _
    _ ≤ volume.census.names.countP fun place => place.1 = dir ∧ place.2.name = name := by
        rw [Multiset.countP_eq_card_filter]
        exact Multiset.card_le_card (Multiset.filter_le_filter _ (Multiset.filter_le _ _))
    _ ≤ (volume.liveEntries dir).countP fun entry => entry.name = name :=
        countP_shelf_le (fun entry : DirEntry => entry.name = name) dir
    _ ≤ 1 := counted

/-- A name between two slashes that is not one of the two special ones. -/
def Ordinary (name : Name) : Prop := name ≠ [] ∧ slash ∉ name ∧ name ≠ dot ∧ name ≠ dotdot

/-- The path leads over no symbolic link. -/
def Straight (resolver : Resolver) (volume : Volume) (names : List Name) : Prop :=
  ∀ before name after ino, names = before ++ name :: after →
    resolver.walk volume (spell before) = .ok ino → volume.isLnk ino = false

/-- Without a link on the way, the directory of a path is found without the slash too. -/
theorem walk_of_slash (closed : resolver.Closed) (placed : volume.Placed)
    (follows : Names.Follows resolver volume) {path : Path} {dir : Ino}
    (single : path.getLast? ≠ some slash) (reached : resolver.walk volume (path ++ [slash]) = .ok dir)
    (straight : ∀ ino, resolver.walk volume path = .ok ino → volume.isLnk ino = false) :
    resolver.walk volume path = .ok dir := by
  rw [follows.slash_follows path single] at reached
  have there : Names.found (resolver.walk volume path) ≠ none := by
    intro absent
    have nowhere := follows.walk_of_follow path absent
    rw [reached, Names.found, if_neg (ne_null placed (used_of_walk closed placed (.inr reached)))] at nowhere
    cases nowhere
  obtain ⟨ino, found⟩ := Option.ne_none_iff_exists'.mp there
  have walked := Names.ok_of_found found
  have followed := resolver.walkFollow_of_walk volume path ino walked (straight ino walked)
  rw [reached] at followed
  rw [walked, Except.ok.inj followed]

/-- A path that is looked up leads along the names of the directories. -/
theorem leading_of_walk (closed : resolver.Closed) (placed : volume.Placed)
    (follows : Names.Follows resolver volume) {names : List Name} {ino : Ino}
    (ordinary : ∀ name ∈ names, Ordinary name) (straight : Straight resolver volume names)
    (found : resolver.walk volume (spell names) = .ok ino) :
    Leading (bindings volume) EXT2_ROOT_INO names ino := by
  induction names using List.reverseRecOn generalizing ino with
  | nil =>
      rw [Except.ok.inj (found.symm.trans (resolver.walk_nil volume))]
      exact .here
  | append_singleton names name ih =>
      have inner (name : Name) (member : name ∈ names) := ordinary name (List.mem_append_left _ member)
      obtain ⟨nonempty, clean, plain⟩ :=
        ordinary name (List.mem_append_right _ (List.mem_singleton_self _))
      rw [spell_concat, resolver.walk_split volume _ name nonempty clean] at found
      rcases reached : resolver.walk volume (spell names ++ [slash]) with code | dir
      · rw [reached] at found
        cases found
      rw [reached] at found
      change volume.lookup dir name = .ok ino at found
      have walked := walk_of_slash closed placed follows
        (spell_last fun name member => ⟨(inner name member).1, (inner name member).2.1⟩) reached
        fun ino => straight names name [] ino rfl
      have before := ih inner (fun front label after ino split =>
        straight front label (after ++ [name]) ino (by rw [split, List.append_assoc]; rfl)) walked
      obtain ⟨directory, entry, there, named, refers⟩ := find_of_lookup found
      apply Route.on before
      have plain : Plain entry := by
        rw [Plain, named]
        exact plain
      have live : volume.census.Live dir := ⟨used_of_walk closed placed (.inl walked), directory⟩
      rw [← named, ← refers]
      exact Multiset.mem_map_of_mem bound (Multiset.mem_filter.mpr
        ⟨place_of_entry placed live (List.mem_of_find?_eq_some there), plain⟩)

/-- Calls that do not add a name twice keep the names unique. -/
theorem unique_reached (honoured : (libext2fs resolver True).Honoured library view)
    {first hidden : Hidden} (unique : UniqueNames (view first))
    (reached : Reaches (NameOperation.step library) (Unoccupied resolver library view) first hidden) :
    UniqueNames (view hidden) := by
  induction reached with
  | first => exact unique
  | next _ unoccupied taken ih => exact Names.unique_step honoured _ _ _ ih unoccupied taken

/-- In a run of orderly calls that do not add a name twice, a path leads where its names lead. -/
theorem paths_resolved (closed : resolver.Closed)
    (follows : ∀ volume, volume.isLnk EXT2_ROOT_INO = false → Names.Follows resolver volume)
    (honoured : (libext2fs resolver True).Honoured library view) {first hidden : Hidden}
    (initial : (view first).WellFormed exact rooted) (unique : UniqueNames (view first))
    (reached : Reaches (NameOperation.step library) (fun hidden operation =>
      Orderly resolver exact rooted (view hidden) operation ∧
        Unoccupied resolver library view hidden operation) first hidden)
    {names : List Name} (ordinary : ∀ name ∈ names, Ordinary name)
    (straight : Straight resolver (view hidden) names) (ino : Ino) :
    resolver.walk (view hidden) (spell names) = .ok ino ↔
      Leading (bindings (view hidden)) EXT2_ROOT_INO names ino := by
  have formed := formed_reached closed honoured initial (reached.mono fun _ _ met => met.1)
  have unique := unique_reached honoured unique (reached.mono fun _ _ met => met.2)
  have follows := follows _ (directory_not_lnk formed.placed.shaped.root.2)
  apply Iff.intro
  · exact leading_of_walk closed formed.placed follows ordinary straight
  · exact walk_of_leading formed.placed unique follows fun name member => (ordinary name member).2.1

/-- The path of a file leads along its name. -/
theorem paths_resolved_holding :
    Leading (bindings (Volume.holding [[0x61]])) EXT2_ROOT_INO [[0x61]] 11 := by
  apply (paths_resolved linkless_closed (fun _ => Names.linkless_follows) (reference_honours True)
    (formed_holding (by decide) (List.cons_ne_nil _ _) True True)
    (Names.unique_holding _ (by decide)) .first _ _ 11).mp rfl
  · intro name member
    rw [List.mem_singleton.mp member]
    exact ⟨by decide, by decide, by decide, by decide⟩
  · intro before name after ino split found
    rcases List.append_eq_cons_iff.mp split.symm with ⟨none, _⟩ | ⟨some, _, rest⟩
    · rw [none] at found
      rw [← Except.ok.inj found]
      decide
    · have empty := List.append_eq_nil_iff.mp rest.symm
      exact absurd empty.2 (List.cons_ne_nil _ _)

/-- What a change of the names means for paths. Along names that stay, a path leads where it did. A
new name is found, with what is below it. A name that is gone, and not replaced, leads nowhere. -/
structure Shown (resolver : Resolver) (volume volume' : Volume) (change : Exchange Binding)
    (rest : Multiset Binding) : Prop where
  kept (names : List Name) (ino : Ino) (clean : ∀ name ∈ names, slash ∉ name)
    (leading : Leading rest EXT2_ROOT_INO names ino) :
    resolver.walk volume (spell names) = .ok ino ∧ resolver.walk volume' (spell names) = .ok ino
  found (binding : Binding) (new : binding ∈ change.new) (above below : List Name) (ino : Ino)
    (clean : ∀ name ∈ above ++ below, slash ∉ name)
    (leading : Leading rest EXT2_ROOT_INO above binding.dir) (on : Leading rest binding.ino below ino) :
    resolver.walk volume' (spell (above ++ binding.name :: below)) = .ok ino
  lost (binding : Binding) (gone : binding ∈ change.gone)
    (vacant : ∀ other ∈ change.new, other.dir = binding.dir → other.name ≠ binding.name)
    (above : List Name) (clean : ∀ name ∈ above, slash ∉ name)
    (leading : Leading rest EXT2_ROOT_INO above binding.dir) (ino : Ino) :
    resolver.walk volume' (spell (above ++ [binding.name])) ≠ .ok ino

theorem Spot.clean {path : Path} {dir : Ino} {name : Name} (spot : Spot resolver volume path dir name) :
    slash ∉ name := by
  obtain ⟨before, split, _⟩ := spot
  exact (strrchr_eq_some split).2

theorem located_clean {path : Path} {dir : Ino} {name : Name}
    (located : Located resolver volume path dir name) : slash ∉ name := by
  rcases split : strrchr path with _ | ⟨before, after⟩
  · rw [← ((located_none split).mp located).2]
    exact strrchr_eq_none_iff.mp split
  · rw [← ((located_some split).mp located).2]
    exact (strrchr_eq_some split).2

/-- The names of a change have no slashes. -/
theorem specified_clean {operation : NameOperation} {answer : Option Int} {change : Exchange Binding}
    (specified : Specified resolver volume operation answer change) :
    ∀ binding ∈ change.items, slash ∉ binding.name := by
  cases specified with
  | rejected | failed | opened | unlinked | alike => exact Exchange.forall_keep
  | created _ _ _ spot | founded _ spot | linked _ _ spot | symlinked _ spot =>
      exact Exchange.forall_add spot.clean
  | moved _ _ fromSpot toSpot => exact Exchange.forall_replace fromSpot.clean toSpot.clean
  | supplanted _ _ fromSpot toSpot =>
      exact Exchange.forall_supplant fromSpot.clean toSpot.clean toSpot.clean
  | cleared _ _ toSpot => exact Exchange.forall_remove toSpot.clean
  | unfiled _ located | emptied _ located => exact Exchange.forall_remove (located_clean located)

/-- The names that stay are names of the filesystem, before and after. -/
theorem leading_rest {names rest part : Multiset Binding} (split : names = part + rest) {first last : Ino}
    {labels : List Name} (leading : Leading rest first labels last) : Leading names first labels last :=
  leading.mono fun _ _ _ member => split ▸ Multiset.mem_add.mpr (.inr member)

/-- A name that is bound once is not bound again among the names that stay. -/
theorem gone_elsewhere (unique : UniqueNames volume) {gone rest : Multiset Binding}
    (split : bindings volume = gone + rest) {dir first second : Ino} {name : Name}
    (member : ⟨dir, name, first⟩ ∈ gone) : (⟨dir, name, second⟩ : Binding) ∉ rest := by
  intro again
  have once := bindings_once unique dir name
  rw [split, Multiset.countP_add] at once
  have one := Multiset.countP_pos_of_mem (p := fun binding : Binding =>
    binding.dir = dir ∧ binding.name = name) member ⟨rfl, rfl⟩
  have two := Multiset.countP_pos_of_mem (p := fun binding : Binding =>
    binding.dir = dir ∧ binding.name = name) again ⟨rfl, rfl⟩
  omega

/-- What a change of the names means for paths is what it means for the names. -/
theorem shown_of_leads (closed : resolver.Closed) (placed : volume.Placed) (placed' : volume'.Placed)
    (unique : UniqueNames volume) (unique' : UniqueNames volume')
    (follows : Names.Follows resolver volume) (follows' : Names.Follows resolver volume')
    (recorded : Recorded volume volume') {change : Exchange Binding} {rest : Multiset Binding}
    (before : bindings volume = change.gone + rest) (after : bindings volume' = change.new + rest)
    (clean : ∀ binding ∈ change.items, slash ∉ binding.name) :
    Shown resolver volume volume' change rest where
  kept names ino clean leading :=
    ⟨walk_of_leading placed unique follows clean (leading_rest before leading),
      walk_of_leading placed' unique' follows' clean (leading_rest after leading)⟩
  found binding new above below ino cleanly leading on := by
    have spelled : ∀ name ∈ above ++ binding.name :: below, slash ∉ name := by
      intro name member
      rcases List.mem_append.mp member with high | low
      · exact cleanly name (List.mem_append_left _ high)
      · rcases List.mem_cons.mp low with same | deep
        · rw [same]
          exact clean binding (Multiset.mem_add.mpr (.inr new))
        · exact cleanly name (List.mem_append_right _ deep)
    apply walk_of_leading placed' unique' follows' spelled
    apply (leading_rest after leading).across _ (leading_rest after on)
    exact after ▸ Multiset.mem_add.mpr (.inl new)
  lost binding gone vacant above cleanly leading ino found := by
    have bound : binding ∈ bindings volume := before ▸ Multiset.mem_add.mpr (.inl gone)
    obtain ⟨live, _, nonempty⟩ := lookup_of_binding placed unique bound
    have clean := clean binding (Multiset.mem_add.mpr (.inl gone))
    have led := leading_rest after leading
    have directory : volume'.isDir binding.dir = true := by
      rw [Volume.isDir, recorded.mode binding.dir live.1]
      exact live.2
    have walked := walk_of_leading placed' unique' follows' cleanly led
    have nonemptily := leading_nonempty placed' unique' led
    rw [spell_concat, resolver.walk_split volume' _ binding.name nonempty clean,
      walk_directory follows' (fun name member => ⟨nonemptily name member, cleanly name member⟩) walked
        directory] at found
    -- The directory would still bind the name.
    have again : ⟨binding.dir, binding.name, ino⟩ ∈ bindings volume' := by
      obtain ⟨_, entry, there, named, refers⟩ := find_of_lookup found
      have live' : volume'.census.Live binding.dir :=
        ⟨used_of_walk closed placed' (.inl walked), directory⟩
      have plain : Plain entry := by
        obtain ⟨place, inside, same⟩ := Multiset.mem_map.mp bound
        have plain := (Multiset.mem_filter.mp inside).2
        rw [Plain, named, ← same]
        exact plain
      rw [← named, ← refers]
      exact Multiset.mem_map_of_mem Trees.bound (Multiset.mem_filter.mpr
        ⟨place_of_entry placed' live' (List.mem_of_find?_eq_some there), plain⟩)
    rw [after] at again
    rcases Multiset.mem_add.mp again with new | stays
    · exact vacant _ new rfl rfl
    · exact gone_elsewhere unique before gone stays

/-- In a run of orderly calls that do not add a name twice, what a call does to the names shows in the
paths. -/
theorem paths_refined (closed : resolver.Closed)
    (follows : ∀ volume, volume.isLnk EXT2_ROOT_INO = false → Names.Follows resolver volume)
    (honoured : (libext2fs resolver True).Honoured library view) {first hidden hidden' : Hidden}
    (initial : (view first).WellFormed exact rooted) (unique : UniqueNames (view first))
    (reached : Reaches (NameOperation.step library) (fun hidden operation =>
      Orderly resolver exact rooted (view hidden) operation ∧
        Unoccupied resolver library view hidden operation) first hidden)
    {operation : NameOperation} (orderly : Orderly resolver exact rooted (view hidden) operation)
    (unoccupied : Unoccupied resolver library view hidden operation)
    (taken : operation.step library hidden = some hidden') :
    ∃ change rest, Specified resolver (view hidden) operation (answered library hidden operation) change ∧
      bindings (view hidden) = change.gone + rest ∧ bindings (view hidden') = change.new + rest ∧
      Shown resolver (view hidden) (view hidden') change rest := by
  have orderly_reached := reached.mono fun _ _ met => met.1
  have formed := formed_reached closed honoured initial orderly_reached
  have formed' := formed_reached closed honoured initial (.next orderly_reached orderly taken)
  have unoccupied_reached := reached.mono fun _ _ met => met.2
  have unique' := unique_reached honoured unique (.next unoccupied_reached unoccupied taken)
  have unique := unique_reached honoured unique unoccupied_reached
  obtain ⟨⟨change, specified, rest, before, after⟩, recorded⟩ :=
    refines_reached closed honoured initial orderly_reached orderly taken
  exact ⟨change, rest, specified, before, after,
    shown_of_leads closed formed.placed formed'.placed unique unique'
      (follows _ (directory_not_lnk formed.placed.shaped.root.2))
      (follows _ (directory_not_lnk formed'.placed.shaped.root.2)) recorded before after
      (specified_clean specified)⟩

/-- A file that is unlinked has no path any more. -/
theorem paths_refined_unlink :
    ∃ volume change rest, (NameOperation.unlink [0x2f, 0x61]).step reference (Volume.holding [[0x61]]) =
        some volume ∧ Shown linkless (Volume.holding [[0x61]]) volume change rest := by
  obtain ⟨change, rest, _, _, _, shown⟩ := @paths_refined Volume linkless True True reference id
    linkless_closed (fun _ => Names.linkless_follows) (reference_honours True) (Volume.holding [[0x61]])
    (Volume.holding [[0x61]]) _ (formed_holding (by decide) (List.cons_ne_nil _ _) True True)
    (Names.unique_holding _ (by decide)) .first (.unlink [0x2f, 0x61]) trivial trivial rfl
  exact ⟨_, change, rest, rfl, shown⟩

end NodeExt2fs.Trees
