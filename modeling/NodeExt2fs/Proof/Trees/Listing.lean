import NodeExt2fs.Proof.Listing.Names
import NodeExt2fs.Proof.Trees.Refining

/-!
This file proves that a listing shows the names that the calls before it have left.
-/

namespace NodeExt2fs.Trees
open Programs Structures Glue Library Js
open Program (wp wp_bind wp_mono run_of_wp)
open Listing (Named)

variable {Hidden : Type} {resolver : Resolver} {exact rooted : Prop} {volume volume' : Volume}
  {library : Handler Call Answer Hidden} {view : Hidden → Volume}

/-- No name has a NUL in it. -/
def Terminated (volume : Volume) : Prop := ∀ binding ∈ bindings volume, 0 ∉ binding.name

/-- The last name of an accepted path has no NUL. -/
theorem nul_of_spot {raw : List UInt8} {path : Path} {dir : Ino} {name : Name}
    (used : usePath raw = some path) (spot : Spot resolver volume path dir name) : 0 ∉ name := by
  obtain ⟨before, split, _⟩ := spot
  have whole := (strrchr_eq_some split).1
  intro member
  by_cases nul : 0 ∈ raw
  · rw [usePath, if_pos nul] at used
    cases used
  · rw [usePath, if_neg nul] at used
    obtain rfl := Option.some.inj used
    have inside : 0 ∈ rstripSlashes raw := by
      rw [whole]
      exact List.mem_append_right _ (List.mem_cons_of_mem _ member)
    exact nul ((List.rdropWhile_prefix _ raw).subset inside)

/-- What a call adds is the last name of a path that it was given. -/
theorem specified_terminated {operation : NameOperation} {answer : Option Int} {change : Exchange Binding}
    (specified : Specified resolver volume operation answer change) :
    ∀ binding ∈ change.new, 0 ∉ binding.name := by
  cases specified with
  | rejected | failed | opened | unlinked | alike | cleared | unfiled | emptied =>
      intro binding member
      exact absurd member (Multiset.notMem_zero binding)
  | created used _ _ spot | founded used spot | linked _ used spot | symlinked used spot
  | moved _ used _ spot | supplanted _ used _ spot =>
      intro binding member
      rw [Multiset.mem_singleton.mp member]
      exact nul_of_spot used spot

/-- Calls add no name with a NUL. -/
theorem terminated_reached (closed : resolver.Closed)
    (honoured : (libext2fs resolver True).Honoured library view) {first hidden : Hidden}
    (initial : (view first).WellFormed exact rooted) (terminated : Terminated (view first))
    (reached : Reaches (NameOperation.step library)
      (fun hidden => Orderly resolver exact rooted (view hidden)) first hidden) :
    Terminated (view hidden) := by
  induction reached with
  | first => exact terminated
  | next before orderly taken ih =>
      obtain ⟨⟨change, specified, rest, old, new⟩, _⟩ :=
        refines_reached closed honoured initial before orderly taken
      intro binding member
      rw [new] at member
      rcases Multiset.mem_add.mp member with added | stays
      · exact specified_terminated specified binding added
      · exact ih binding (old ▸ Multiset.mem_add.mpr (.inr stays))

/-- The names that a directory binds. -/
def namesOf (names : Multiset Binding) (dir : Ino) : Multiset Name :=
  (names.filter fun binding => binding.dir = dir).map Binding.name

/-- The plain names of a live directory are those that it binds. -/
theorem namesWithin_entries (placed : volume.Placed) {dir : Ino} (live : volume.census.Live dir) :
    (namesWithin (volume.entries dir) : Multiset Name) = namesOf (bindings volume) dir := by
  have alive : (volume.inUse dir && volume.isDir dir) = true := Bool.and_eq_true_iff.mpr live
  have shelf := @places_shelf DirEntry volume.liveEntries volume.inodesCount dir
    (placed.bounded dir live.1)
  rw [Volume.liveEntries, if_pos alive] at shelf
  have here : (volume.census.names.filter fun place => place.1 = dir) =
      ((volume.entries dir).map (Prod.mk dir) : Multiset Place) := shelf
  calc (namesWithin (volume.entries dir) : Multiset Name)
      = ((volume.entries dir : Multiset DirEntry).filter Plain).map DirEntry.name := by
        rw [namesWithin, List.filter_map]
        rfl
    _ = (((volume.census.names.filter fun place => place.1 = dir).filter
          fun place => Plain place.2).map fun place => place.2.name) := by
        rw [here, ← Multiset.map_coe, Multiset.filter_map, Multiset.map_map]
        rfl
    _ = namesOf (bindings volume) dir := by
        rw [namesOf, bindings, bindingsOf, Multiset.filter_map, Multiset.map_map, Multiset.filter_filter,
          Multiset.filter_filter]
        exact congrArg (Multiset.map _) (Multiset.filter_congr fun _ _ => and_comm)

/-- Every entry of a live directory has a name that the callback can compare. -/
theorem named_of_terminated (placed : volume.Placed) (terminated : Terminated volume) {dir : Ino}
    (live : volume.census.Live dir) : ∀ entry ∈ volume.entries dir, Named entry := by
  intro entry member
  have place := place_of_entry placed live member
  refine ⟨(placed.shaped.held _ place).2.2, ?_⟩
  by_cases plain : Plain entry
  · exact terminated _ (Multiset.mem_map_of_mem bound (Multiset.mem_filter.mpr ⟨place, plain⟩))
  · rcases Decidable.not_and_iff_or_not.mp plain with self | parent
    · rw [Decidable.not_not.mp self]
      decide
    · rw [Decidable.not_not.mp parent]
      decide

/-- A listing changes no name. It fails, or it has the plain names of the directory that its path leads
to. -/
def Lists (resolver : Resolver) (volume : Volume) (path : Path) (result : Int × List Name)
    (volume' : Volume) : Prop :=
  SameNames volume volume' ∧ (result.1 < 0 ∨ ∃ dir, resolver.walkFollow volume path = .ok dir ∧
    volume.isDir dir = true ∧ result = (0, namesWithin (volume.entries dir)))

/-- The iteration leaves the entries as they are. -/
theorem setEntries_self (volume : Volume) (dir : Ino) :
    volume.setEntries dir (volume.entries dir) = volume := by
  rw [Volume.setEntries, Function.update_eq_self]

theorem readdir_lists (closed : resolver.Closed) (placed : volume.Placed)
    (terminated : Terminated volume) (path : Path) (arrayId : Nat) (behind : DirEntry → List UInt8) :
    wp (libext2fs resolver True) (pushing arrayId [] (nodeExt2fsReaddirFrom path arrayId behind))
      (Lists resolver volume path) volume := by
  have found : stringToInode path true = (Call.nameiFollow path).perform >>= fun answer =>
      if answer.1 ≠ 0 then pure 0 else pure answer.2 := rfl
  have failed {ret : Int} (array : List Name) (negative : ret < 0) {volume' : Volume}
      (same : SameNames volume volume') : Lists resolver volume path (ret, array) volume' :=
    ⟨same, .inl negative⟩
  rw [nodeExt2fsReaddirFrom, found, bind_assoc]
  apply wp_pushing_call (.nameiFollow path) (by simp) trivial
  rintro answer volume₁ ⟨same, resolved⟩
  rw [same]
  by_cases missing : answer.1 ≠ 0
  · rw [if_pos missing, pure_bind, if_pos rfl]
    exact failed _ (by decide) (.refl volume)
  obtain ⟨walked, positive⟩ := walk_of_resolved resolved (not_not.mp missing)
  rw [if_neg missing, pure_bind, if_neg positive]
  apply wp_pushing_call (.fileOpen answer.2 0) (by simp) trivial
  intro opened volume₂ opens
  have same₂ : SameNames volume volume₂ ∧ volume₂.entries = volume.entries := by
    rcases opens with ⟨_, _, _, made⟩ | ⟨_, same⟩
    · rw [made]
      exact ⟨⟨rfl, rfl⟩, rfl⟩
    · rw [same]
      exact ⟨.refl volume, rfl⟩
  dsimp only
  rw [wp_pushing_ite]
  refine ⟨fun bad => failed _ (neg_errcode_lt_zero.mpr bad) same₂.1, fun _ => ?_⟩
  apply wp_pushing_call (.checkDirectory answer.2) (by simp) trivial
  rintro code volume₃ ⟨same₃, _⟩
  rw [same₃, wp_pushing_ite]
  refine ⟨fun bad => failed _ (neg_errcode_lt_zero.mpr bad) same₂.1, fun _ => ?_⟩
  apply wp_pushing_call (.dirIterate answer.2 .copyFilenameToResult) (by simp) trivial
  rintro iterated volume₄ (⟨fine, directory, visited, left⟩ | ⟨bad, _, same | ⟨steady, _⟩⟩)
  · rw [Listing.iterate_copyFilenameToResult] at visited left
    rw [setEntries_self] at left
    rw [same₂.2] at visited
    have directory : volume.isDir answer.2 = true := by
      rw [Volume.isDir, same₂.1.mode] at directory
      exact directory
    have live : volume.census.Live answer.2 := ⟨used_of_walk closed placed (.inr walked), directory⟩
    rw [pushing_bind, visited,
      Listing.pushing_copyFilenamesFrom (named_of_terminated placed terminated live), pure_bind, fine, left]
    exact ⟨same₂.1, .inr ⟨answer.2, walked, directory, rfl⟩⟩
  · obtain ⟨array, pushed⟩ := Listing.pushing_copyFilenamesFrom_some arrayId [] iterated.2 behind
    rw [pushing_bind, pushed, pure_bind, same]
    exact failed _ (neg_errcode_lt_zero.mpr bad) same₂.1
  · exact absurd trivial steady

/-- A listing by some path to a directory returns zero and these names. -/
def Shows (resolver : Resolver) (library : Handler Call Answer Hidden) (view : Hidden → Volume)
    (hidden : Hidden) (dir : Ino) (names : List Name) : Prop :=
  ∃ path arrayId behind, resolver.walkFollow (view hidden) path = .ok dir ∧
    ((pushing arrayId [] (nodeExt2fsReaddirFrom path arrayId behind)).run library hidden).1 = (0, names)

/-- What a listing shows is what the directory binds. -/
theorem names_of_shows (closed : resolver.Closed)
    (honoured : (libext2fs resolver True).Honoured library view) {hidden : Hidden}
    (placed : (view hidden).Placed) (terminated : Terminated (view hidden)) {dir : Ino}
    {names : List Name} (shows' : Shows resolver library view hidden dir names) :
    (names : Multiset Name) = namesOf (bindings (view hidden)) dir := by
  obtain ⟨path, arrayId, behind, walked, listed⟩ := shows'
  have lists := run_of_wp honoured (readdir_lists closed placed terminated path arrayId behind)
  rw [listed] at lists
  obtain ⟨_, negative | ⟨dir', walked', directory, same⟩⟩ := lists
  · exact absurd negative (Int.lt_irrefl 0)
  · obtain rfl := Except.ok.inj (walked.symm.trans walked')
    rw [(Prod.mk.inj same).2]
    exact namesWithin_entries placed ⟨used_of_walk closed placed (.inr walked), directory⟩

theorem namesOf_add (first second : Multiset Binding) (dir : Ino) :
    namesOf (first + second) dir = namesOf first dir + namesOf second dir := by
  rw [namesOf, Multiset.filter_add, Multiset.map_add]
  rfl

/-- In a run of orderly calls, the names that listings show before and after a call differ by those
that the call takes and gives. -/
theorem listings_refined (closed : resolver.Closed)
    (honoured : (libext2fs resolver True).Honoured library view) {first hidden hidden' : Hidden}
    (initial : (view first).WellFormed exact rooted) (terminated : Terminated (view first))
    (reached : Reaches (NameOperation.step library)
      (fun hidden => Orderly resolver exact rooted (view hidden)) first hidden)
    {operation : NameOperation} (orderly : Orderly resolver exact rooted (view hidden) operation)
    (taken : operation.step library hidden = some hidden') :
    ∃ change, Specified resolver (view hidden) operation (answered library hidden operation) change ∧
      ∀ dir names names', Shows resolver library view hidden dir names →
        Shows resolver library view hidden' dir names' →
        (names : Multiset Name) = namesOf (bindings (view hidden)) dir ∧
          names' + namesOf change.gone dir = names + namesOf change.new dir := by
  have formed := formed_reached closed honoured initial reached
  have formed' := formed_reached closed honoured initial (.next reached orderly taken)
  have terminated' := terminated_reached closed honoured initial terminated (.next reached orderly taken)
  have terminated := terminated_reached closed honoured initial terminated reached
  obtain ⟨⟨change, specified, rest, before, after⟩, _⟩ :=
    refines_reached closed honoured initial reached orderly taken
  refine ⟨change, specified, fun dir names names' shown shown' => ?_⟩
  have old := names_of_shows closed honoured formed.placed terminated shown
  have new := names_of_shows closed honoured formed'.placed terminated' shown'
  refine ⟨old, ?_⟩
  rw [old, new, before, after, namesOf_add, namesOf_add, add_right_comm,
    add_comm (namesOf change.new dir), add_right_comm]

theorem terminated_holding (name : Name) (clean : 0 ∉ name) : Terminated (Volume.holding [name]) := by
  intro binding member
  rw [bindings, bindingsOf] at member
  obtain ⟨place, inside, same⟩ := Multiset.mem_map.mp member
  have inside := (Multiset.mem_filter.mp inside).1
  rw [names_holding, Multiset.mem_coe, List.mem_map] at inside
  obtain ⟨entry, there, here⟩ := inside
  have named : entry.name = dot ∨ entry.name = dotdot ∨ entry.name = name := by
    have three : entry ∈ [⟨EXT2_ROOT_INO, dot, EXT2_FT_DIR⟩, ⟨EXT2_ROOT_INO, dotdot, EXT2_FT_DIR⟩,
        (⟨11, name, EXT2_FT_REG_FILE⟩ : DirEntry)] := there
    simp only [List.mem_cons, List.not_mem_nil, or_false] at three
    rcases three with self | parent | file
    · exact .inl (congrArg DirEntry.name self)
    · exact .inr (.inl (congrArg DirEntry.name parent))
    · exact .inr (.inr (congrArg DirEntry.name file))
  rw [← same, ← here]
  change 0 ∉ entry.name
  rcases named with self | parent | file
  · rw [self]
    decide
  · rw [parent]
    decide
  · rw [file]
    exact clean

/-- The root shows the second name of a file once it has been given. -/
theorem listings_refined_link : ∃ (volume : Volume) (change : Exchange Binding),
    (NameOperation.link [0x2f, 0x61] [0x2f, 0x62]).step reference (Volume.holding [[0x61]]) = some volume ∧
    Shows linkless reference id (Volume.holding [[0x61]]) EXT2_ROOT_INO [[0x61]] ∧
    Shows linkless reference id volume EXT2_ROOT_INO [[0x61], [0x62]] ∧
    (([[0x61], [0x62]] : List Name) : Multiset Name) + namesOf change.gone EXT2_ROOT_INO =
      ([[0x61]] : List Name) + namesOf change.new EXT2_ROOT_INO := by
  obtain ⟨change, _, shown⟩ := @listings_refined Volume linkless True True reference id linkless_closed
    (reference_honours True) (Volume.holding [[0x61]]) (Volume.holding [[0x61]]) _
    (formed_holding (by decide) (List.cons_ne_nil _ _) True True) (terminated_holding _ (by decide)) .first
    (.link [0x2f, 0x61] [0x2f, 0x62]) (orderly_link True True) rfl
  have before : Shows linkless reference id (Volume.holding [[0x61]]) EXT2_ROOT_INO [[0x61]] :=
    ⟨[0x2f], 0, fun _ => [], rfl, rfl⟩
  exact ⟨_, change, rfl, before, ⟨[0x2f], 0, fun _ => [], rfl, rfl⟩,
    (shown EXT2_ROOT_INO [[0x61]] _ before ⟨[0x2f], 0, fun _ => [], rfl, rfl⟩).2⟩

end NodeExt2fs.Trees
