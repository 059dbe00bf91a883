import NodeExt2fs.Construction.Library.Contract

/-!
This file resolves paths without following symbolic links: a path that leads through one fails.
-/

namespace NodeExt2fs.Library
open Programs Glue

/-- The components between the slashes of a path. -/
def splitPath : Path → List Name
  | [] => [[]]
  | byte :: rest =>
      if byte = slash then [] :: splitPath rest
      else
        match splitPath rest with
        | [] => [[byte]]
        | name :: names => (byte :: name) :: names

/-- The components of a path below the root. -/
def components : Path → List Name
  | [] => [[]]
  | byte :: rest => if byte = slash then splitPath rest else splitPath (byte :: rest)

/-- A component that is not the last one. -/
def descend (volume : Volume) (dir : Ino) (name : Name) : Except Errcode Ino :=
  if name = [] then .error EXT2_ET_FILE_NOT_FOUND
  else
    (volume.lookup dir name).bind fun ino =>
      if volume.isLnk ino then .error EXT2_ET_SYMLINK_LOOP else .ok ino

/-- The last component of a path. It is empty after a slash at the end. -/
def arrive (volume : Volume) (follow : Bool) (dir : Ino) (name : Name) : Except Errcode Ino :=
  if name = [] then .ok dir
  else
    (volume.lookup dir name).bind fun ino =>
      if follow && volume.isLnk ino then .error EXT2_ET_SYMLINK_LOOP else .ok ino

def walkNames (volume : Volume) (follow : Bool) (dir : Ino) : List Name → Except Errcode Ino
  | [] => .ok dir
  | [name] => arrive volume follow dir name
  | name :: names => (descend volume dir name).bind fun dir => walkNames volume follow dir names

/-- The directories and names that a walk looks up. -/
def visited (volume : Volume) (dir : Ino) : List Name → List (Ino × Name)
  | [] => []
  | name :: names =>
      (dir, name) ::
        match descend volume dir name with
        | .ok dir => visited volume dir names
        | .error _ => []

theorem splitPath_ne_nil (path : Path) : splitPath path ≠ [] := by
  cases path with
  | nil => exact List.cons_ne_nil _ _
  | cons byte rest =>
      unfold splitPath
      by_cases same : byte = slash
      · rw [if_pos same]
        exact List.cons_ne_nil _ _
      · rw [if_neg same]
        cases splitPath rest with
        | nil => exact List.cons_ne_nil _ _
        | cons name names => exact List.cons_ne_nil _ _

theorem splitPath_clean {name : Name} (clean : slash ∉ name) : splitPath name = [name] := by
  induction name with
  | nil => rfl
  | cons byte rest ih =>
      rw [List.mem_cons, not_or] at clean
      unfold splitPath
      rw [if_neg (Ne.symm clean.1), ih clean.2]

theorem splitPath_append (before : Path) (name : Name) :
    splitPath (before ++ slash :: name) = splitPath before ++ splitPath name := by
  induction before with
  | nil =>
      show splitPath (slash :: name) = [] :: splitPath name
      rw [splitPath, if_pos rfl]
  | cons byte rest ih =>
      show splitPath (byte :: (rest ++ slash :: name)) = _
      rw [splitPath, splitPath]
      by_cases same : byte = slash
      · rw [if_pos same, if_pos same, ih]
        rfl
      · rw [if_neg same, if_neg same, ih]
        rcases first : splitPath rest with _ | ⟨head, tail⟩
        · exact absurd first (splitPath_ne_nil rest)
        · rfl

/-- The components of what stands before a slash. -/
def initial (before : Path) : List Name := if before = [] then [] else components before

theorem components_append (before : Path) {name : Name} (clean : slash ∉ name) :
    components (before ++ slash :: name) = initial before ++ [name] := by
  cases before with
  | nil =>
      show components (slash :: name) = [name]
      rw [components, if_pos rfl, splitPath_clean clean]
  | cons byte rest =>
      have unfolded (tail : Path) : components (byte :: tail) =
          if byte = slash then splitPath tail else splitPath (byte :: tail) := rfl
      rw [initial, if_neg (List.cons_ne_nil _ _), List.cons_append, unfolded, unfolded]
      by_cases same : byte = slash
      · rw [if_pos same, if_pos same, splitPath_append, splitPath_clean clean]
      · rw [if_neg same, if_neg same, ← List.cons_append, splitPath_append,
          splitPath_clean clean]

/-- The directory that some components lead to. -/
def descendAll (volume : Volume) (dir : Ino) : List Name → Except Errcode Ino
  | [] => .ok dir
  | name :: names => (descend volume dir name).bind fun dir => descendAll volume dir names

theorem walkNames_append (volume : Volume) (follow : Bool) (dir : Ino) (names : List Name)
    (name : Name) : walkNames volume follow dir (names ++ [name]) =
      (descendAll volume dir names).bind fun dir => arrive volume follow dir name := by
  induction names generalizing dir with
  | nil => rfl
  | cons first rest ih =>
      have step : walkNames volume follow dir (first :: (rest ++ [name])) =
          (descend volume dir first).bind fun dir =>
            walkNames volume follow dir (rest ++ [name]) := by
        cases rest with
        | nil => rfl
        | cons second rest => rfl
      rw [List.cons_append, step, descendAll]
      cases descend volume dir first with
      | error code => rfl
      | ok dir' => exact ih dir'

theorem descendAll_append (volume : Volume) (dir : Ino) (names : List Name) (name : Name) :
    descendAll volume dir (names ++ [name]) =
      (descendAll volume dir names).bind fun dir => descend volume dir name := by
  induction names generalizing dir with
  | nil =>
      change (descend volume dir name).bind Except.ok = descend volume dir name
      cases descend volume dir name with
      | error code => rfl
      | ok dir' => rfl
  | cons first rest ih =>
      rw [List.cons_append, descendAll, descendAll]
      cases descend volume dir first with
      | error code => rfl
      | ok dir' => exact ih dir'

/-- The walk to a directory and the walk to its path without the slash agree. -/
theorem walkNames_slash {volume : Volume} {root dir ino : Ino} (names : List Name)
    (outer : descendAll volume root names = .ok dir)
    (inner : walkNames volume false root names = .ok ino) : ino = dir := by
  rcases List.eq_nil_or_concat' names with empty | ⟨before, last, split⟩
  · rw [empty] at outer inner
    exact (Except.ok.inj inner).symm.trans (Except.ok.inj outer)
  · rw [split, descendAll_append] at outer
    rw [split, walkNames_append] at inner
    rcases reached : descendAll volume root before with code | middle
    · rw [reached] at outer
      cases outer
    · rw [reached] at outer inner
      change descend volume middle last = .ok dir at outer
      change arrive volume false middle last = .ok ino at inner
      by_cases nameless : last = []
      · rw [descend, if_pos nameless] at outer
        cases outer
      · rw [descend, if_neg nameless] at outer
        rw [arrive, if_neg nameless] at inner
        rcases found : volume.lookup middle last with code | target
        · rw [found] at outer
          cases outer
        · rw [found] at outer inner
          have here : ino = target := (Except.ok.inj inner).symm
          rcases link : volume.isLnk target with _ | _
          · simp only [Except.bind, link] at outer
            exact here.trans (Except.ok.inj outer)
          · simp only [Except.bind, link] at outer
            cases outer

/-- A walk that does not end at a symbolic link is the same when links are followed. -/
theorem walkNames_follow {volume : Volume} {ino : Ino} (plain : volume.isLnk ino = false)
    (dir : Ino) (names : List Name) (found : walkNames volume false dir names = .ok ino) :
    walkNames volume true dir names = .ok ino := by
  induction names generalizing dir with
  | nil => exact found
  | cons first rest ih =>
      cases rest with
      | nil =>
          change arrive volume false dir first = .ok ino at found
          show arrive volume true dir first = .ok ino
          by_cases nameless : first = []
          · rw [arrive, if_pos nameless] at found ⊢
            exact found
          · rw [arrive, if_neg nameless] at found ⊢
            rcases here : volume.lookup dir first with code | target
            · rw [here] at found
              cases found
            · rw [here] at found
              have same : target = ino := Except.ok.inj found
              simp only [Except.bind, same, plain, Bool.and_false]
              rfl
      | cons second rest =>
          change (descend volume dir first).bind _ = .ok ino at found
          show (descend volume dir first).bind _ = .ok ino
          rcases next : descend volume dir first with code | dir'
          · rw [next] at found
            cases found
          · rw [next] at found
            exact ih dir' found

theorem descend_frame {volume volume' : Volume} {dir : Ino} {name : Name}
    (lookup : volume'.lookup dir name = volume.lookup dir name)
    (isLnk : ∀ ino, volume.lookup dir name = .ok ino → volume'.isLnk ino = volume.isLnk ino) :
    descend volume' dir name = descend volume dir name := by
  rw [descend, descend, lookup]
  rcases found : volume.lookup dir name with code | ino
  · rfl
  · simp only [Except.bind, isLnk ino found]

theorem walkNames_frame {volume volume' : Volume} (dir : Ino) (names : List Name)
    (same : ∀ step ∈ visited volume dir names,
      volume'.lookup step.1 step.2 = volume.lookup step.1 step.2 ∧
        ∀ ino, volume.lookup step.1 step.2 = .ok ino → volume'.isLnk ino = volume.isLnk ino) :
    walkNames volume' false dir names = walkNames volume false dir names := by
  induction names generalizing dir with
  | nil => rfl
  | cons first rest ih =>
      have here := same (dir, first) List.mem_cons_self
      cases rest with
      | nil =>
          change arrive volume' false dir first = arrive volume false dir first
          unfold arrive
          rw [here.1]
          rfl
      | cons second rest =>
          change (descend volume' dir first).bind _ = (descend volume dir first).bind _
          rw [descend_frame here.1 here.2]
          rcases next : descend volume dir first with code | dir'
          · rfl
          · apply ih dir'
            intro step member
            apply same step
            rw [visited, next]
            exact List.mem_cons_of_mem _ member

/-- A resolver that follows no symbolic links. -/
def linkless : Resolver where
  walk volume path := walkNames volume false EXT2_ROOT_INO (components path)
  walkFollow volume path := walkNames volume true EXT2_ROOT_INO (components path)
  trail volume path := visited volume EXT2_ROOT_INO (components path)
  walk_nil _ := rfl
  walk_name := by
    intro volume name nonempty clean
    have single : components name = [name] := by
      cases name with
      | nil => rfl
      | cons byte rest =>
          have other : byte ≠ slash := by
            intro same
            rw [same] at clean
            exact clean List.mem_cons_self
          rw [components, if_neg other, splitPath_clean clean]
    rw [single]
    change arrive volume false EXT2_ROOT_INO name = _
    rw [arrive, if_neg nonempty]
    cases volume.lookup EXT2_ROOT_INO name with
    | error code => rfl
    | ok ino => rfl
  walk_split := by
    intro volume before name nonempty clean
    rw [components_append before clean, components_append before List.not_mem_nil,
      walkNames_append, walkNames_append]
    cases descendAll volume EXT2_ROOT_INO (initial before) with
    | error code => rfl
    | ok dir =>
        change arrive volume false dir name = volume.lookup dir name
        rw [arrive, if_neg nonempty]
        cases volume.lookup dir name with
        | error code => rfl
        | ok ino => rfl
  walk_slash := by
    intro volume before dir ino outer inner _
    rw [components_append before List.not_mem_nil, walkNames_append] at outer
    rcases reached : descendAll volume EXT2_ROOT_INO (initial before) with code | dir'
    · rw [reached] at outer
      cases outer
    · rw [reached] at outer
      have same : dir' = dir := Except.ok.inj outer
      rw [same] at reached
      by_cases empty : before = []
      · rw [empty] at inner reached
        exact (Except.ok.inj inner).symm.trans (Except.ok.inj reached)
      · rw [initial, if_neg empty] at reached
        exact walkNames_slash (components before) reached inner
  walkFollow_slash := by
    intro volume before
    rw [components_append before List.not_mem_nil, walkNames_append, walkNames_append]
    rfl
  walkFollow_of_walk := by
    intro volume path ino found plain
    exact walkNames_follow plain EXT2_ROOT_INO (components path) found
  walk_frame := by
    intro volume volume' path same
    apply walkNames_frame
    intro step member
    obtain ⟨lookup, rest⟩ := same step member
    exact ⟨lookup, fun ino found => (rest ino found).1⟩

end NodeExt2fs.Library
