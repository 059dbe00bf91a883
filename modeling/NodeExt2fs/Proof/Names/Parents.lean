import NodeExt2fs.Construction.Glue.Parents
import NodeExt2fs.Construction.Js.Names
import NodeExt2fs.Proof.Library.Reference

/-!
This file compares the parent directories that the operations on names find for one path.
-/

namespace NodeExt2fs.Names
open Programs Glue Library Js
open Program (wp wp_pure wp_bind wp_ite wp_map wp_mono run_of_wp)

/-- An inode number that a lookup can hand out. -/
def found : Except Errcode Ino → Option Ino
  | .ok ino => if ino = 0 then none else some ino
  | .error _ => none

/-- The functions that look up a parent directory. `node_ext2fs_mkdir` does it as `create_file`, and
`node_ext2fs_rename` does it alike for both of its paths. -/
inductive ParentUse where
  | createFile
  | rename
  | link
  | symlink
  | unlinkFileByName
  deriving DecidableEq

def directory : Except Int (Ino × Name) → Option Ino
  | .ok located => some located.1
  | .error _ => none

/-- The directory that a function computes for a path. -/
def ParentUse.parent : ParentUse → Path → Routine (Option Ino)
  | .createFile, path => (fun ino => if ino = 0 then none else some ino) <$> getParentDirIno path
  | .rename, path => directory <$> renameParent path
  | .link, path => directory <$> linkParent path
  | .symlink, path => directory <$> symlinkParent path
  | .unlinkFileByName, path => directory <$> unlinkParent path

/-- The directory in which `ext2fs_namei` looks up the last component. -/
def lookupDir (resolver : Resolver) (volume : Volume) (path : Path) : Option Ino :=
  match strrchr path with
  | none => some EXT2_ROOT_INO
  | some parts => found (resolver.walk volume (parts.1 ++ [slash]))

/-- All functions compute the directory of the lookup, or all fail. -/
def ParentsAgree {Hidden : Type} (resolver : Resolver) (library : Handler Call Answer Hidden)
    (view : Hidden → Volume) (hidden : Hidden) (path : Path) : Prop :=
  (∃ dir, lookupDir resolver (view hidden) path = some dir ∧
    ∀ use : ParentUse, ((use.parent path).run library hidden).1 = some dir) ∨
  ∀ use : ParentUse, ((use.parent path).run library hidden).1 = none

/-- What `ext2fs_namei` does with slashes and symbolic links. -/
structure Follows (resolver : Resolver) (volume : Volume) : Prop where
  /-- A component before a slash is followed. -/
  slash_follows (before : Path) (single : before.getLast? ≠ some slash) :
    resolver.walk volume (before ++ [slash]) = resolver.walkFollow volume before
  /-- Between two slashes stands an empty component. It is not found, or it is the directory. -/
  slash_again (before : Path) (doubled : before.getLast? = some slash) :
    found (resolver.walk volume (before ++ [slash])) = none ∨
      resolver.walk volume (before ++ [slash]) = resolver.walk volume before
  /-- Only what is there can be followed. -/
  walk_of_follow (path : Path) (absent : found (resolver.walk volume path) = none) :
    found (resolver.walkFollow volume path) = none
  /-- Following goes on until there is no link. -/
  follow_ends (path : Path) (ino : Ino) (reached : resolver.walkFollow volume path = .ok ino) :
    volume.isLnk ino = false

/-- The path has a slash. Without the last slash and the name after it, it does not lead to a
symbolic link. After two slashes in a row, it leads to nothing, or the empty component is found. -/
def Unambiguous (resolver : Resolver) (volume : Volume) (path : Path) : Prop :=
  ∃ before name, strrchr path = some (before, name) ∧
    (before.getLast? ≠ some slash →
      ∀ ino, found (resolver.walk volume before) = some ino → volume.isLnk ino = false) ∧
    (before.getLast? = some slash → found (resolver.walk volume before) ≠ none →
      found (resolver.walk volume (before ++ [slash])) ≠ none)

variable {resolver : Resolver} {volume : Volume}

theorem ok_of_found {result : Except Errcode Ino} {ino : Ino} (there : found result = some ino) :
    result = .ok ino := by
  cases result with
  | error code => cases there
  | ok ino' =>
      by_cases zero : ino' = 0
      · rw [found, if_pos zero] at there
        cases there
      · rw [found, if_neg zero] at there
        rw [Option.some.inj there]

theorem found_resolved {result : Except Errcode Ino} {answer : Errcode × Ino}
    (resolved : Resolved True result answer) :
    answer.1 ≠ 0 ∧ found result = none ∨
      answer.1 = 0 ∧ answer.2 ≠ 0 ∧ found result = some answer.2 := by
  cases result with
  | error code => exact .inl ⟨resolved.1, rfl⟩
  | ok ino =>
      obtain ⟨success, same, nonzero⟩ | ⟨zero, failed, _⟩ := resolved
      · rw [← same] at nonzero ⊢
        exact .inr ⟨success, nonzero, if_neg nonzero⟩
      · exact .inl ⟨failed, if_pos (zero trivial)⟩

/-- Every precondition holds when nothing is to be shown. -/
theorem wp_always {A : Type} (program : Routine A) (volume : Volume) {post : A → Volume → Prop}
    (always : ∀ value volume', post value volume') :
    wp (libext2fs resolver True) program post volume := by
  induction program generalizing volume with
  | pure value => exact always value volume
  | call request next ih => exact ⟨trivial, fun answer volume' _ => ih answer volume'⟩

/-- A lookup of a parent directory ends with what the walk finds. -/
theorem parentAt_found (path : Path) (name : Name) (failure : Errcode → Routine Int) :
    wp (libext2fs resolver True) (directory <$> parentAt path name failure)
      (fun dir _ => dir = found (resolver.walk volume path)) volume := by
  rw [wp_map, parentAt, wp_bind]
  apply wp_library (.namei path)
  intro answer volume' allowed
  obtain ⟨failed, absent⟩ | ⟨success, _, there⟩ := found_resolved allowed.2
  · dsimp only
    rw [if_pos failed, wp_bind]
    apply wp_always
    intro ret volume''
    exact absent.symm
  · dsimp only
    rw [if_neg (not_not.mpr success)]
    exact there.symm

/-- `string_to_inode` gives zero when there is nothing. -/
theorem stringToInode_follow (path : Path) :
    wp (libext2fs resolver True)
      ((fun ino : Ino => if ino = 0 then none else some ino) <$> stringToInode path true)
      (fun dir _ => dir = found (resolver.walkFollow volume path)) volume := by
  rw [wp_map, stringToInode, if_pos rfl, wp_bind]
  apply wp_library (.nameiFollow path)
  intro answer volume' allowed
  obtain ⟨failed, absent⟩ | ⟨success, nonzero, there⟩ := found_resolved allowed.2
  · dsimp only
    rw [if_pos failed]
    exact absent.symm
  · dsimp only
    rw [if_neg (not_not.mpr success)]
    exact (if_neg nonzero).trans there.symm

/-- The directory that each function computes, by the walks that it makes. -/
def parentWalk (resolver : Resolver) (volume : Volume) (path : Path) : ParentUse → Option Ino
  | .unlinkFileByName =>
      match strrchr path with
      | none => some EXT2_ROOT_INO
      | some parts => found (resolver.walk volume parts.1)
  | .createFile | .rename | .link | .symlink =>
      match strrchr path with
      | none => none
      | some parts => found (resolver.walk volume (parts.1 ++ [slash]))

theorem parent_walk (use : ParentUse) (path : Path) :
    wp (libext2fs resolver True) (use.parent path)
      (fun dir _ => dir = parentWalk resolver volume path use) volume := by
  cases use with
  | createFile =>
      rw [ParentUse.parent, getParentDirIno, parentWalk]
      cases strrchr path with
      | none => rfl
      | some parts =>
          dsimp only
          rw [← resolver.walkFollow_slash]
          exact stringToInode_follow (parts.1 ++ [slash])
  | rename =>
      rw [ParentUse.parent, renameParent, parentWalk]
      cases strrchr path with
      | none => rfl
      | some parts =>
          rw [wp_map, wp_bind]
          apply wp_library (.namei (parts.1 ++ [slash]))
          intro answer volume' allowed
          obtain ⟨failed, absent⟩ | ⟨success, nonzero, there⟩ := found_resolved allowed.2
          · dsimp only
            rw [if_pos failed, wp_bind]
            apply wp_always
            intro ret volume''
            exact absent.symm
          · dsimp only
            rw [if_neg (not_not.mpr success)]
            show wp _ (if answer.2 = 0 then _ else _) _ _
            rw [if_neg nonzero]
            exact there.symm
  | link =>
      rw [ParentUse.parent, linkParent, parentWalk]
      cases strrchr path with
      | none => rfl
      | some parts => exact parentAt_found _ _ _
  | symlink =>
      rw [ParentUse.parent, symlinkParent, parentWalk]
      cases strrchr path with
      | none => rfl
      | some parts => exact parentAt_found _ _ _
  | unlinkFileByName =>
      rw [ParentUse.parent, unlinkParent, parentWalk]
      cases strrchr path with
      | none => rfl
      | some parts => exact parentAt_found _ _ _

/-- A walk that does not end at a symbolic link finds what a followed walk finds, and conversely. -/
theorem found_follow_iff (follows : Follows resolver volume) (path : Path) :
    found (resolver.walk volume path) = found (resolver.walkFollow volume path) ↔
      ∀ ino, found (resolver.walk volume path) = some ino → volume.isLnk ino = false := by
  constructor
  · intro same ino there
    rw [same] at there
    exact follows.follow_ends path ino (ok_of_found there)
  · intro plain
    cases there : found (resolver.walk volume path) with
    | none => exact (follows.walk_of_follow path there).symm
    | some ino =>
        rw [resolver.walkFollow_of_walk volume path ino (ok_of_found there) (plain ino there),
          ← ok_of_found there, there]

variable {Hidden : Type} {library : Handler Call Answer Hidden} {view : Hidden → Volume}

/-- All functions fail alike, or find one directory, when their walks do. -/
theorem parentsAgree_walk (honoured : (libext2fs resolver True).Honoured library view)
    (hidden : Hidden) (path : Path) :
    ParentsAgree resolver library view hidden path ↔
      (∃ dir, lookupDir resolver (view hidden) path = some dir ∧
        ∀ use, parentWalk resolver (view hidden) path use = some dir) ∨
      ∀ use, parentWalk resolver (view hidden) path use = none := by
  have computed (use : ParentUse) : ((use.parent path).run library hidden).1 =
      parentWalk resolver (view hidden) path use := run_of_wp honoured (parent_walk use path)
  simp only [ParentsAgree, computed]

/-- The functions agree on a split path when both of its walks find the same. -/
theorem parentsAgree_split (honoured : (libext2fs resolver True).Honoured library view)
    (hidden : Hidden) {path before : Path} {name : Name}
    (split : strrchr path = some (before, name)) :
    ParentsAgree resolver library view hidden path ↔
      found (resolver.walk (view hidden) before) =
        found (resolver.walk (view hidden) (before ++ [slash])) := by
  have kept (use : ParentUse) (other : use ≠ .unlinkFileByName) :
      parentWalk resolver (view hidden) path use =
        found (resolver.walk (view hidden) (before ++ [slash])) := by
    cases use with
    | unlinkFileByName => exact absurd rfl other
    | _ => simp only [parentWalk, split]
  have dropped : parentWalk resolver (view hidden) path .unlinkFileByName =
      found (resolver.walk (view hidden) before) := by
    simp only [parentWalk, split]
  have looked : lookupDir resolver (view hidden) path =
      found (resolver.walk (view hidden) (before ++ [slash])) := by
    simp only [lookupDir, split]
  have creates := kept .createFile (by decide)
  rw [parentsAgree_walk honoured, looked]
  constructor
  · rintro (⟨dir, _, all⟩ | all)
    · rw [← dropped, ← creates, all, all]
    · rw [← dropped, ← creates, all, all]
  · intro same
    have each (use : ParentUse) : parentWalk resolver (view hidden) path use =
        found (resolver.walk (view hidden) (before ++ [slash])) := by
      by_cases removes : use = .unlinkFileByName
      · rw [removes, dropped, same]
      · exact kept use removes
    cases there : found (resolver.walk (view hidden) (before ++ [slash])) with
    | none => exact .inr fun use => (each use).trans there
    | some dir => exact .inl ⟨dir, rfl, fun use => (each use).trans there⟩

/-- The functions compute one parent directory exactly when the path is unambiguous. -/
theorem parents_agree_iff (honoured : (libext2fs resolver True).Honoured library view)
    (hidden : Hidden) (follows : Follows resolver (view hidden)) (path : Path) :
    ParentsAgree resolver library view hidden path ↔ Unambiguous resolver (view hidden) path := by
  cases split : strrchr path with
  | none =>
      constructor
      · intro agree
        have removes : parentWalk resolver (view hidden) path .unlinkFileByName =
            some EXT2_ROOT_INO := by
          simp only [parentWalk, split]
        have creates : parentWalk resolver (view hidden) path .createFile = none := by
          simp only [parentWalk, split]
        obtain ⟨dir, _, all⟩ | all := (parentsAgree_walk honoured hidden path).mp agree
        · cases creates.symm.trans (all .createFile)
        · cases removes.symm.trans (all .unlinkFileByName)
      · rintro ⟨before, name, present, _⟩
        rw [split] at present
        cases present
  | some parts =>
      obtain ⟨before, name⟩ := parts
      have unfolded : Unambiguous resolver (view hidden) path ↔
          (before.getLast? ≠ some slash → ∀ ino,
            found (resolver.walk (view hidden) before) = some ino → (view hidden).isLnk ino = false) ∧
          (before.getLast? = some slash → found (resolver.walk (view hidden) before) ≠ none →
            found (resolver.walk (view hidden) (before ++ [slash])) ≠ none) := by
        rw [Unambiguous, split]
        constructor
        · rintro ⟨_, _, same, conditions⟩
          obtain ⟨rfl, rfl⟩ := Prod.mk.inj (Option.some.inj same)
          exact conditions
        · intro conditions
          exact ⟨before, name, rfl, conditions⟩
      rw [unfolded, parentsAgree_split honoured hidden split]
      by_cases doubled : before.getLast? = some slash
      · simp only [doubled, ne_eq, not_true, false_implies, true_and, true_implies]
        obtain absent | same := follows.slash_again before doubled
        · rw [absent]
          constructor
          · intro none there
            exact absurd none there
          · intro condition
            by_contra there
            exact condition there rfl
        · rw [same]
          exact iff_of_true rfl id
      · simp only [doubled, ne_eq, not_false_eq_true, true_implies, false_implies, and_true]
        rw [follows.slash_follows before doubled]
        exact found_follow_iff follows before

theorem descend_plain {dir ino : Ino} {name : Name} (reached : descend volume dir name = .ok ino) :
    volume.isLnk ino = false := by
  by_cases nameless : name = []
  · rw [descend, if_pos nameless] at reached
    cases reached
  · rw [descend, if_neg nameless] at reached
    cases looked : volume.lookup dir name with
    | error code =>
        rw [looked] at reached
        cases reached
    | ok target =>
        rw [looked] at reached
        cases link : volume.isLnk target with
        | true =>
            simp only [Except.bind, link] at reached
            cases reached
        | false =>
            simp only [Except.bind, link] at reached
            rw [← Except.ok.inj reached]
            exact link

/-- Without links to follow, following a walk only adds the check at its end. -/
theorem walkNames_followed (dir : Ino) (plain : volume.isLnk dir = false) (names : List Name)
    {ino : Ino} (reached : walkNames volume true dir names = .ok ino) :
    walkNames volume false dir names = .ok ino ∧ volume.isLnk ino = false := by
  induction names generalizing dir with
  | nil =>
      rw [← Except.ok.inj reached]
      exact ⟨rfl, plain⟩
  | cons first rest ih =>
      cases rest with
      | nil =>
          change arrive volume true dir first = .ok ino at reached
          change arrive volume false dir first = .ok ino ∧ _
          by_cases nameless : first = []
          · rw [arrive, if_pos nameless] at reached ⊢
            rw [← Except.ok.inj reached]
            exact ⟨rfl, plain⟩
          · rw [arrive, if_neg nameless] at reached ⊢
            cases looked : volume.lookup dir first with
            | error code =>
                rw [looked] at reached
                cases reached
            | ok target =>
                rw [looked] at reached
                cases link : volume.isLnk target with
                | true =>
                    simp only [Except.bind, link] at reached
                    cases reached
                | false =>
                    simp only [Except.bind, link] at reached
                    rw [← Except.ok.inj reached]
                    exact ⟨rfl, link⟩
      | cons second rest =>
          change (descend volume dir first).bind _ = .ok ino at reached
          change (descend volume dir first).bind _ = .ok ino ∧ _
          cases next : descend volume dir first with
          | error code =>
              rw [next] at reached
              cases reached
          | ok dir' =>
              rw [next] at reached
              exact ih dir' (descend_plain next) reached

/-- The last component of a path that does not end with a slash has a name. -/
theorem components_last {before : Path} (nonempty : before ≠ [])
    (single : before.getLast? ≠ some slash) :
    ∃ names name, components before = names ++ [name] ∧ name ≠ [] := by
  cases split : strrchr before with
  | none =>
      have clean := strrchr_eq_none_iff.mp split
      refine ⟨[], before, ?_, nonempty⟩
      cases before with
      | nil => exact absurd rfl nonempty
      | cons byte rest =>
          have other : byte ≠ slash := by
            intro same
            rw [same] at clean
            exact clean List.mem_cons_self
          rw [components, if_neg other, splitPath_clean clean]
          rfl
  | some parts =>
      obtain ⟨joined, clean⟩ := strrchr_eq_some split
      refine ⟨initial parts.1, parts.2, ?_, ?_⟩
      · rw [joined, components_append parts.1 clean]
      · intro empty
        rw [joined, empty] at single
        exact single List.getLast?_concat

theorem linkless_slash (before : Path) :
    linkless.walk volume (before ++ [slash]) = descendAll volume EXT2_ROOT_INO (initial before) := by
  show walkNames volume false EXT2_ROOT_INO (components (before ++ slash :: [])) = _
  rw [components_append before List.not_mem_nil, walkNames_append]
  cases descendAll volume EXT2_ROOT_INO (initial before) with
  | error code => rfl
  | ok dir => rfl

/-- A resolver without links keeps the rules for slashes and links. -/
theorem linkless_follows (plain : volume.isLnk EXT2_ROOT_INO = false) :
    Follows linkless volume where
  slash_follows before single := by
    rw [linkless_slash]
    by_cases empty : before = []
    · rw [empty]
      rfl
    · obtain ⟨names, name, last, named⟩ := components_last empty single
      show _ = walkNames volume true EXT2_ROOT_INO (components before)
      rw [initial, if_neg empty, last, descendAll_append, walkNames_append]
      cases descendAll volume EXT2_ROOT_INO names with
      | error code => rfl
      | ok dir =>
          show descend volume dir name = arrive volume true dir name
          rw [descend, arrive, if_neg named, if_neg named]
          rfl
  slash_again before doubled := by
    left
    obtain ⟨inner, joined⟩ := List.getLast?_eq_some_iff.mp doubled
    have nonempty : before ≠ [] := by
      rw [joined]
      simp
    rw [linkless_slash, initial, if_neg nonempty, joined,
      components_append inner List.not_mem_nil, descendAll_append]
    cases descendAll volume EXT2_ROOT_INO (initial inner) with
    | error code => rfl
    | ok dir => rfl
  walk_of_follow path absent := by
    by_contra there
    obtain ⟨ino, there⟩ := Option.ne_none_iff_exists'.mp there
    have reached := (walkNames_followed EXT2_ROOT_INO plain _ (ok_of_found there)).1
    have same : found (linkless.walk volume path) = some ino := by
      rw [← there, ok_of_found there]
      exact congrArg found reached
    rw [absent] at same
    cases same
  follow_ends path ino reached := (walkNames_followed EXT2_ROOT_INO plain _ reached).2

/-- A root with one directory. -/
def withDirectory (name : Name) : Volume :=
  let root := Volume.holding []
  root.makeDir EXT2_ROOT_INO 11 name (LINUX_S_IFDIR ||| 0o755#16) (root.entries EXT2_ROOT_INO) []

/-- All functions find the directory of a file in it. -/
theorem parents_agree_in_directory :
    ParentsAgree linkless reference id (withDirectory [0x64]) [0x2f, 0x64, 0x2f, 0x78] := by
  apply (parents_agree_iff (reference_honours True) _ (linkless_follows (by decide)) _).mpr
  refine ⟨[0x2f, 0x64], [0x78], by decide, ?_, ?_⟩
  · intro _ ino there
    have reached : some 11 = some ino := there
    rw [← Option.some.inj reached]
    decide
  · intro doubled
    exact absurd doubled (by decide)

/-- Without a slash, only the removal of a name has a parent directory. -/
theorem parents_differ_without_slash :
    ¬∀ (library : Handler Call Answer Volume) (volume : Volume) (raw path : Path),
      (libext2fs linkless True).Honoured library id → Follows linkless volume →
      usePath raw = some path → (∃ byte ∈ path, byte ≠ slash) →
      ParentsAgree linkless library id volume path := by
  intro agree
  have same := agree reference (Volume.holding [[0x61]]) [0x61] [0x61] (reference_honours True)
    (linkless_follows (by decide)) (by decide) (by decide)
  have creates : ((ParentUse.createFile.parent [0x61]).run reference
      (Volume.holding [[0x61]])).1 = none := by decide
  obtain ⟨dir, _, all⟩ | all := same
  · cases creates.symm.trans (all .createFile)
  · exact absurd (all .unlinkFileByName) (by decide)

end NodeExt2fs.Names
