import NodeExt2fs.Proof.Trees.Balanced
import NodeExt2fs.Proof.Trees.Bindings

/-!
This file states what each call does to the names of a filesystem, and that the C functions do it.
-/

namespace NodeExt2fs.Trees
open Programs Structures Glue Library Js
open Program (wp wp_bind wp_ite wp_mono wp_counting run_of_wp)

variable {Hidden : Type} {resolver : Resolver} {exact rooted : Prop} {volume volume' : Volume}
  {library : Handler Call Answer Hidden} {view : Hidden → Volume}

/-- The last name of a path and the directory that the rest leads to. -/
def Spot (resolver : Resolver) (volume : Volume) (path : Path) (dir : Ino) (name : Name) : Prop :=
  ∃ before, strrchr path = some (before, name) ∧ resolver.walk volume (before ++ [slash]) = .ok dir

/-- An answer that is an error. A descriptor is not negative. -/
def Fails : NameOperation → Int → Prop
  | .open _ _ _, ret => ret < 0
  | _, ret => ret ≠ 0

/-- The names that a call takes and gives, by the paths as they are before it and by what it answers.
A call without an answer was rejected. A file may have been created by an `open` that fails, a link by
a `symlink` that fails, and a rename that fails may have removed its target or moved the name. A
`link` into a directory that is missing answers zero. -/
inductive Specified (resolver : Resolver) (volume : Volume) :
    NameOperation → Option Int → Exchange Binding → Prop where
  | rejected {operation : NameOperation} : Specified resolver volume operation none .keep
  | failed {operation : NameOperation} {ret : Int} (fails : Fails operation ret) :
      Specified resolver volume operation (some ret) .keep
  | opened {raw : List UInt8} {path : Path} {flags mode : BitVec 32} {ret : Int} {ino : Ino}
      (used : usePath raw = some path) (found : resolver.lookedUp volume path flags = .ok ino) :
      Specified resolver volume (.open raw flags mode) (some ret) .keep
  | created {raw : List UInt8} {path : Path} {flags mode : BitVec 32} {ret : Int} {dir ino : Ino}
      {name : Name} (used : usePath raw = some path)
      (missing : ∀ found, resolver.lookedUp volume path flags = .ok found → found = 0)
      (creates : hasFlag flags O_CREAT = true) (spot : Spot resolver volume path dir name)
      (fresh : volume.inUse ino = false) :
      Specified resolver volume (.open raw flags mode) (some ret) (.add ⟨dir, name, ino⟩)
  | founded {raw : List UInt8} {path : Path} {mode : BitVec 32} {dir ino : Ino} {name : Name}
      (used : usePath raw = some path) (spot : Spot resolver volume path dir name)
      (absent : volume.find dir name = none) (fresh : volume.inUse ino = false) :
      Specified resolver volume (.mkdir raw mode) (some 0) (.add ⟨dir, name, ino⟩)
  | linked {existingPath newPath : List UInt8} {src dest : Path} {dir ino : Ino} {name : Name}
      (source : usePath existingPath = some src) (target : usePath newPath = some dest)
      (spot : Spot resolver volume dest dir name) (found : resolver.walk volume src = .ok ino) :
      Specified resolver volume (.link existingPath newPath) (some 0) (.add ⟨dir, name, ino⟩)
  | unlinked {existingPath newPath : List UInt8} {dest : Path} (target : usePath newPath = some dest)
      (nowhere : ∀ dir name, ¬Spot resolver volume dest dir name) :
      Specified resolver volume (.link existingPath newPath) (some 0) .keep
  | symlinked {target raw : List UInt8} {dest : Path} {ret : Int} {dir ino : Ino} {name : Name}
      (used : usePath raw = some dest) (spot : Spot resolver volume dest dir name)
      (absent : volume.find dir name = none) (fresh : volume.inUse ino = false) :
      Specified resolver volume (.symlink target raw) (some ret) (.add ⟨dir, name, ino⟩)
  | alike {existingPath newPath : List UInt8} {src dest : Path} {ino : Ino}
      (source : usePath existingPath = some src) (target : usePath newPath = some dest)
      (found : resolver.walk volume src = .ok ino) (same : resolver.walk volume dest = .ok ino) :
      Specified resolver volume (.rename existingPath newPath) (some 0) .keep
  | moved {existingPath newPath : List UInt8} {src dest : Path} {ret : Int} {fromDir toDir ino : Ino}
      {fromName toName : Name} (source : usePath existingPath = some src)
      (target : usePath newPath = some dest) (fromSpot : Spot resolver volume src fromDir fromName)
      (toSpot : Spot resolver volume dest toDir toName) (found : resolver.walk volume src = .ok ino)
      (absent : resolver.walk volume dest = .error EXT2_ET_FILE_NOT_FOUND) :
      Specified resolver volume (.rename existingPath newPath) (some ret)
        (.replace ⟨fromDir, fromName, ino⟩ ⟨toDir, toName, ino⟩)
  | supplanted {existingPath newPath : List UInt8} {src dest : Path} {ret : Int}
      {fromDir toDir ino gone : Ino} {fromName toName : Name}
      (source : usePath existingPath = some src) (target : usePath newPath = some dest)
      (fromSpot : Spot resolver volume src fromDir fromName)
      (toSpot : Spot resolver volume dest toDir toName) (found : resolver.walk volume src = .ok ino)
      (there : resolver.walk volume dest = .ok gone) (differ : gone ≠ ino) :
      Specified resolver volume (.rename existingPath newPath) (some ret)
        (.supplant ⟨fromDir, fromName, ino⟩ ⟨toDir, toName, gone⟩ ⟨toDir, toName, ino⟩)
  | cleared {existingPath newPath : List UInt8} {dest : Path} {ret : Int} {toDir gone : Ino}
      {toName : Name} (target : usePath newPath = some dest) (bad : ret ≠ 0)
      (toSpot : Spot resolver volume dest toDir toName)
      (there : resolver.walk volume dest = .ok gone) :
      Specified resolver volume (.rename existingPath newPath) (some ret)
        (.remove ⟨toDir, toName, gone⟩)
  | unfiled {raw : List UInt8} {path : Path} {dir ino : Ino} {name : Name}
      (used : usePath raw = some path) (located : Located resolver volume path dir name)
      (found : resolver.walk volume path = .ok ino) (isFile : volume.isDir ino = false) :
      Specified resolver volume (.unlink raw) (some 0) (.remove ⟨dir, name, ino⟩)
  | emptied {raw : List UInt8} {path : Path} {dir ino : Ino} {name : Name}
      (used : usePath raw = some path) (located : Located resolver volume path dir name)
      (found : resolver.walk volume path = .ok ino) (vacant : Vacant volume ino) :
      Specified resolver volume (.rmdir raw) (some 0) (.remove ⟨dir, name, ino⟩)

/-- What a call that answered leaves of the names, of the modes and of the file types in the entries. -/
def Refines (resolver : Resolver) (volume : Volume) (operation : NameOperation) (answer : Option Int)
    (volume' : Volume) : Prop :=
  (∃ change, Specified resolver volume operation answer change ∧
    change.Leads (bindings volume) (bindings volume')) ∧ Recorded volume volume'

theorem refines_kept {operation : NameOperation} {answer : Option Int}
    (specified : Specified resolver volume operation answer .keep) (same : SameNames volume volume') :
    Refines resolver volume operation answer volume' :=
  ⟨⟨.keep, specified, Exchange.leads_keep same.bindings⟩, same.modes.recorded⟩

theorem refines_failed {operation : NameOperation} {ret : Int} (fails : Fails operation ret)
    (same : SameNames volume volume') : Refines resolver volume operation (some ret) volume' :=
  refines_kept (.failed fails) same

theorem refines_added {operation : NameOperation} {answer : Option Int} {binding : Binding}
    (specified : Specified resolver volume operation answer (.add binding))
    (added : bindings volume' = binding ::ₘ bindings volume) (recorded : Recorded volume volume') :
    Refines resolver volume operation answer volume' :=
  ⟨⟨_, specified, Exchange.leads_add added⟩, recorded⟩

theorem refines_removed {operation : NameOperation} {answer : Option Int} {binding : Binding}
    (specified : Specified resolver volume operation answer (.remove binding))
    (removed : bindings volume = binding ::ₘ bindings volume') (modes : SameModes volume volume') :
    Refines resolver volume operation answer volume' :=
  ⟨⟨_, specified, Exchange.leads_remove removed⟩, modes.recorded⟩

theorem open_refines (closed : resolver.Closed) (formed : volume.WellFormed exact rooted)
    {raw : List UInt8} {path : Path} {flags mode : BitVec 32} (used : usePath raw = some path)
    (kept : ∀ ino, resolver.lookedUp volume path flags = .ok ino → volume.isDir ino = true →
      hasFlag flags O_TRUNC = true → hasFlag flags O_EXCL = true) :
    wp (libext2fs resolver True) (nodeExt2fsOpen path flags mode)
      (fun ret => Refines resolver volume (.open raw flags mode) (some ret)) volume := by
  apply wp_mono (nodeExt2fsOpen_opened trivial closed formed path flags mode kept)
  intro ret volume' outcome
  rcases outcome with ⟨negative | ⟨ino, found⟩, same⟩ | ⟨ino, made, created, same⟩
  · exact @refines_failed _ _ _ (.open raw flags mode) ret negative (names_same same)
  · exact refines_kept (.opened used found) (names_same same)
  · obtain ⟨before, name, dir, split, there, fresh, added, recorded⟩ :=
      bindings_filed formed.placed created.2.2
    have same := names_same same
    apply refines_added (.created used created.1 created.2.1 ⟨before, split, there⟩ fresh)
      (same.bindings.trans added)
    refine ⟨fun other inUse => ?_, same.modes.typed ∘ recorded.typed⟩
    rw [same.mode]
    exact recorded.mode other inUse

theorem mkdir_refines (closed : resolver.Closed) (placed : volume.Placed) {raw : List UInt8}
    {path : Path} {mode : BitVec 32} (used : usePath raw = some path) :
    wp (libext2fs resolver True) (nodeExt2fsMkdir path mode)
      (fun ret => Refines resolver volume (.mkdir raw mode) (some ret)) volume := by
  apply wp_mono (nodeExt2fsMkdir_founded trivial closed placed path mode)
  intro ret volume' outcome
  rcases outcome with ⟨zero, made⟩ | ⟨bad, same⟩
  · obtain ⟨before, name, dir, ino, split, there, absent, fresh, added, recorded⟩ :=
      bindings_founded placed made
    rw [zero]
    exact refines_added (.founded used ⟨before, split, there⟩ absent fresh) added recorded
  · exact refines_failed bad (same ▸ .refl volume)

theorem symlink_refines (closed : resolver.Closed) (placed : volume.Placed) {target raw : List UInt8}
    {src dest : Path} (used : usePath raw = some dest) :
    wp (libext2fs resolver True) (nodeExt2fsSymlink src dest)
      (fun ret => Refines resolver volume (.symlink target raw) (some ret)) volume := by
  apply wp_mono (nodeExt2fsSymlink_symlinked closed placed src dest
    fun _ _ split => last_of_usePath used split)
  intro ret volume' outcome
  rcases outcome with made | ⟨bad, like⟩
  · obtain ⟨before, name, dir, ino, split, there, absent, fresh, added, recorded⟩ :=
      bindings_symlinked placed made
    exact refines_added (.symlinked used ⟨before, split, there⟩ absent fresh) added recorded
  · exact refines_failed bad (names_like like)

theorem link_refines (closed : resolver.Closed) (placed : volume.Placed)
    {existingPath newPath : List UInt8} {src dest : Path} (source : usePath existingPath = some src)
    (target : usePath newPath = some dest)
    (linkable : ∀ before name parent ino, strrchr dest = some (before, name) →
      resolver.walk volume (before ++ [slash]) = .ok parent → resolver.walk volume src = .ok ino →
      Linkable exact volume ino parent name) :
    wp (libext2fs resolver True) (nodeExt2fsLink src dest)
      (fun ret => Refines resolver volume (.link existingPath newPath) (some ret)) volume := by
  have failed {ret : Int} (bad : ret ≠ 0) :
      Refines resolver volume (.link existingPath newPath) (some ret) volume :=
    refines_failed bad (.refl volume)
  rw [nodeExt2fsLink, wp_bind]
  apply wp_library .strdup
  intro duplicated volume₁ same
  rw [show volume₁ = _ from same, wp_ite]
  refine ⟨fun _ => failed (by decide), fun _ => ?_⟩
  rcases split : strrchr dest with _ | ⟨before, name⟩
  · exact failed (by decide)
  · dsimp only
    rw [wp_bind]
    apply wp_library (.namei (before ++ [slash]))
    intro parent volume₂ allowed
    obtain ⟨same, resolved⟩ := allowed
    rw [same, wp_ite]
    refine ⟨fun bad => refines_kept (.unlinked target ?_) (.refl volume), fun fine => ?_⟩
    · rintro dir name' ⟨before', split', there⟩
      rw [← (Prod.mk.inj (Option.some.inj (split.symm.trans split'))).1] at there
      rw [there] at resolved
      rcases resolved with ⟨zero, _⟩ | ⟨null, _⟩
      · exact bad zero
      · exact ne_null placed (used_of_walk closed placed (.inl there)) (null trivial)
    · have there := (walk_of_resolved resolved (not_not.mp fine)).1
      apply wp_mono (linkInto_raised trivial src parent.2 name)
      intro ret volume' outcome
      rcases outcome with ⟨bad, same⟩ | raised
      · exact refines_failed bad (same ▸ .refl volume)
      · rcases bindings_raised placed (used_of_walk closed placed (.inl there))
          (fun ino found => linkable before name parent.2 ino split there found) raised with
          ⟨bad, same⟩ | ⟨zero, ino, found, added, modes⟩
        · exact refines_failed bad same
        · rw [zero]
          exact refines_added (.linked source target ⟨before, split, there⟩ found) added modes.recorded

theorem unlink_refines (closed : resolver.Closed) (placed : volume.Placed) {raw : List UInt8}
    {path : Path} (used : usePath raw = some path) :
    wp (libext2fs resolver True) (nodeExt2fsUnlink path)
      (fun ret => Refines resolver volume (.unlink raw) (some ret)) volume := by
  apply wp_mono (nodeExt2fsUnlink_unfiled trivial closed placed path)
  intro ret volume' outcome
  rcases outcome with ⟨zero, dir, name, entry, gone⟩ | ⟨bad, same⟩
  · rw [zero]
    obtain ⟨removed, modes⟩ := bindings_unfiled placed gone
    exact refines_removed (.unfiled used gone.located gone.walked gone.isFile) removed modes
  · exact refines_failed bad (same ▸ .refl volume)

theorem rmdir_refines (closed : resolver.Closed) (formed : volume.WellFormed exact rooted)
    {raw : List UInt8} {path : Path} (used : usePath raw = some path)
    (proper : ∀ ino dir name, resolver.walk volume path = .ok ino → Vacant volume ino →
      Located resolver volume path dir name → name ≠ dot ∧ name ≠ dotdot) :
    wp (libext2fs resolver True) (nodeExt2fsRmdir path)
      (fun ret => Refines resolver volume (.rmdir raw) (some ret)) volume := by
  apply (@wp_counting _ _ _ _ _ frees _ _ _ 0).mp
  apply wp_mono (nodeExt2fsRmdir_emptied trivial closed formed.placed
    (fun dir entry member plain vacant => .inr (two_links formed dir entry member plain vacant)) path
    (fun ino dir name walked vacant located _ => proper ino dir name walked vacant located) 0)
  intro ret state' outcome
  rcases outcome.1 with ⟨zero, _, dir, name, entry, gone⟩ | ⟨bad, same⟩
  · rw [zero]
    obtain ⟨removed, modes⟩ := bindings_emptied formed.placed gone
    exact refines_removed (.emptied used gone.located gone.walked gone.vacant) removed modes
  · rw [same]
    exact refines_failed bad (.refl volume)

section Rename

variable {existingPath newPath : List UInt8} {fromPath toPath source target : Path}
  {fromName toName : Name} {fromIno fromDir toIno toDir : Ino}

/-- The names once the target has gone. -/
theorem renameTarget_leads (placed : volume.Placed)
    (gone : toIno = 0 ∧ volume' = volume ∨
      toIno ≠ 0 ∧ TargetRemoved resolver volume toPath toDir toName toIno volume') :
    (toIno = 0 ∧ bindings volume' = bindings volume ∨ toIno ≠ 0 ∧
      bindings volume = ⟨toDir, toName, toIno⟩ ::ₘ bindings volume') ∧ SameModes volume volume' := by
  rcases gone with ⟨none, same⟩ | ⟨there, removed⟩
  · rw [same]
    exact ⟨.inl ⟨none, rfl⟩, (SameNames.refl volume).modes⟩
  · obtain ⟨gone, modes⟩ := bindings_targetRemoved placed removed
    exact ⟨.inr ⟨there, gone⟩, modes⟩

/-- What the whole rename does to the names, once its move is known. -/
theorem rename_specified (source : usePath existingPath = some fromPath)
    (target : usePath newPath = some toPath) (fromSpot : Spot resolver volume fromPath fromDir fromName)
    (toSpot : Spot resolver volume toPath toDir toName)
    (walked : resolver.walk volume fromPath = .ok fromIno)
    (targeted : Targeted resolver volume toPath fromIno toIno) {middle : Volume}
    (gone : (toIno = 0 ∧ bindings middle = bindings volume ∨ toIno ≠ 0 ∧
      bindings volume = ⟨toDir, toName, toIno⟩ ::ₘ bindings middle) ∧ SameModes volume middle)
    {ret : Int} (moved : ret ≠ 0 ∧ SameNames middle volume' ∨
      (Exchange.replace ⟨fromDir, fromName, fromIno⟩ ⟨toDir, toName, fromIno⟩).Leads (bindings middle)
        (bindings volume') ∧ SameModes middle volume') :
    Refines resolver volume (.rename existingPath newPath) (some ret) volume' := by
  obtain ⟨gone, modes⟩ := gone
  rcases targeted with ⟨none, absent⟩ | ⟨there, found, differ⟩
  · have same : bindings middle = bindings volume := by
      rcases gone with ⟨_, same⟩ | ⟨bad, _⟩
      · exact same
      · exact absurd none bad
    rcases moved with ⟨bad, kept⟩ | ⟨leads, later⟩
    · exact ⟨⟨.keep, .failed bad, Exchange.leads_keep (kept.bindings.trans same)⟩,
        (modes.trans kept.modes).recorded⟩
    · rw [same] at leads
      exact ⟨⟨_, .moved source target fromSpot toSpot walked absent, leads⟩, (modes.trans later).recorded⟩
  · have removed := (gone.resolve_left fun bad => there bad.1).2
    rcases moved with ⟨bad, kept⟩ | ⟨leads, later⟩
    · rw [← kept.bindings] at removed
      exact refines_removed (.cleared target bad toSpot found) removed (modes.trans kept.modes)
    · exact ⟨⟨_, .supplanted source target fromSpot toSpot walked found differ,
        (Exchange.leads_remove removed).supplants leads⟩, (modes.trans later).recorded⟩

theorem rename_refines (closed : resolver.Closed) (formed : volume.WellFormed exact rooted)
    (source : usePath existingPath = some fromPath) (target : usePath newPath = some toPath)
    (proper : ∀ target toName toIno, strrchr toPath = some (target, toName) →
      resolver.walk volume toPath = .ok toIno → Vacant volume toIno →
      toName ≠ dot ∧ toName ≠ dotdot)
    (movable : ∀ source fromName target toName fromIno fromDir toIno toDir,
      strrchr fromPath = some (source, fromName) → strrchr toPath = some (target, toName) →
      resolver.walk volume fromPath = .ok fromIno →
      resolver.walk volume (source ++ [slash]) = .ok fromDir →
      resolver.walk volume (target ++ [slash]) = .ok toDir →
      Targeted resolver volume toPath fromIno toIno →
      (toIno ≠ 0 → volume.isDir toIno = true → Vacant volume toIno) →
      Movable resolver rooted volume source fromName toName fromIno fromDir toIno toDir) :
    wp (libext2fs resolver True) (nodeExt2fsRename fromPath toPath)
      (fun ret => Refines resolver volume (.rename existingPath newPath) (some ret)) volume := by
  have failed (ret : Int) (bad : ret ≠ 0) :
      Refines resolver volume (.rename existingPath newPath) (some ret) volume :=
    refines_failed bad (.refl volume)
  apply wp_rename_answered (follows_of_refines (.refl _)) fromPath toPath failed
  · exact fun ino found same => refines_kept (.alike source target found same) (.refl volume)
  intro fromIno toIno _ walked missing present
  apply wp_renameBetween_answered (follows_of_refines (.refl _)) fromPath toPath fromIno toIno failed
  intro fromDir toDir old fromName new toName from_split to_split from_parent to_parent _ _
  have targeted : Targeted resolver volume toPath fromIno toIno := by
    by_cases none : toIno = 0
    · exact .inl ⟨none, missing none⟩
    · exact .inr ⟨none, present none⟩
  have vacantly (there : toIno ≠ 0) : Vacant volume toIno → toName ≠ dot ∧ toName ≠ dotdot :=
    proper new toName toIno to_split (present there).1
  apply wp_mono (renameTarget_removed trivial closed formed.placed
    (fun dir entry member plain vacant => .inr (two_links formed dir entry member plain vacant))
    to_split to_parent (fun there => (present there).1) vacantly)
  intro ret volume' outcome
  rcases outcome with ⟨zero, gone⟩ | ⟨bad, same⟩
  · refine ⟨fun bad => absurd zero bad, fun _ => ?_⟩
    have outside : (toIno ≠ 0 → volume.isDir toDir = true ∧ toDir ≠ toIno ∧
        (volume.isDir toIno = true → Vacant volume toIno)) ∧ volume'.WellFormed exact rooted ∧
        Cleared volume volume' toDir toName toIno := by
      rcases gone with ⟨none, same⟩ | ⟨there, removed⟩
      · rw [same, none]
        exact ⟨fun bad => absurd rfl bad, formed, .refl volume toDir toName⟩
      · exact ⟨fun _ => (removed.spared formed.placed).1, removed.cleared formed there⟩
    obtain ⟨vacant, formed', cleared⟩ := outside
    have movable := movable old fromName new toName fromIno fromDir toIno toDir from_split to_split
      walked from_parent to_parent targeted fun there => (vacant there).2.2
    obtain ⟨entry, moving⟩ := moving_of_spared closed formed.placed from_split to_split
      (last_of_usePath source from_split) (last_of_usePath target to_split) walked from_parent to_parent
      targeted movable.proper vacantly vacant cleared.spared
    apply wp_mono (renameMove_moved trivial movable cleared.spared formed'.placed moving from_split)
    intro ret' volume'' result
    apply rename_specified source target ⟨old, from_split, from_parent⟩ ⟨new, to_split, to_parent⟩
      walked targeted (renameTarget_leads formed.placed gone)
    rcases result with ⟨bad, like⟩ | moved
    · exact .inl ⟨bad, names_like like⟩
    · refine .inr (bindings_moved formed' moving (fun directory differ => ?_) moved)
      exact cleared.room (movable.room (cleared.spared.isDir ▸ directory) differ)
  · exact ⟨fun _ => same ▸ failed ret bad, fun zero => absurd zero bad⟩

end Rename

/-- The C function of an orderly call does what is specified. -/
theorem routine_refines (closed : resolver.Closed) (formed : volume.WellFormed exact rooted)
    {operation : NameOperation} (orderly : Orderly resolver exact rooted volume operation)
    {routine : Routine Int} (named : operation.routine? = some routine) :
    wp (libext2fs resolver True) routine
      (fun ret => Refines resolver volume operation (some ret)) volume := by
  cases operation with
  | «open» raw flags mode =>
      obtain ⟨path, used, same⟩ := Option.bind_eq_some_iff.mp named
      rw [← Option.some.inj same]
      exact open_refines closed formed used fun ino => orderly path ino used
  | mkdir raw mode =>
      obtain ⟨path, used, same⟩ := Option.bind_eq_some_iff.mp named
      rw [← Option.some.inj same]
      exact mkdir_refines closed formed.placed used
  | link existingPath newPath =>
      obtain ⟨src, source, rest⟩ := Option.bind_eq_some_iff.mp named
      obtain ⟨dest, target, same⟩ := Option.bind_eq_some_iff.mp rest
      rw [← Option.some.inj same]
      exact link_refines closed formed.placed source target
        fun before name parent ino => orderly src dest before name parent ino source target
  | symlink target raw =>
      obtain ⟨src, _, rest⟩ := Option.bind_eq_some_iff.mp named
      obtain ⟨dest, used, same⟩ := Option.bind_eq_some_iff.mp rest
      rw [← Option.some.inj same]
      exact symlink_refines closed formed.placed used
  | rename existingPath newPath =>
      obtain ⟨fromPath, source, rest⟩ := Option.bind_eq_some_iff.mp named
      obtain ⟨toPath, target, same⟩ := Option.bind_eq_some_iff.mp rest
      rw [← Option.some.inj same]
      obtain ⟨proper, movable⟩ := orderly fromPath toPath source target
      exact rename_refines closed formed source target proper movable
  | unlink raw =>
      obtain ⟨path, used, same⟩ := Option.bind_eq_some_iff.mp named
      rw [← Option.some.inj same]
      exact unlink_refines closed formed.placed used
  | rmdir raw =>
      obtain ⟨path, used, same⟩ := Option.bind_eq_some_iff.mp named
      rw [← Option.some.inj same]
      exact rmdir_refines closed formed used fun ino dir name => orderly path ino dir name used

/-- What a call answers, when its paths are accepted. -/
def answered (library : Handler Call Answer Hidden) (hidden : Hidden) (operation : NameOperation) :
    Option Int :=
  operation.routine?.map fun routine => (routine.run library hidden).1

/-- One call of a run of orderly calls. -/
theorem refines_reached (closed : resolver.Closed)
    (honoured : (libext2fs resolver True).Honoured library view) {first hidden hidden' : Hidden}
    (initial : (view first).WellFormed exact rooted)
    (reached : Reaches (NameOperation.step library)
      (fun hidden => Orderly resolver exact rooted (view hidden)) first hidden)
    {operation : NameOperation} (orderly : Orderly resolver exact rooted (view hidden) operation)
    (taken : operation.step library hidden = some hidden') :
    Refines resolver (view hidden) operation (answered library hidden operation) (view hidden') := by
  have formed := formed_reached closed honoured initial reached
  rw [← Option.some.inj taken, answered]
  cases named : operation.routine? with
  | none => exact refines_kept .rejected (.refl _)
  | some routine => exact run_of_wp honoured (routine_refines closed formed orderly named)

/-- In a run of orderly calls each call takes and gives the names that are specified for it. -/
theorem names_refined (closed : resolver.Closed)
    (honoured : (libext2fs resolver True).Honoured library view) {first hidden hidden' : Hidden}
    (initial : (view first).WellFormed exact rooted)
    (reached : Reaches (NameOperation.step library)
      (fun hidden => Orderly resolver exact rooted (view hidden)) first hidden)
    {operation : NameOperation} (orderly : Orderly resolver exact rooted (view hidden) operation)
    (taken : operation.step library hidden = some hidden') :
    Refines resolver (view hidden) operation (answered library hidden operation) (view hidden') :=
  refines_reached closed honoured initial reached orderly taken

/-- The second name of a file is one more. -/
theorem names_refined_link :
    ∃ volume, (NameOperation.link [0x2f, 0x61] [0x2f, 0x62]).step reference
      (Volume.holding [[0x61]]) = some volume ∧
      Refines linkless (Volume.holding [[0x61]]) (.link [0x2f, 0x61] [0x2f, 0x62]) (some 0) volume :=
  ⟨_, rfl, names_refined linkless_closed (reference_honours True)
    (formed_holding (by decide) (List.cons_ne_nil _ _) True True) .first (orderly_link True True) rfl⟩

/-- In a run of orderly calls every entry, new or moved, has the file type of its inode. -/
theorem types_agree (closed : resolver.Closed)
    (honoured : (libext2fs resolver True).Honoured library view) {first hidden : Hidden}
    (initial : (view first).WellFormed exact rooted) (typed : Typed (view first))
    (reached : Reaches (NameOperation.step library)
      (fun hidden => Orderly resolver exact rooted (view hidden)) first hidden) :
    Typed (view hidden) := by
  induction reached with
  | first => exact typed
  | next before orderly taken ih =>
      exact (refines_reached closed honoured initial before orderly taken).2.typed ih

theorem typed_holding (name : Name) : Typed (Volume.holding [name]) := by
  intro place member
  rw [names_holding, Multiset.mem_coe, List.mem_map] at member
  obtain ⟨entry, inside, same⟩ := member
  have three : entry = { inode := EXT2_ROOT_INO, name := dot, fileType := EXT2_FT_DIR } ∨
      entry = { inode := EXT2_ROOT_INO, name := dotdot, fileType := EXT2_FT_DIR } ∨
      entry = { inode := 11, name := name, fileType := EXT2_FT_REG_FILE } := by
    simpa [Volume.holding, Volume.dotEntries] using inside
  rw [← same]
  rcases three with own | up | file
  · rw [own]
    exact (by decide : EXT2_FT_DIR = ext2FileType (LINUX_S_IFDIR ||| 0o755#16))
  · rw [up]
    exact (by decide : EXT2_FT_DIR = ext2FileType (LINUX_S_IFDIR ||| 0o755#16))
  · rw [file]
    exact (by decide : EXT2_FT_REG_FILE = ext2FileType (LINUX_S_IFREG ||| 0o644#16))

/-- Both entries of a file with two names are of a regular file. -/
theorem types_agree_link :
    ∃ volume, (NameOperation.link [0x2f, 0x61] [0x2f, 0x62]).step reference
      (Volume.holding [[0x61]]) = some volume ∧ Typed volume :=
  ⟨_, rfl, types_agree linkless_closed (reference_honours True)
    (formed_holding (by decide) (List.cons_ne_nil _ _) True True) (typed_holding [0x61])
    (.next .first (orderly_link True True) rfl)⟩

end NodeExt2fs.Trees
