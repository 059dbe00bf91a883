import NodeExt2fs.Construction.Js.Names
import NodeExt2fs.Proof.Library.Reference
import NodeExt2fs.Proof.Names.Routines

/-!
This file follows the names of directories along runs of calls.
-/

namespace NodeExt2fs.Names
open Programs Glue Library Js
open Program (Only only_bind only_ite run_bind run_of_wp)

/-- The last component of the path is a name in its directory. -/
def Occupied (resolver : Resolver) (volume : Volume) (path : Path) : Prop :=
  ∃ before name parent, strrchr path = some (before, name) ∧
    resolver.walk volume (before ++ [slash]) = .ok parent ∧ volume.find parent name ≠ none

/-- The lookup that `open` starts with. -/
def lookupCall (path : Path) (flags : BitVec 32) : Call :=
  if hasFlag flags O_NOFOLLOW then .namei path else .nameiFollow path

variable {Hidden : Type}

/-- An `open` that may create a file finds the name when it is there, and a `link` of an existing
file gets a name that is not there. -/
def Unoccupied (resolver : Resolver) (library : Handler Call Answer Hidden) (view : Hidden → Volume)
    (hidden : Hidden) : NameOperation → Prop
  | .open path flags _ => ∀ used, usePath path = some used → hasFlag flags O_CREAT = true →
      Occupied resolver (view hidden) used →
      (lookupCall used flags).code (library (lookupCall used flags) hidden).1 = 0
  | .link existingPath newPath => ∀ src dest ino, usePath existingPath = some src →
      usePath newPath = some dest → resolver.walk (view hidden) src = .ok ino →
      ¬Occupied resolver (view hidden) dest
  | _ => True

variable {resolver : Resolver} {steady : Prop} {library : Handler Call Answer Hidden}
  {view : Hidden → Volume}

/-- `string_to_inode` gives zero only when its lookup fails. -/
theorem lookupCall_failed (honoured : (libext2fs resolver steady).Honoured library view)
    (path : Path) (flags : BitVec 32) (hidden : Hidden)
    (zero : ((stringToInode path (!hasFlag flags O_NOFOLLOW)).run library hidden).1 = 0) :
    (lookupCall path flags).code (library (lookupCall path flags) hidden).1 ≠ 0 := by
  rw [lookupCall]
  cases noFollow : hasFlag flags O_NOFOLLOW with
  | true =>
      rw [noFollow] at zero
      show (library (.namei path) hidden).1.1 ≠ 0
      intro fine
      have found := walk_of_resolved (honoured (.namei path) hidden).2 fine
      change (Program.run library (if (library (.namei path) hidden).1.1 ≠ 0 then pure 0
        else pure (library (.namei path) hidden).1.2) _).1 = 0 at zero
      rw [if_neg (not_not_intro fine)] at zero
      exact found.2 zero
  | false =>
      rw [noFollow] at zero
      show (library (.nameiFollow path) hidden).1.1 ≠ 0
      intro fine
      have found := walk_of_resolved (honoured (.nameiFollow path) hidden).2 fine
      change (Program.run library (if (library (.nameiFollow path) hidden).1.1 ≠ 0 then pure 0
        else pure (library (.nameiFollow path) hidden).1.2) _).1 = 0 at zero
      rw [if_neg (not_not_intro fine)] at zero
      exact found.2 zero

theorem findOrCreate_unique (honoured : (libext2fs resolver steady).Honoured library view)
    {hidden : Hidden} (unique : UniqueNames (view hidden)) (path : Path) (flags mode : BitVec 32)
    (found : hasFlag flags O_CREAT = true → Occupied resolver (view hidden) path →
      (lookupCall path flags).code (library (lookupCall path flags) hidden).1 = 0) :
    UniqueNames (view ((findOrCreate path flags mode).run library hidden).2) := by
  rw [findOrCreate, run_bind]
  have same := (run_of_wp honoured
    (@stringToInode_found resolver steady (view hidden) path (!hasFlag flags O_NOFOLLOW))).1
  have failed := lookupCall_failed honoured path flags hidden
  generalize (stringToInode path (!hasFlag flags O_NOFOLLOW)).run library hidden = looked at same failed ⊢
  obtain ⟨ino, hidden'⟩ := looked
  have unique : UniqueNames (view hidden') := by
    rw [show view hidden' = _ from same]
    exact unique
  by_cases missing : ino = 0
  · simp only [if_pos missing]
    cases creates : hasFlag flags O_CREAT with
    | false => exact unique
    | true =>
        have absent (before name parent) (split : strrchr path = some (before, name))
            (there : resolver.walk (view hidden') (before ++ [slash]) = .ok parent) :
            (view hidden').find parent name = none := by
          by_contra taken
          rw [show view hidden' = _ from same] at there taken
          exact failed missing (found creates ⟨before, name, parent, split, there, taken⟩)
        have created := run_of_wp honoured (createFile_unique unique path mode absent)
        show UniqueNames (view (Program.run library (createFile path mode >>= _) hidden').2)
        rw [run_bind]
        by_cases fine : ((createFile path mode).run library hidden').1.1 = 0
        · rw [if_neg (not_not_intro fine)]
          exact created
        · rw [if_pos fine]
          exact created
  · simp only [if_neg missing]
    cases hasFlag flags O_EXCL with
    | false => exact unique
    | true => exact unique

theorem nodeExt2fsOpen_unique (honoured : (libext2fs resolver steady).Honoured library view)
    {hidden : Hidden} (unique : UniqueNames (view hidden)) (path : Path) (flags mode : BitVec 32)
    (found : hasFlag flags O_CREAT = true → Occupied resolver (view hidden) path →
      (lookupCall path flags).code (library (lookupCall path flags) hidden).1 = 0) :
    UniqueNames (view ((nodeExt2fsOpen path flags mode).run library hidden).2) := by
  rw [nodeExt2fsOpen_eq, run_bind]
  have unique := findOrCreate_unique honoured unique path flags mode found
  generalize (findOrCreate path flags mode).run library hidden = created at unique ⊢
  apply run_of_wp honoured (unique_of_only unique ?_)
  exact openFound_only (makes_basic basic_shrinks) (fun _ _ => rfl) (fun _ => rfl) flags created.1

/-- The C function of one call adds no name that is there. -/
theorem routine_unique (honoured : (libext2fs resolver steady).Honoured library view)
    {hidden : Hidden} (unique : UniqueNames (view hidden)) {operation : NameOperation}
    (unoccupied : Unoccupied resolver library view hidden operation) {routine : Routine Int}
    (named : operation.routine? = some routine) :
    UniqueNames (view (routine.run library hidden).2) := by
  cases operation with
  | «open» raw flags mode =>
      obtain ⟨path, used, same⟩ := Option.bind_eq_some_iff.mp named
      rw [← Option.some.inj same]
      exact nodeExt2fsOpen_unique honoured unique path flags mode (unoccupied path used)
  | mkdir raw mode =>
      obtain ⟨path, _, same⟩ := Option.bind_eq_some_iff.mp named
      rw [← Option.some.inj same]
      exact run_of_wp honoured (nodeExt2fsMkdir_unique unique path mode)
  | link existingPath newPath =>
      obtain ⟨src, source, rest⟩ := Option.bind_eq_some_iff.mp named
      obtain ⟨dest, target, same⟩ := Option.bind_eq_some_iff.mp rest
      rw [← Option.some.inj same]
      apply run_of_wp honoured (nodeExt2fsLink_unique unique src dest ?_)
      intro before name ino parent split found there
      by_contra taken
      exact unoccupied src dest ino source target found ⟨before, name, parent, split, there, taken⟩
  | symlink target raw =>
      obtain ⟨src, _, rest⟩ := Option.bind_eq_some_iff.mp named
      obtain ⟨dest, _, same⟩ := Option.bind_eq_some_iff.mp rest
      rw [← Option.some.inj same]
      exact run_of_wp honoured (nodeExt2fsSymlink_unique unique src dest)
  | rename existingPath newPath =>
      obtain ⟨fromPath, _, rest⟩ := Option.bind_eq_some_iff.mp named
      obtain ⟨toPath, target, same⟩ := Option.bind_eq_some_iff.mp rest
      rw [← Option.some.inj same]
      exact run_of_wp honoured (nodeExt2fsRename_unique unique fromPath toPath
        fun _ _ split => last_of_usePath target split)
  | unlink raw =>
      obtain ⟨path, _, same⟩ := Option.bind_eq_some_iff.mp named
      rw [← Option.some.inj same]
      exact unique.shrink (run_of_wp honoured (nodeExt2fsUnlink_removes path)).1
  | rmdir raw =>
      obtain ⟨path, _, same⟩ := Option.bind_eq_some_iff.mp named
      rw [← Option.some.inj same]
      exact unique.shrink (run_of_wp honoured (nodeExt2fsRmdir_removes path)).1

theorem unique_step (honoured : (libext2fs resolver steady).Honoured library view)
    (hidden : Hidden) (operation : NameOperation) (hidden' : Hidden)
    (unique : UniqueNames (view hidden))
    (unoccupied : Unoccupied resolver library view hidden operation)
    (taken : operation.step library hidden = some hidden') : UniqueNames (view hidden') := by
  rw [← Option.some.inj taken]
  cases named : operation.routine? with
  | none => exact unique
  | some routine => exact routine_unique honoured unique unoccupied named

theorem unique_of_unoccupied (honoured : (libext2fs resolver steady).Honoured library view)
    {first hidden : Hidden} (initial : UniqueNames (view first))
    (reached : Reaches (NameOperation.step library) (Unoccupied resolver library view) first hidden) :
    UniqueNames (view hidden) := by
  exact @Reaches.invariant _ _ _ _ _ (fun hidden => UniqueNames (view hidden)) initial
    (unique_step honoured) _ reached

/-- A root with one file has unique names. -/
theorem unique_holding (name : Name) (proper : name ≠ dot ∧ name ≠ dotdot) :
    UniqueNames (Volume.holding [name]) := by
  intro dir
  by_cases root : dir = EXT2_ROOT_INO
  · rw [root]
    show [dot, dotdot, name].Nodup
    simp [proper.1.symm, proper.2.symm]
  · simp only [Volume.names, Volume.holding, if_neg root]
    exact List.nodup_nil

/-- A file gets a second name. -/
theorem unique_link :
    ∃ volume, (NameOperation.link [0x2f, 0x61] [0x2f, 0x62]).step reference
      (Volume.holding [[0x61]]) = some volume ∧ UniqueNames volume := by
  refine ⟨_, rfl, unique_of_unoccupied (reference_honours False) (unique_holding _ (by decide))
    (@reaches_of_follow _ _ _ _ _ _ _ [.link [0x2f, 0x61] [0x2f, 0x62]] .first ?_ rfl)⟩
  refine ⟨?_, fun _ _ => trivial⟩
  intro src dest ino _ used _ ⟨before, name, parent, split, there, taken⟩
  have named : dest = [0x2f, 0x62] := (Option.some.inj used).symm
  rw [named] at split
  have parts : ([], [0x62]) = (before, name) := Option.some.inj split
  rw [← (Prod.mk.inj parts).1] at there
  have root : EXT2_ROOT_INO = parent := Except.ok.inj there
  rw [← (Prod.mk.inj parts).2, ← root] at taken
  exact taken (by decide)

/-- A link under a name that is there makes a second entry of the name. -/
theorem link_onto_itself :
    ¬∀ (library : Handler Call Answer Volume) (first volume : Volume),
      (libext2fs linkless False).Honoured library id → UniqueNames first →
      Reaches (NameOperation.step library) (fun _ _ => True) first volume → UniqueNames volume := by
  intro unique
  have reached := unique reference (Volume.holding [[0x61]]) _ (reference_honours False)
    (unique_holding _ (by decide)) (reaches_of_follow .first
      (along_of_forall (fun _ _ => trivial) _ [.link [0x2f, 0x61] [0x2f, 0x61]]) rfl)
  exact absurd (reached EXT2_ROOT_INO) (by decide)

end NodeExt2fs.Names
