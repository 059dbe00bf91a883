import NodeExt2fs.Proof.Counts.Moves
import NodeExt2fs.Proof.Trees.ExactRemoval

/-!
This file says which runs of `link`, `rename`, `unlink` and `rmdir` keep the link counts in their range.
-/

namespace NodeExt2fs.Counting
open Programs Structures Glue Library Js
open Program (wp wp_mono wp_refines run_of_wp)
open Trees (Orderly Vacant Targeted)

variable {Hidden : Type} {resolver : Resolver} {volume : Volume}
  {library : Handler Call Answer Hidden} {view : Hidden → Volume}

/-- A move that leaves a link to the old parent. -/
def Sparing (resolver : Resolver) (volume : Volume) : NameOperation → Prop
  | .rename existingPath newPath => ∀ fromPath toPath, usePath existingPath = some fromPath →
      usePath newPath = some toPath →
      ∀ source fromName target toName fromIno fromDir toIno toDir,
        strrchr fromPath = some (source, fromName) → strrchr toPath = some (target, toName) →
        resolver.walk volume fromPath = .ok fromIno →
        resolver.walk volume (source ++ [slash]) = .ok fromDir →
        resolver.walk volume (target ++ [slash]) = .ok toDir →
        Targeted resolver volume toPath fromIno toIno →
        (toIno ≠ 0 → volume.isDir toIno = true → Vacant volume toIno) →
        Spare volume fromIno fromDir toIno toDir
  | _ => True

/-- A call that changes the counts of inodes that exist: it raises no full count, it takes the last link
of no directory that it moves from, and it removes the names whose links it takes. -/
structure InRange (resolver : Resolver) (volume : Volume) (operation : NameOperation) : Prop where
  recounts : recounts operation = true
  orderly : Orderly resolver False False volume operation
  sparing : Sparing resolver volume operation

theorem tallied_of_formed {exact rooted : Prop} (formed : volume.WellFormed exact rooted) :
    volume.Tallied :=
  ⟨tallied_of_sound formed.sound, formed.bounded⟩

/-- An inode with a name is in use and is counted. -/
theorem counts_of_tallied (tallied : volume.Tallied) : volume.Counts := by
  have shaped := tallied.census.toShaped
  have counted {ino : Ino} (used : volume.inUse ino = true)
      (referred : 0 < volume.census.references ino) : volume.links ino ≠ 0 := by
    have positive : 0 < volume.census.links ino := by
      cases kind : volume.isDir ino with
      | false => exact lt_of_lt_of_le referred (tallied.census.files ino kind)
      | true => exact (tallied.census.directories ino ⟨used, kind⟩).1
    intro none
    have zero : volume.census.links ino = 0 := congrArg BitVec.toNat none
    exact absurd zero (Nat.ne_of_gt positive)
  intro ino named
  rcases named with root | ⟨place, member, _, refers⟩
  · rw [root]
    exact ⟨shaped.root.1, counted shaped.root.1 (Trees.references_pos shaped shaped.root)⟩
  · have used := (shaped.held place member).2.1
    rw [refers] at used
    exact ⟨used, counted used (Multiset.countP_pos_of_mem member refers)⟩

/-- The C function of such a call makes only safe updates, whatever the library does. -/
theorem routine_tallied (closed : resolver.Closed) (tallied : volume.Tallied)
    {operation : NameOperation} (inRange : InRange resolver volume operation) {routine : Routine Int}
    (named : operation.routine? = some routine) :
    wp (updating resolver) routine (fun _ volume' => volume'.Tallied) volume := by
  obtain ⟨recounts, orderly, sparing⟩ := inRange
  cases operation with
  | «open» raw flags mode => cases recounts
  | mkdir raw mode => cases recounts
  | symlink target raw => cases recounts
  | link existingPath newPath =>
      obtain ⟨src, source, rest⟩ := Option.bind_eq_some_iff.mp named
      obtain ⟨dest, target, same⟩ := Option.bind_eq_some_iff.mp rest
      rw [← Option.some.inj same]
      exact nodeExt2fsLink_tallied closed tallied src dest
        (fun _ _ split => last_of_usePath target split)
        fun before name parent ino => orderly src dest before name parent ino source target
  | rename existingPath newPath =>
      obtain ⟨fromPath, source, rest⟩ := Option.bind_eq_some_iff.mp named
      obtain ⟨toPath, target, same⟩ := Option.bind_eq_some_iff.mp rest
      rw [← Option.some.inj same]
      obtain ⟨proper, movable⟩ := orderly fromPath toPath source target
      apply nodeExt2fsRename_tallied closed tallied fromPath toPath
        (fun _ _ split => last_of_usePath source split)
        (fun _ _ split => last_of_usePath target split) proper
      intro _ _ _ _ _ _ _ _ fromSplit toSplit walked fromParent toParent targeted vacant
      exact ⟨movable _ _ _ _ _ _ _ _ fromSplit toSplit walked fromParent toParent targeted vacant,
        sparing _ _ source target _ _ _ _ _ _ _ _ fromSplit toSplit walked fromParent toParent targeted
          vacant⟩
  | unlink raw =>
      obtain ⟨path, _, same⟩ := Option.bind_eq_some_iff.mp named
      rw [← Option.some.inj same]
      exact nodeExt2fsUnlink_tallied closed tallied path
  | rmdir raw =>
      obtain ⟨path, used, same⟩ := Option.bind_eq_some_iff.mp named
      rw [← Option.some.inj same]
      exact nodeExt2fsRmdir_tallied closed tallied path
        fun ino dir name => orderly path ino dir name used

theorem library_refines (resolver : Resolver) :
    (libext2fs resolver True).Refines (updating resolver) :=
  ⟨fun _ _ _ => trivial, fun _ _ _ _ allowed => allowed⟩

theorem tallied_step (closed : resolver.Closed)
    (honoured : (libext2fs resolver True).Honoured library view) (hidden : Hidden)
    (operation : NameOperation) (hidden' : Hidden) (tallied : (view hidden).Tallied)
    (inRange : InRange resolver (view hidden) operation)
    (taken : operation.step library hidden = some hidden') : (view hidden').Tallied := by
  rw [← Option.some.inj taken]
  cases named : operation.routine? with
  | none => exact tallied
  | some routine =>
      exact run_of_wp honoured
        (wp_refines (library_refines resolver) (routine_tallied closed tallied inRange named))

/-- In a run of calls that keep the counts in their range, every inode with a name is in use and is
counted, and each such call makes only safe updates. -/
theorem counts_kept (closed : resolver.Closed)
    (honoured : (libext2fs resolver True).Honoured library view) {first hidden : Hidden}
    (initial : (view first).Tallied)
    (reached : Reaches (NameOperation.step library)
      (fun hidden => InRange resolver (view hidden)) first hidden) :
    (view hidden).Counts ∧ ∀ operation, InRange resolver (view hidden) operation →
      Careful resolver (view hidden) operation := by
  have tallied := @Reaches.invariant _ _ _ _ _ (fun hidden => (view hidden).Tallied) initial
    (tallied_step closed honoured) _ reached
  refine ⟨counts_of_tallied tallied, fun operation inRange routine named => ?_⟩
  exact wp_mono (routine_tallied closed tallied inRange named) fun _ _ _ => trivial

/-- A file gets a second name, and both names keep it. -/
theorem counts_link :
    ∃ volume, (NameOperation.link [0x2f, 0x61] [0x2f, 0x62]).step reference
      (Volume.holding [[0x61]]) = some volume ∧ volume.Counts :=
  ⟨_, rfl, (counts_kept Trees.linkless_closed (reference_honours True)
    (tallied_of_formed (Trees.formed_holding (by decide) (List.cons_ne_nil _ _) True False))
    (@reaches_of_follow _ _ _ _ _ _ _ [.link [0x2f, 0x61] [0x2f, 0x62]] .first
      ⟨⟨rfl, Trees.orderly_link False False, trivial⟩, fun _ _ => trivial⟩ rfl)).1⟩

/-- The directory `/d` holds the directory `/d/e`. -/
def nestedDirectory : Volume :=
  ((nodeExt2fsMkdir [slash, 0x64, slash, 0x65] 0o755).run reference Trees.holdingDirectory).2

theorem formed_nestedDirectory : nestedDirectory.WellFormed True True := by
  have made := @Trees.nodeExt2fsMkdir_formed linkless True True True _ trivial Trees.linkless_closed
    Trees.formed_holdingDirectory [slash, 0x64, slash, 0x65] 0o755 ?_
  · exact run_of_wp (reference_honours True) made
  · intro before name parent split there _
    have parts : ([slash, 0x64], [0x65]) = (before, name) := Option.some.inj split
    rw [← (Prod.mk.inj parts).1] at there
    have directory : 12 = parent := Except.ok.inj there
    rw [← directory]
    decide

/-- The directory `/d` has stopped counting. -/
def stoppedCounting : Volume := nestedDirectory.written 12 (nestedDirectory.mode 12) 1

theorem tallied_stoppedCounting : stoppedCounting.Tallied := by
  have tallied := tallied_of_formed formed_nestedDirectory
  refine ⟨?_, tallied.bounded⟩
  rw [stoppedCounting, Trees.census_written rfl]
  exact tallied_stopped tallied.census ⟨by decide, by decide⟩

/-- The move of `/d/e` takes the only link of `/d`, which keeps its name. -/
theorem move_takes_last :
    ¬∀ (library : Handler Call Answer Volume) (first volume : Volume),
      (libext2fs linkless True).Honoured library id → first.Tallied →
      Reaches (NameOperation.step library) (fun _ operation => recounts operation = true) first
        volume →
      volume.Counts ∧ ∀ operation, recounts operation = true →
        Careful linkless volume operation := by
  intro safe
  have reached := safe reference stoppedCounting _ (reference_honours True) tallied_stoppedCounting
    (@reaches_of_follow _ _ _ _ _ _ _ [.rename [slash, 0x64, slash, 0x65] [slash, 0x65]] .first
      ⟨rfl, fun _ _ => trivial⟩ rfl)
  have named := reached.1 12 (.inr ⟨(EXT2_ROOT_INO,
    { inode := 12, name := [0x64], fileType := EXT2_FT_DIR }), ?_, ⟨by decide, by decide⟩, rfl⟩)
  · exact named.2 (by decide)
  · exact Trees.mem_names.mpr ⟨by decide, ⟨by decide, by decide⟩, by decide⟩

end NodeExt2fs.Counting
