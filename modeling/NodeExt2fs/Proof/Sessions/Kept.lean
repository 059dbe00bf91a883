import NodeExt2fs.Proof.Library.Reference
import NodeExt2fs.Proof.Sessions.Operations

/-!
This file keeps the inodes of open files along runs of calls.
-/

namespace NodeExt2fs.Sessions
open Programs Structures Glue Library Js
open Program (wp wp_pure wp_bind wp_ite wp_mono run_of_wp only_perform Only)

variable {Hidden : Type}

/-- The file of every descriptor still has the inode that it was opened with. -/
def Kept (view : Hidden → Volume) (session : Session Hidden) : Prop :=
  ∀ fd ∈ session.openFiles.keys, ∀ handle, (view session.hidden).files fd = some handle →
    Whole (view session.hidden) handle

/-- A descriptor is open on the inode. -/
def OpenOn (view : Hidden → Volume) (session : Session Hidden) (ino : Ino) : Prop :=
  ∃ fd ∈ session.openFiles.keys, ∃ handle, (view session.hidden).files fd = some handle ∧
    handle.ino = ino

/-- No call takes the last link of an open inode, by a name that it removes or replaces, and none
truncates its blocks by another open. -/
def Retaining (resolver : Resolver) (view : Hidden → Volume) (session : Session Hidden) :
    FileOperation → Prop
  | .open raw flags _ => ∀ path ino, usePath raw = some path →
      Truncates resolver (view session.hidden) path flags ino → ¬OpenOn view session ino
  | .unlink raw => ∀ path ino, usePath raw = some path →
      resolver.walk (view session.hidden) path = .ok ino →
      Takes resolver (view session.hidden) path → (view session.hidden).links ino = 1 →
      ¬OpenOn view session ino
  | .rename existingPath newPath => ∀ fromPath toPath fromIno toIno,
      usePath existingPath = some fromPath → usePath newPath = some toPath →
      resolver.walk (view session.hidden) fromPath = .ok fromIno →
      resolver.walk (view session.hidden) toPath = .ok toIno → fromIno ≠ toIno →
      slash ∈ fromPath → slash ∈ toPath → Takes resolver (view session.hidden) toPath →
      LastLinks (view session.hidden) toIno → ¬OpenOn view session toIno
  | _ => True

variable {resolver : Resolver} {steady : Prop} {library : Handler Call Answer Hidden}
  {view : Hidden → Volume} {session : Session Hidden}

/-- A call that spares the open inodes keeps them. -/
theorem Kept.of_spares (kept : Kept view session) {hidden : Hidden}
    (spares : Spares (OpenOn view session) (view session.hidden) (view hidden)) :
    Kept view { session with hidden := hidden } := by
  intro fd member handle' found
  apply spares.whole found
  intro handle opened
  exact ⟨⟨fd, member, handle, opened, rfl⟩, kept fd member handle opened⟩

/-- A C function that makes only sparing calls keeps the open files. -/
theorem Kept.runs (honoured : (libext2fs resolver steady).Honoured library view)
    (kept : Kept view session) {routine : Routine Int}
    (spares : wp (libext2fs resolver steady) routine
      (fun _ volume' => Spares (OpenOn view session) (view session.hidden) volume')
      (view session.hidden)) : Kept view (session.runs library routine) :=
  kept.of_spares (run_of_wp honoured spares)

theorem Kept.opens (honoured : (libext2fs resolver steady).Honoured library view)
    (kept : Kept view session) {path : Path} {flags : BitVec 32} (mode : BitVec 32)
    (apart : ∀ ino, Truncates resolver (view session.hidden) path flags ino →
      ¬OpenOn view session ino) : Kept view (session.opens library path flags mode) := by
  have whole := run_of_wp honoured
    (@nodeExt2fsOpen_whole resolver steady (view session.hidden) path flags mode
      (· ∈ session.openFiles.keys) kept fun ino truncated fd mine handle opened same =>
        apart ino truncated ⟨fd, mine, handle, opened, same⟩)
  rw [Session.opens]
  generalize (nodeExt2fsOpen path flags mode).run library session.hidden = opened at whole ⊢
  obtain ⟨ret, hidden⟩ := opened
  by_cases negative : ret < 0
  · simp only [if_pos negative]
    exact fun fd member => whole fd (.inl member)
  · simp only [if_neg negative]
    intro fd member
    rcases (InsertionMap.mem_keys_set _ _ _ _).mp member with same | member
    · exact whole fd (.inr ⟨not_lt.mp negative, same⟩)
    · exact whole fd (.inl member)

theorem Kept.closes (honoured : (libext2fs resolver steady).Honoured library view)
    (kept : Kept view session) (fd : Ptr) : Kept view (session.closes library fd) := by
  have only : (nodeExt2fsClose fd).Only (sparing fun _ => True) := by
    rw [nodeExt2fsClose]
    exact Program.only_bind (only_call (.fileClose fd) trivial) fun _ => trivial
  have spares := run_of_wp honoured
    (@wp_spares (fun _ => True) resolver steady _ _ only (view session.hidden))
  rw [Session.closes]
  generalize (nodeExt2fsClose fd).run library session.hidden = closed at spares ⊢
  obtain ⟨ret, hidden⟩ := closed
  have old (fd : Ptr) (member : fd ∈ session.openFiles.keys) (handle' : Handle)
      (found : (view hidden).files fd = some handle') : Whole (view hidden) handle' :=
    spares.whole found fun handle opened => ⟨trivial, kept fd member handle opened⟩
  by_cases negative : ret < 0
  · simp only [if_pos negative]
    exact old
  · simp only [if_neg negative]
    intro fd' member handle' found
    exact old fd' ((InsertionMap.mem_keys_delete _ _ _).mp member).1 handle' found

/-- One call keeps the open files. -/
theorem kept_step (honoured : (libext2fs resolver steady).Honoured library view)
    (session : Session Hidden) (operation : FileOperation) (session' : Session Hidden)
    (kept : Kept view session) (retaining : Retaining resolver view session operation)
    (taken : session.step library operation = some session') : Kept view session' := by
  rw [← Option.some.inj taken]
  cases operation with
  | «open» raw flags mode =>
      rw [Session.perform]
      cases used : usePath raw with
      | none => exact kept
      | some path => exact kept.opens honoured mode fun ino => retaining path ino used
  | read fd buffer length position =>
      rw [Session.perform]
      cases session.openFiles.get fd with
      | none => exact kept
      | some flags =>
          by_cases empty : length = 0
          · simp only [if_pos empty]
            exact kept
          · simp only [if_neg empty]
            exact kept.runs honoured (wp_spares
              (nodeExt2fsRead_only basic_spares (fun _ => trivial) flags buffer length position) _)
  | write fd buffer length position =>
      rw [Session.perform]
      cases session.openFiles.get fd with
      | none => exact kept
      | some flags =>
          exact kept.runs honoured (wp_spares (nodeExt2fsWrite_only basic_spares (fun _ => trivial)
            flags buffer length position trivial trivial) _)
  | close fd =>
      rw [Session.perform]
      cases session.openFiles.has fd with
      | false => exact kept
      | true => exact kept.closes honoured fd
  | unlink raw =>
      rw [Session.perform]
      cases used : usePath raw with
      | none => exact kept
      | some path =>
          exact kept.runs honoured (nodeExt2fsUnlink_spares path
            fun ino walked takes last => retaining path ino used walked takes last)
  | rename existingPath newPath =>
      rw [Session.perform]
      cases source : usePath existingPath with
      | none => exact kept
      | some fromPath =>
          cases target : usePath newPath with
          | none => exact kept
          | some toPath =>
              exact kept.runs honoured (nodeExt2fsRename_spares fromPath toPath
                fun fromIno toIno => retaining fromPath toPath fromIno toIno source target)

/-- Open files keep their inodes along every run whose steps release no open inode. -/
theorem kept_of_retaining (honoured : (libext2fs resolver steady).Honoured library view)
    {first session : Session Hidden} (initial : Kept view first)
    (reached : Reaches (Session.step library) (Retaining resolver view) first session) :
    Kept view session :=
  reached.invariant initial (kept_step honoured)

/-- Nothing is open on a filesystem that was just mounted. -/
def mounted (volume : Volume) : Session Volume where
  hidden := volume
  openFiles := .empty

theorem kept_mounted (volume : Volume) : Kept id (mounted volume) := fun _ none => nomatch none

/-- A file is opened and closed again. -/
theorem kept_open_close :
    ∃ session, follow (Session.step reference) (mounted (Volume.holding [[0x61]]))
      [.open [0x2f, 0x61] 0 0, .close 1] = some session ∧ Kept id session := by
  refine ⟨_, rfl, kept_of_retaining (reference_honours False) (kept_mounted _)
    (@reaches_of_follow _ _ _ _ _ _ _ [.open [0x2f, 0x61] 0 0, .close 1] .first ?_ rfl)⟩
  refine ⟨fun path ino _ truncates => ?_, fun _ _ => ⟨trivial, fun _ _ => trivial⟩⟩
  exact absurd truncates.1 (by decide)

/-- An unlink of an open file frees its inode. -/
theorem unlink_open_file :
    ¬∀ (library : Handler Call Answer Volume) (first session : Session Volume),
      (libext2fs linkless False).Honoured library id → Kept id first →
      Reaches (Session.step library) (fun _ _ => True) first session → Kept id session := by
  intro kept
  have reached := kept reference (mounted (Volume.holding [[0x61]])) _ (reference_honours False)
    (kept_mounted _) (reaches_of_follow .first
      (along_of_forall (fun _ _ => trivial) _ [.open [0x2f, 0x61] 0 0, .unlink [0x2f, 0x61]]) rfl)
  have broken := reached 1 (by decide) _ rfl
  exact absurd broken.1 (by decide)

end NodeExt2fs.Sessions
