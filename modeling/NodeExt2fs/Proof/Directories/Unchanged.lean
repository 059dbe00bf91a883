import NodeExt2fs.Construction.Js.Sessions
import NodeExt2fs.Proof.Directories.Routines
import NodeExt2fs.Proof.Library.Reference

/-!
This file keeps the entries of directories along runs of calls on descriptors.
-/

namespace NodeExt2fs.Directories
open Programs Structures Glue Library Js
open Program (wp wp_mono run_of_wp)

variable {Hidden : Type}

/-- The descriptors of a session are followed, from the directories of a volume. -/
abbrev Following (view : Hidden → Buffered) (volume : Volume) (session : Session Hidden) : Prop :=
  Still volume (fun fd => fd ∈ session.openFiles.keys) (view session.hidden)

/-- No descriptor has anything to write to a directory. -/
abbrev Settled (view : Hidden → Buffered) (session : Session Hidden) : Prop :=
  Following view (view session.hidden).volume session

/-- Every path that is opened exists. -/
def Existing (resolver : Resolver) (view : Hidden → Buffered) (session : Session Hidden) :
    DescriptorOperation → Prop
  | .open raw flags _ => ∀ path, usePath raw = some path → ∃ ino, ino ≠ 0 ∧
      resolver.lookedUp (view session.hidden).volume path flags = .ok ino
  | _ => True

/-- No open truncates a directory, no write to one has bytes and a descriptor that is open for
writing, and the lookup of a path that may be created does not fail. -/
def Careful (resolver : Resolver) (steady : Prop) (view : Hidden → Buffered)
    (session : Session Hidden) : DescriptorOperation → Prop
  | .open raw flags _ => (hasFlag flags O_CREAT = true → steady) ∧
      ∀ path ino, usePath raw = some path → hasFlag flags O_TRUNC = true →
        hasFlag flags O_EXCL = false →
        resolver.lookedUp (view session.hidden).volume path flags = .ok ino →
        (view session.hidden).volume.isDir ino = false
  | .write fd _ length _ => ∀ flags handle, session.openFiles.get fd = some flags →
      hasFlag flags (O_WRONLY ||| O_RDWR) = true →
      (view session.hidden).volume.files fd = some handle →
      (view session.hidden).volume.isDir handle.ino = true → length = 0
  | _ => True

variable {resolver : Resolver} {steady : Prop} {library : Handler Call Answer Hidden}
  {view : Hidden → Buffered} {volume : Volume} {session : Session Hidden}

/-- A C function that changes no directory. -/
theorem Following.runs (honoured : (buffering resolver steady).Honoured library view)
    {routine : Routine Int}
    (still : wp (buffering resolver steady) routine
      (fun _ after => Still volume (fun fd => fd ∈ session.openFiles.keys) after)
      (view session.hidden)) : Following view volume (session.runs library routine) :=
  run_of_wp honoured still

theorem Following.opens (honoured : (buffering resolver steady).Honoured library view)
    {path : Path} {flags mode : BitVec 32}
    (opened : wp (buffering resolver steady) (nodeExt2fsOpen path flags mode)
      (Opened volume fun fd => fd ∈ session.openFiles.keys) (view session.hidden)) :
    Following view volume (session.opens library path flags mode) := by
  have left := run_of_wp honoured opened
  rw [Session.opens]
  generalize (nodeExt2fsOpen path flags mode).run library session.hidden = opened at left ⊢
  obtain ⟨ret, hidden⟩ := opened
  by_cases negative : ret < 0
  · simp only [if_pos negative]
    exact left.1
  · simp only [if_neg negative]
    apply (left.2 (not_lt.mp negative)).mono
    intro fd member
    exact ((InsertionMap.mem_keys_set _ _ _ _).mp member).symm

theorem Following.closes (honoured : (buffering resolver steady).Honoured library view)
    (following : Following view volume session) {fd : Ptr} (member : fd ∈ session.openFiles.keys) :
    Following view volume (session.closes library fd) := by
  have left := run_of_wp honoured
    (@nodeExt2fsClose_still resolver steady _ _ _ following fd member)
  rw [Session.closes]
  generalize (nodeExt2fsClose fd).run library session.hidden = closed at left ⊢
  obtain ⟨ret, hidden⟩ := closed
  by_cases negative : ret < 0
  · simp only [if_pos negative]
    exact left
  · simp only [if_neg negative]
    apply left.mono
    intro fd' member
    exact ((InsertionMap.mem_keys_delete _ _ _).mp member).1

/-- One call changes no directory. -/
theorem following_step (honoured : (buffering resolver steady).Honoured library view)
    (session : Session Hidden) (operation : DescriptorOperation) (session' : Session Hidden)
    (following : Following view volume session)
    (careful : Existing resolver view session operation ∧ Careful resolver steady view session operation)
    (taken : session.stepDescriptor library operation = some session') :
    Following view volume session' := by
  rw [← Option.some.inj taken]
  cases operation with
  | «open» raw flags mode =>
      rw [Session.performDescriptor, Session.perform]
      cases used : usePath raw with
      | none => exact following
      | some path =>
          apply Following.opens honoured
          apply nodeExt2fsOpen_still following
          · intro creates
            exact ⟨careful.2.1 creates, careful.1 path used⟩
          · intro truncates shared ino walked
            rw [← following.kinds]
            exact careful.2.2 path ino used truncates shared walked
  | read fd buffer length position =>
      rw [Session.performDescriptor, Session.perform]
      cases session.openFiles.get fd with
      | none => exact following
      | some flags =>
          by_cases empty : length = 0
          · simp only [if_pos empty]
            exact following
          · simp only [if_neg empty]
            exact .runs honoured (nodeExt2fsRead_still following fd flags buffer length position)
  | write fd buffer length position =>
      rw [Session.performDescriptor, Session.perform]
      cases found : session.openFiles.get fd with
      | none => exact following
      | some flags =>
          apply Following.runs honoured
          apply nodeExt2fsWrite_still following (InsertionMap.mem_keys_of_get found)
          intro writes handle opened directory
          rw [← following.kinds] at directory
          exact careful.2 flags handle found writes opened directory
  | fchmod fd mode =>
      rw [Session.performDescriptor]
      cases session.openFiles.has fd with
      | false => exact following
      | true => exact .runs honoured (nodeExt2fsChmod_still following fd mode)
  | fchown fd uid gid =>
      rw [Session.performDescriptor]
      cases session.openFiles.has fd with
      | false => exact following
      | true => exact .runs honoured (nodeExt2fsChown_still following fd uid gid)
  | close fd =>
      rw [Session.performDescriptor, Session.perform]
      cases found : session.openFiles.has fd with
      | false => exact following
      | true => exact following.closes honoured ((InsertionMap.has_iff _ _).mp found)

/-- Every directory keeps its entries along every careful run. -/
theorem directories_unchanged (honoured : (buffering resolver steady).Honoured library view)
    {first session : Session Hidden} (settled : Settled view first)
    (reached : Reaches (Session.stepDescriptor library) (fun session operation =>
      Existing resolver view session operation ∧ Careful resolver steady view session operation)
      first session) (dir : Ino) (directory : (view first.hidden).volume.isDir dir = true) :
    (view session.hidden).volume.isDir dir = true ∧
      (view session.hidden).volume.entries dir = (view first.hidden).volume.entries dir := by
  have still : Following view (view first.hidden).volume session :=
    @Reaches.invariant _ _ _ _ _ (Following view (view first.hidden).volume) settled
      (following_step honoured) _ reached
  exact ⟨(still.kinds dir).trans directory, congrFun still.entries dir⟩

/-- A filesystem that was just mounted, with empty buffers. -/
def mounted (names : List Name) : Session Buffered where
  hidden := { volume := Volume.holding names, dirty := fun _ => false }
  openFiles := .empty

theorem settled_mounted (names : List Name) : Settled id (mounted names) := by
  constructor
  · rfl
  · exact fun _ => rfl
  · exact fun _ none => nomatch none
  · exact fun _ none => nomatch none

theorem buffered_honours (steady : Prop) : (buffering linkless steady).Honoured buffered id := by
  intro request state
  refine ⟨reference_honours steady request state.volume, ?_⟩
  change bufferEffect state request (buffered request state).1 (buffered request state).2
  cases request with
  | fileOpen ino flags => exact ⟨fun fine => if_pos fine, fun bad => if_neg bad⟩
  | fileWrite file buffer nbytes => exact ⟨fun _ _ => rfl, fun _ => ⟨rfl, rfl⟩⟩
  | fileFlush file => exact ⟨fun _ _ => rfl, fun clean => ⟨clean, rfl⟩⟩
  | fileClose file => exact ⟨fun _ _ => rfl, fun clean => ⟨clean, rfl⟩⟩
  | _ => rfl

/-- A file is emptied, written and closed. -/
theorem directories_unchanged_writing :
    ∃ session, follow (Session.stepDescriptor buffered) (mounted [[0x61]])
        [.open [0x2f, 0x61] (O_TRUNC ||| O_CREAT ||| O_WRONLY) 0o666, .write 1 0 5 noPosition,
          .close 1] = some session ∧
      session.hidden.volume.isDir EXT2_ROOT_INO = true ∧
      session.hidden.volume.entries EXT2_ROOT_INO =
        (mounted [[0x61]]).hidden.volume.entries EXT2_ROOT_INO := by
  refine ⟨_, rfl, directories_unchanged (buffered_honours True) (settled_mounted [[0x61]])
    (@reaches_of_follow _ _ _ _ _ _ _ [.open [0x2f, 0x61] (O_TRUNC ||| O_CREAT ||| O_WRONLY) 0o666,
      .write 1 0 5 noPosition, .close 1] .first ?_ rfl) EXT2_ROOT_INO rfl⟩
  refine ⟨⟨?_, ⟨fun _ => trivial, ?_⟩⟩, fun session opened => ⟨⟨trivial, ?_⟩, fun _ _ => ⟨⟨trivial, trivial⟩,
    fun _ _ => trivial⟩⟩⟩
  · intro path used
    cases used
    exact ⟨11, by decide, rfl⟩
  · intro path ino used _ _ walked
    cases used
    cases walked
    rfl
  · intro flags handle _ _ found directory
    cases opened
    cases found
    cases directory

/-- `open('/', 'w')` empties the root. -/
theorem open_truncates_root :
    ¬∀ (library : Handler Call Answer Buffered) (first session : Session Buffered),
      (buffering linkless True).Honoured library id → Settled id first →
      Reaches (Session.stepDescriptor library) (Existing linkless id) first session → ∀ dir,
      first.hidden.volume.isDir dir = true →
        session.hidden.volume.isDir dir = true ∧
          session.hidden.volume.entries dir = first.hidden.volume.entries dir := by
  intro unchanged
  have along : Along (Session.stepDescriptor buffered) (Existing linkless id) (mounted [[0x61]])
      [.open [0x2f] (O_TRUNC ||| O_CREAT ||| O_WRONLY) 0o666] := by
    refine ⟨?_, fun _ _ => trivial⟩
    intro path used
    cases used
    exact ⟨EXT2_ROOT_INO, by decide, rfl⟩
  have same := unchanged buffered (mounted [[0x61]]) _ (buffered_honours True)
    (settled_mounted [[0x61]]) (reaches_of_follow .first along rfl) EXT2_ROOT_INO rfl
  exact absurd same.2 (by decide)

end NodeExt2fs.Directories
