import NodeExt2fs.Construction.Library.Owners
import NodeExt2fs.Proof.Library.Requests
import NodeExt2fs.Proof.Stats.Fields

/-!
This file compares the owners that `fchown` is given with those that the inode has afterwards.
-/

namespace NodeExt2fs.Owners
open Programs Glue Js Library Inspection
open Program (wp wp_pure wp_bind wp_ite wp_mono wp_refines wp_and)

section Library

variable {ino : Ino} {blocksize : BitVec 32} {steady : Prop} {state : Copies}

theorem wp_owning (call : Call) {post : Answer call → Copies → Prop}
    (rest : ∀ answer state', (owning ino blocksize steady).allows state call answer state' →
      post answer state') : wp (owning ino blocksize steady) call.perform post state :=
  ⟨trivial, rest⟩

/-- A change of the inode fails and leaves it on the disk, or it arrives there and in its handle. -/
theorem changeInode_owning {file : Ptr} {copy : Inode} (opened : state.copies file = some copy)
    (change : Inode → Inode) :
    wp (owning ino blocksize steady) (changeInode file change)
      (fun ret state' => ret < 0 ∧ ¬steady ∧ state'.stored = state.stored ∨
        ret = 0 ∧ state' =
          { stored := change state.stored
            copies := Function.update state.copies file (some (change state.stored)) }) state := by
  rw [changeInode, wp_bind]
  apply wp_owning (.loadFile file)
  intro handle state₁ loaded
  rw [show state₁ = state from loaded.1, show handle = _ from loaded.2 copy opened, wp_bind]
  apply wp_owning (.readInode ino)
  intro answer state₂ read
  obtain ⟨works, found⟩ := read.2 rfl
  rw [show state₂ = state from read.1, wp_ite]
  refine ⟨fun failed => .inl ⟨neg_errcode_lt_zero.mpr failed, fun still => failed (works still), rfl⟩, ?_⟩
  intro fine
  rw [show answer.2 = state.stored from found (not_not.mp fine), wp_bind]
  apply wp_owning (.storeFileInode file _)
  intro _ state₃ kept
  rw [show state₃ = _ from kept, wp_bind]
  apply wp_owning (.writeInode ino _)
  intro code state₄ written
  obtain ⟨works, after⟩ := written rfl
  rw [wp_pure, show state₄ = _ from after]
  by_cases zero : code = 0
  · rw [if_pos zero, zero]
    exact .inr ⟨rfl, rfl⟩
  · rw [if_neg zero]
    exact .inl ⟨neg_errcode_lt_zero.mpr zero, fun still => zero (works still), rfl⟩

/-- What `fchown` makes of an inode. -/
def chowned (uid gid : BitVec 32) (inode : Inode) : Inode :=
  incrementVersion { inode with iUid := uid.setWidth 16, iGid := gid.setWidth 16 }

/-- `fchown` rejects and leaves the inode on the disk, or it stores the lower halves. -/
theorem fchown_owning {fd : Ptr} {copy : Inode} (opened : state.copies fd = some copy)
    {locals : OpenFiles} (listed : locals.has fd = true) (uid gid : BitVec 32) :
    Async.wp (owning ino blocksize steady) (fchown fd uid gid)
      (fun result locals' state' => locals' = locals ∧
        ((∃ failure, result = .error failure) ∧ ¬steady ∧ state'.stored = state.stored ∨
          result = .ok () ∧ state' =
            { stored := chowned uid gid state.stored
              copies := Function.update state.copies fd (some (chowned uid gid state.stored)) }))
      locals state := by
  rw [fchown, Async.wp_bind, checkFd, Async.wp_bind, Async.wp_get, Async.andThen_ok, if_pos listed,
    Async.wp_pure, Async.andThen_ok, Async.wp_bind, binding, Async.wp_lift, wp_bind,
    nodeExt2fsChown_eq]
  apply wp_mono (changeInode_owning opened _)
  intro ret state' outcome
  rw [wp_pure, ccallThrowAsync]
  rcases outcome with ⟨negative, unsteady, same⟩ | ⟨zero, same⟩
  · rw [if_pos negative]
    exact ⟨rfl, .inl ⟨⟨_, rfl⟩, unsteady, same⟩⟩
  · rw [zero, if_neg (Int.lt_irrefl 0)]
    exact ⟨rfl, .inr ⟨rfl, same⟩⟩

/-- `fstat` settles with what the handle has. -/
theorem fstat_owning {fd : Ptr} {copy : Inode} (opened : state.copies fd = some copy)
    {locals : OpenFiles} (listed : locals.has fd = true) :
    Async.wp (owning ino blocksize steady) (fstat fd)
      (fun result _ _ => result = fstatResult fd { ino := ino, inode := copy } blocksize) locals
      state := by
  apply fstat_wp _ listed rfl
  intro field post rest
  rw [statCall, binding, Async.wp_lift, wp_bind, InodeStat.routine, wp_bind]
  apply wp_owning (.loadFile fd)
  intro handle state₁ loaded
  rw [show state₁ = state from loaded.1, show handle = _ from loaded.2 copy opened, wp_bind]
  apply wp_owning .loadBlocksize
  intro size state₂ sized
  rw [show state₂ = state from sized.1, show size = blocksize from sized.2]
  exact rest

end Library

/-- After `fchown`, the inode has the owners and `fstat` reports them, or the call has rejected and
the inode is as it was. -/
def RoundTrips (ino : Ino) (scale : Fin 7) (stored : Inode) (uid gid : BitVec 32) : Prop :=
  ∀ (fd : Ptr) (copy : Inode) (state : Copies) (locals : OpenFiles),
    state.stored = stored → state.copies fd = some copy → locals.has fd = true →
    Async.wp (owning ino (blockSize scale) False) (fchown fd uid gid)
      (fun result locals' state' => match result with
        | .ok _ => ownerOf state'.stored = uid.toNat ∧ groupOf state'.stored = gid.toNat ∧
            Async.wp (owning ino (blockSize scale) False) (fstat fd)
              (fun stats _ _ => ∃ value, stats = .ok value ∧ value.uid = uid.toNat ∧
                value.gid = gid.toNat) locals' state'
        | .error _ => state'.stored = stored) locals state

/-- The fields for which `fstat` does not take the number for an error. -/
structure Accepted (ino : Ino) (inode : Inode) : Prop where
  ino : 0 ≤ (BitVec.ofNat 32 ino).toInt
  blocks : IsInt inode.iBlocks.toNat
  atime : IsInt inode.iAtime.toNat
  mtime : IsInt inode.iMtime.toNat
  ctime : IsInt inode.iCtime.toNat

/-- The accessors that may return a negative number. -/
theorem accepted_iff {ino : Ino} {inode : Inode} (scale : Fin 7) :
    (∀ field : InodeStat, 0 ≤ field.read { ino := ino, inode := inode } (blockSize scale)) ↔
      Accepted ino inode := by
  have block : 0 ≤ (blockSize scale).toInt := by
    revert scale
    decide
  apply Iff.intro
  · intro nonneg
    exact ⟨nonneg .ino, (toInt_nonneg_iff _).mp (nonneg .iBlocks),
      (toInt_nonneg_iff _).mp (nonneg .iAtime), (toInt_nonneg_iff _).mp (nonneg .iMtime),
      (toInt_nonneg_iff _).mp (nonneg .iCtime)⟩
  · intro accepted field
    cases field with
    | ino => exact accepted.ino
    | iMode => exact half_nonneg _
    | iLinksCount => exact half_nonneg _
    | iUid => exact half_nonneg _
    | iGid => exact half_nonneg _
    | iSize => exact Int.natCast_nonneg _
    | iBlocks => exact (toInt_nonneg_iff _).mpr accepted.blocks
    | iAtime => exact (toInt_nonneg_iff _).mpr accepted.atime
    | iMtime => exact (toInt_nonneg_iff _).mpr accepted.mtime
    | iCtime => exact (toInt_nonneg_iff _).mpr accepted.ctime
    | blocksize => exact block

/-- `fstat` resolves with the lower halves of the owners exactly if it accepts the other fields. -/
theorem reports_iff {ino : Ino} {scale : Fin 7} {fd : Ptr} {inode : Inode} {uid gid : Nat} :
    (∃ value, fstatResult fd { ino := ino, inode := inode } (blockSize scale) = .ok value ∧
      value.uid = uid ∧ value.gid = gid) ↔
      Accepted ino inode ∧ inode.iUid.toNat = uid ∧ inode.iGid.toNat = gid := by
  apply Iff.intro
  · rintro ⟨value, resolved, owner, group⟩
    obtain ⟨nonneg, same⟩ := fstatResult_eq_ok_iff value |>.mp resolved
    rw [← same] at owner group
    have uid := toInt_half inode.iUid
    have gid := toInt_half inode.iGid
    refine ⟨(accepted_iff scale).mp nonneg, ?_, ?_⟩
    · exact Int.ofNat.inj (uid.symm.trans owner)
    · exact Int.ofNat.inj (gid.symm.trans group)
  · rintro ⟨accepted, rfl, rfl⟩
    exact ⟨_, (fstatResult_eq_ok_iff _).mpr ⟨(accepted_iff scale).mpr accepted, rfl⟩, toInt_half _,
      toInt_half _⟩

/-- The library in memory fails no call. -/
theorem ownerLibrary_honours (ino : Ino) (blocksize : BitVec 32) :
    (owning ino blocksize True).Honoured (ownerLibrary ino blocksize) id := by
  intro call state
  cases call with
  | loadFile file =>
      refine ⟨rfl, ?_⟩
      intro copy opened
      show ({ ino := ino, inode := (state.copies file).getD Inode.zero } : Ext2File) = _
      rw [show state.copies file = some copy from opened]
      rfl
  | storeFileInode file inode => rfl
  | readInode target =>
      refine ⟨rfl, ?_⟩
      intro same
      have answered : (ownerLibrary ino blocksize (.readInode target) state).1 = (0, state.stored) :=
        if_pos same
      rw [answered]
      exact ⟨fun _ => rfl, fun _ => rfl⟩
  | writeInode target inode =>
      intro same
      have answered : ownerLibrary ino blocksize (.writeInode target inode) state =
          (0, { state with stored := inode }) := if_pos same
      rw [answered]
      exact ⟨fun _ => rfl, (if_pos rfl).symm⟩
  | loadBlocksize => exact ⟨rfl, rfl⟩
  | _ => trivial

/-- What a steady library does, one that may fail does too. -/
theorem owning_refines (ino : Ino) (blocksize : BitVec 32) :
    (owning ino blocksize True).Refines (owning ino blocksize False) := by
  refine ⟨fun _ _ _ => trivial, ?_⟩
  intro state call answer state' allowed
  cases call with
  | readInode target => exact ⟨allowed.1, fun same => ⟨nofun, (allowed.2 same).2⟩⟩
  | writeInode target inode => exact fun same => ⟨nofun, (allowed same).2⟩
  | _ => exact allowed

/-- The numbers that fit into the lower halves, on an inode whose higher halves are zero. -/
structure Stored (stored : Inode) (uid gid : BitVec 32) : Prop where
  uid : uid.toNat < 2 ^ 16
  gid : gid.toNat < 2 ^ 16
  uidHigh : stored.lIUidHigh = 0
  gidHigh : stored.lIGidHigh = 0

/-- A lower half is the number, and the whole is it too. -/
theorem half_iff (high : BitVec 16) (number : BitVec 32) :
    joinHalves high (number.setWidth 16) = number.toNat ∧ (number.setWidth 16).toNat = number.toNat ↔
      number.toNat < 2 ^ 16 ∧ high = 0 := by
  have low := (number.setWidth 16).isLt
  have zero : high = 0 ↔ high.toNat = 0 := by
    rw [← BitVec.toNat_inj]
    rfl
  rw [joinHalves, zero]
  apply Iff.intro
  · intro both
    omega
  · intro both
    have kept : (number.setWidth 16).toNat = number.toNat := by
      rw [BitVec.toNat_setWidth, Nat.mod_eq_of_lt both.1]
    omega

theorem accepted_chowned {ino : Ino} {stored : Inode} (uid gid : BitVec 32) :
    Accepted ino (chowned uid gid stored) ↔ Accepted ino stored :=
  ⟨fun accepted => ⟨accepted.1, accepted.2, accepted.3, accepted.4, accepted.5⟩,
    fun accepted => ⟨accepted.1, accepted.2, accepted.3, accepted.4, accepted.5⟩⟩

/-- A round trip on the library in memory, where nothing fails. -/
theorem trip_of_roundTrips {ino : Ino} {scale : Fin 7} {stored : Inode} {uid gid : BitVec 32}
    (trips : RoundTrips ino scale stored uid gid) :
    ownerOf (chowned uid gid stored) = uid.toNat ∧ groupOf (chowned uid gid stored) = gid.toNat ∧
      ∃ value, fstatResult 1 { ino := ino, inode := chowned uid gid stored } (blockSize scale) =
        .ok value ∧ value.uid = uid.toNat ∧ value.gid = gid.toNat := by
  let state : Copies := { stored := stored, copies := fun _ => some stored }
  let locals : OpenFiles := Structures.InsertionMap.empty.set 1 0
  have honoured := ownerLibrary_honours ino (blockSize scale)
  have steady := wp_refines (owning_refines ino (blockSize scale))
    (trips 1 stored state locals rfl rfl rfl)
  have both := Program.run_of_wp honoured (wp_and steady (fchown_owning rfl rfl uid gid))
  generalize Program.run _ _ _ = outcome at both
  obtain ⟨⟨result, locals'⟩, state'⟩ := outcome
  obtain ⟨met, rfl, ⟨_, unsteady, _⟩ | ⟨rfl, rfl⟩⟩ := both
  · exact absurd trivial unsteady
  · obtain ⟨owner, group, reports⟩ := met
    refine ⟨owner, group, ?_⟩
    have steady := wp_refines (owning_refines ino (blockSize scale)) reports
    have kept : Function.update state.copies 1 (some (chowned uid gid stored)) 1 =
        some (chowned uid gid stored) := Function.update_self _ _ _
    have both := Program.run_of_wp honoured (wp_and steady (fstat_owning kept rfl))
    obtain ⟨⟨value, resolved, reported⟩, settled⟩ := both
    exact ⟨value, settled.symm.trans resolved, reported⟩

/-- Owners make the round trip exactly if they fit into the lower halves, the inode has nothing in the
higher ones, and `fstat` accepts its other fields. -/
theorem roundTrips_iff (ino : Ino) (scale : Fin 7) (stored : Inode) (uid gid : BitVec 32) :
    RoundTrips ino scale stored uid gid ↔ Stored stored uid gid ∧ Accepted ino stored := by
  apply Iff.intro
  · intro trips
    obtain ⟨owner, group, reported⟩ := trip_of_roundTrips trips
    obtain ⟨accepted, reportedOwner, reportedGroup⟩ := reports_iff.mp reported
    have user := (half_iff _ uid).mp ⟨owner, reportedOwner⟩
    have members := (half_iff _ gid).mp ⟨group, reportedGroup⟩
    exact ⟨⟨user.1, members.1, user.2, members.2⟩, (accepted_chowned uid gid).mp accepted⟩
  · rintro ⟨small, accepted⟩ fd copy state locals rfl opened listed
    have owner := (half_iff state.stored.lIUidHigh uid).mpr ⟨small.uid, small.uidHigh⟩
    have group := (half_iff state.stored.lIGidHigh gid).mpr ⟨small.gid, small.gidHigh⟩
    apply Async.wp_mono (fchown_owning opened listed uid gid)
    rintro result locals' state' ⟨rfl, ⟨⟨failure, rfl⟩, _, same⟩ | ⟨rfl, rfl⟩⟩
    · exact same
    · refine ⟨owner.1, group.1, ?_⟩
      apply Async.wp_mono (fstat_owning (Function.update_self _ _ _) listed)
      rintro stats _ _ rfl
      exact reports_iff.mpr ⟨(accepted_chowned uid gid).mpr accepted, owner.2, group.2⟩

/-- An inode without owners. -/
def ownerless : Inode := { Inode.zero with iMode := LINUX_S_IFREG ||| 0o644#16, iLinksCount := 1 }

/-- The owner 65536 becomes the owner 0. -/
theorem owner_lost : ¬RoundTrips 12 0 ownerless 65536 65536 := by
  intro trips
  have lost := (trip_of_roundTrips trips).1
  exact absurd lost (by decide)

end NodeExt2fs.Owners
