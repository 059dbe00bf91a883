import NodeExt2fs.Construction.Library.Stamping
import NodeExt2fs.Proof.Stamps.Encoding
import NodeExt2fs.Proof.Library.Requests

/-!
This file compares the stamps of `update_xtime` with those of `EXT4_INODE_SET_XTIME`.
-/

namespace NodeExt2fs.Stamps
open Programs Glue Library Structures
open Program (wp wp_bind wp_ite wp_mono run_of_wp)

variable {ino : Ino} {now : Timespec} {inode : InodeLarge}

/-- The times that the arguments of `update_xtime` select. -/
def selected (a c m : Bool) : Xtime → Bool
  | .iAtime => a
  | .iCtime => c
  | .iMtime => m

/-- All the extra fields fit. -/
def HasRoom (inode : InodeLarge) : Prop := ∀ xtime, ext4FitsInInode inode xtime = true

/-- The inode that `update_xtime` stores. -/
def xtimeUpdated (inode : InodeLarge) (now : Timespec) (a c m : Bool) : InodeLarge :=
  { inode with
    toInode := incrementVersion (stampTimes inode.toInode (now.tvSec.setWidth 32) a c m) }

@[simp] theorem xtime_updated (inode : InodeLarge) (now : Timespec) (a c m : Bool) (xtime : Xtime) :
    (xtimeUpdated inode now a c m).xtime xtime =
      if selected a c m xtime then now.tvSec.setWidth 32 else inode.xtime xtime := by
  cases xtime <;> rfl

@[simp] theorem xtimeExtra_updated (inode : InodeLarge) (now : Timespec) (a c m : Bool) (xtime : Xtime) :
    (xtimeUpdated inode now a c m).xtimeExtra xtime = inode.xtimeExtra xtime := by
  cases xtime <;> rfl

@[simp] theorem fits_updated (inode : InodeLarge) (now : Timespec) (a c m : Bool) (xtime : Xtime) :
    ext4FitsInInode (xtimeUpdated inode now a c m) xtime = ext4FitsInInode inode xtime := rfl

/-- A call of the library, with its effect on the inode. -/
theorem wp_stamping (call : Call) {state : InodeLarge} {post : Answer call → InodeLarge → Prop}
    (rest : ∀ answer state', (inodeStore ino now).allows state call answer state' → post answer state') :
    wp (inodeStore ino now) call.perform post state := ⟨trivial, rest⟩

/-- `get_now` reads the clock. -/
theorem getNow_stamping (state : InodeLarge) :
    wp (inodeStore ino now) getNow (fun moment after => moment = now ∧ after = state) state := by
  unfold getNow
  rw [wp_bind]
  apply wp_stamping .clockGettime
  rintro ⟨failed, moment⟩ state' ⟨same, clock, coarse⟩
  rw [same, wp_ite]
  refine ⟨fun success => ⟨clock success, rfl⟩, fun failed => ?_⟩
  rw [wp_bind]
  apply wp_stamping .time
  rintro seconds state'' ⟨same, clock⟩
  refine ⟨?_, same⟩
  rw [clock, ← coarse failed]

/-- An update that succeeds stores the selected times, and one that fails stores nothing. -/
theorem updateXtime_stores (file : Ptr) (a c m : Bool) (before : InodeLarge) :
    wp (inodeStore ino now) (updateXtime file a c m)
      (fun err after => (err = 0 → after = xtimeUpdated before now a c m) ∧ (err ≠ 0 → after = before))
      before := by
  unfold updateXtime
  rw [wp_bind]
  apply wp_stamping (.loadFile file)
  rintro handle state ⟨same, here⟩
  rw [same, wp_bind]
  apply wp_stamping (.readInode handle.ino)
  rintro ⟨err, inode⟩ state' ⟨same, found⟩
  rw [same, wp_ite]
  refine ⟨fun failed => ⟨fun success => absurd success failed, fun _ => rfl⟩, fun success => ?_⟩
  have read : inode = before.toInode := found here (not_not.mp success)
  rw [wp_bind]
  apply wp_mono (getNow_stamping before)
  rintro moment state₁ ⟨clock, same⟩
  rw [clock, same, wp_bind]
  apply wp_stamping (.storeFileInode file _)
  intro _ state₂ same
  rw [show state₂ = before from same]
  apply wp_stamping (.writeInode handle.ino _)
  intro code state₃ written
  rw [show state₃ = _ from written]
  constructor
  · intro success
    rw [if_pos ⟨here, success⟩, read]
    rfl
  · intro failed
    exact if_neg fun both => failed both.2

/-- The second of a time in an inode with room. -/
theorem second_of_fits {xtime : Xtime} (fits : ext4FitsInInode inode xtime = true) :
    (ext4InodeGetXtime xtime inode).tvSec.toInt =
      ((inode.xtime xtime).signExtend 64).toInt + 2 ^ 32 * (storedEpoch (inode.xtimeExtra xtime) : Int) := by
  rw [ext4InodeGetXtime, fits, if_pos rfl]
  exact decode_sec _ _

/-- A stamp of `EXT4_INODE_SET_XTIME` reads as the second of the clock. -/
theorem second_of_set {xtime : Xtime} (fits : ext4FitsInInode inode xtime = true)
    (inside : InEpochs now.tvSec.toInt) :
    (ext4InodeGetXtime xtime (ext4InodeSetXtime xtime now inode)).tvSec = now.tvSec := by
  have kept : ext4FitsInInode (ext4InodeSetXtime xtime now inode) xtime = true := by
    rw [ext4InodeSetXtime]
    split <;> simpa using fits
  have stored : ext4InodeSetXtime xtime now inode =
      (inode.setXtime (now.tvSec.setWidth 32) xtime).setXtimeExtra (ext4EncodeExtraTime now) xtime := by
    rw [ext4InodeSetXtime, if_pos (by simpa using fits)]
  have split := epochOf_split now.tvSec.toInt
  rw [← toInt_lowWord] at split
  apply BitVec.toInt_inj.mp
  rw [second_of_fits kept, stored]
  simp only [InodeLarge.xtime_setXtimeExtra, InodeLarge.xtime_setXtime, if_true,
    InodeLarge.xtimeExtra_setXtimeExtra, storedEpoch_encode inside]
  exact split

/-- The claim: each selected time has the second that `EXT4_INODE_SET_XTIME` would give it, and the
other times are unchanged. -/
def StampsAgree (now : Timespec) (a c m : Bool) (before after : InodeLarge) : Prop :=
  ∀ xtime : Xtime, if selected a c m xtime then
      (ext4InodeGetXtime xtime after).tvSec =
        (ext4InodeGetXtime xtime (ext4InodeSetXtime xtime now before)).tvSec
    else ext4InodeGetXtime xtime after = ext4InodeGetXtime xtime before

/-- The extra field of each selected time has the epoch of the clock already. -/
def EpochStored (now : Timespec) (a c m : Bool) (inode : InodeLarge) : Prop :=
  ∀ xtime : Xtime, selected a c m xtime → (storedEpoch (inode.xtimeExtra xtime) : Int) = epochOf now.tvSec.toInt

/-- A low word reads as the second of the clock below the epoch of the clock, and only there. -/
theorem second_eq_iff (now : Timespec) (extra : BitVec 32) :
    (lowWord now.tvSec).toInt + 2 ^ 32 * (storedEpoch extra : Int) = now.tvSec.toInt ↔
      (storedEpoch extra : Int) = epochOf now.tvSec.toInt := by
  have split := epochOf_split now.tvSec.toInt
  rw [← toInt_lowWord] at split
  omega

theorem agree_iff (room : HasRoom inode) (inside : InEpochs now.tvSec.toInt) (a c m : Bool) :
    StampsAgree now a c m inode (xtimeUpdated inode now a c m) ↔ EpochStored now a c m inode := by
  apply forall_congr'
  intro xtime
  cases chosen : selected a c m xtime with
  | false =>
      have same : ext4InodeGetXtime xtime (xtimeUpdated inode now a c m) = ext4InodeGetXtime xtime inode := by
        simp [ext4InodeGetXtime, chosen]
      exact iff_of_true same fun none => absurd none Bool.false_ne_true
  | true =>
      rw [if_pos rfl, imp_iff_right rfl, second_of_set (room xtime) inside, ← BitVec.toInt_inj,
        second_of_fits ((fits_updated inode now a c m xtime).trans (room xtime)), xtime_updated, chosen,
        if_pos rfl, xtimeExtra_updated]
      exact second_eq_iff now _

section Runs

variable {Hidden : Type} {library : Handler Call Answer Hidden} {view : Hidden → InodeLarge}

/-- The stamps of a successful `update_xtime` agree with those of `EXT4_INODE_SET_XTIME` exactly where
the extra fields have the epoch of the clock before. -/
theorem stamps_agree_iff (honoured : (inodeStore ino now).Honoured library view)
    (least : 0 ≤ now.tvSec.toInt) (greatest : now.tvSec.toInt < 2 ^ 34 - 2 ^ 31) (file : Ptr)
    (a c m : Bool) (hidden : Hidden) (room : HasRoom (view hidden))
    (success : ((updateXtime file a c m).run library hidden).1 = 0) :
    StampsAgree now a c m (view hidden) (view ((updateXtime file a c m).run library hidden).2) ↔
      EpochStored now a c m (view hidden) := by
  have stored := run_of_wp honoured (updateXtime_stores file a c m (view hidden))
  rw [stored.1 success]
  exact agree_iff room ⟨by omega, greatest⟩ a c m

end Runs

/-- An inode with room for the extra fields, which are zero. -/
def emptyInode : InodeLarge where
  toInode := Inode.zero
  iExtraIsize := 32
  iCtimeExtra := 0
  iMtimeExtra := 0
  iAtimeExtra := 0

theorem emptyInode_hasRoom : HasRoom emptyInode := by
  intro xtime
  cases xtime <;> decide

/-- A write before 2038 stamps what `update_mtime` would. -/
theorem stamps_agree_early :
    StampsAgree ⟨5, 0⟩ false true true emptyInode
      ((updateXtime 4 false true true).run (singleInode 12 ⟨5, 0⟩) emptyInode).2 := by
  apply (stamps_agree_iff (singleInode_honours 12 ⟨5, 0⟩) (by decide) (by decide) 4 false true true
    emptyInode emptyInode_hasRoom (by decide)).mpr
  intro xtime chosen
  cases xtime <;> decide

/-- A read in 2038 stamps an access time in 1901. -/
theorem stamps_differ_2038 :
    ¬∀ (now : Timespec), 0 ≤ now.tvSec.toInt → now.tvSec.toInt < 2 ^ 34 - 2 ^ 31 →
      ∀ (inode : InodeLarge), HasRoom inode → ∀ a c m : Bool,
        StampsAgree now a c m inode ((updateXtime 4 a c m).run (singleInode 12 now) inode).2 := by
  intro every
  have agrees := every ⟨0x80000000, 0⟩ (by decide) (by decide) emptyInode emptyInode_hasRoom
    true false false .iAtime
  exact absurd agrees (by decide)

end NodeExt2fs.Stamps
