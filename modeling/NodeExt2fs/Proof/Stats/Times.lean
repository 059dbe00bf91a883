import NodeExt2fs.Construction.Library.Dating
import NodeExt2fs.Proof.Library.Requests

/-!
This file settles which operations on a file set the times of its last changes as they should.
-/

namespace NodeExt2fs.Times
open Programs Glue Library
open Program (Only only_perform only_bind only_ite wp wp_pure wp_bind wp_ite wp_mono wp_of_only run_of_wp
  run_of_wp_tracking)

variable {ino : Ino} {now : BitVec 64} {state : Dated}

/-- Both times are those of another state. -/
def SameTimes (state state' : Dated) : Prop :=
  state'.ctime = state.ctime ∧ state'.mtime = state.mtime

theorem SameTimes.refl (state : Dated) : SameTimes state state := ⟨rfl, rfl⟩

theorem SameTimes.trans {first second third : Dated} (before : SameTimes first second)
    (after : SameTimes second third) : SameTimes first third :=
  ⟨after.1.trans before.1, after.2.trans before.2⟩

/-- Both times have the low bits of the clock. -/
def Stamped (now : BitVec 64) (state : Dated) : Prop :=
  state.ctime = now.setWidth 32 ∧ state.mtime = now.setWidth 32

/-- Only `ext2fs_write_inode` sets times. -/
def dateless : Call → Bool
  | .writeInode _ _ => false
  | _ => true

theorem same_of_dateless {call : Call} (other : dateless call = true) {answer : Answer call}
    {state' : Dated} (allowed : (dating ino now).allows state call answer state') :
    SameTimes state state' := by
  have kept : (state'.ctime = state.ctime ∧ state'.mtime = state.mtime) ∨ state' = state := by
    cases call <;> first
      | exact .inl allowed
      | exact .inr allowed
      | exact .inr allowed.1
      | cases other
  rcases kept with same | same
  · exact same
  · rw [same]
    exact .refl state

/-- A routine without that call leaves the times. -/
theorem wp_dateless {A : Type} {routine : Routine A} (only : routine.Only fun call => dateless call = true)
    (state : Dated) : wp (dating ino now) routine (fun _ => SameTimes state) state :=
  wp_of_only SameTimes.refl (fun _ _ _ => SameTimes.trans)
    (fun _ _ other => ⟨trivial, fun _ _ allowed => same_of_dateless other allowed⟩) only state

theorem making_dateless (call : Call) (listed : makes call = true) : dateless call = true := by
  cases call <;> first | rfl | cases listed

theorem nodeExt2fsOpen_dateless (path : Path) (flags mode : BitVec 32) :
    (nodeExt2fsOpen path flags mode).Only fun call => dateless call = true := by
  rw [nodeExt2fsOpen_eq]
  have adds : Adds fun call => dateless call = true := ⟨fun _ => rfl, fun _ _ _ _ => rfl, fun _ => rfl⟩
  apply only_bind (findOrCreate_only making_dateless adds path flags mode)
  intro found
  exact openFound_only making_dateless (fun _ _ => rfl) (fun _ => rfl) flags found

/-- A call of the library, with its effect on the times. -/
theorem wp_dating (call : Call) {post : Answer call → Dated → Prop}
    (rest : ∀ answer state', (dating ino now).allows state call answer state' → post answer state') :
    wp (dating ino now) call.perform post state := ⟨trivial, rest⟩

/-- A stamp of the access time writes the other times back. -/
theorem updateXtime_accessed (file : Ptr) (state : Dated) :
    wp (dating ino now) (updateXtime file true false false) (fun _ => SameTimes state) state := by
  unfold updateXtime
  rw [wp_bind]
  apply wp_dating (.loadFile file)
  rintro handle state' ⟨same, here⟩
  rw [same, wp_bind]
  apply wp_dating (.readInode handle.ino)
  rintro ⟨err, inode⟩ state'' ⟨same, found⟩
  rw [same, wp_ite]
  refine ⟨fun _ => .refl state, fun success => ?_⟩
  obtain ⟨ctime, mtime⟩ := found here (not_not.mp success)
  rw [wp_bind]
  have clocks : getNow.Only fun call => dateless call = true := getNow_clocks rfl rfl
  apply wp_mono (wp_dateless clocks state)
  intro moment state₁ kept
  rw [wp_bind]
  apply wp_dating (.storeFileInode file _)
  intro _ state₂ same
  rw [show state₂ = state₁ from same]
  apply wp_dating (.writeInode handle.ino _)
  intro code state₃ written
  apply kept.trans
  rw [show state₃ = _ from written]
  split
  · exact ⟨ctime.trans kept.1.symm, mtime.trans kept.2.symm⟩
  · exact .refl state₁

theorem nodeExt2fsRead_keeps (file : Ptr) (flags : BitVec 32) (buffer : Ptr)
    (length position : BitVec 32) (state : Dated) :
    wp (dating ino now) (nodeExt2fsRead file flags buffer length position) (fun _ => SameTimes state)
      state := by
  have sought : (seekForRead file position).Only fun call => dateless call = true := by
    unfold seekForRead
    exact only_ite (only_call (.fileLlseek file _ _) rfl) trivial
  have stamped (state : Dated) :
      wp (dating ino now) (stampRead file flags) (fun _ => SameTimes state) state := by
    unfold stampRead
    rw [wp_ite]
    exact ⟨fun _ => updateXtime_accessed file state, fun _ => .refl state⟩
  unfold nodeExt2fsRead
  rw [wp_ite]
  refine ⟨fun _ => .refl state, fun _ => ?_⟩
  rw [wp_bind]
  apply wp_mono (wp_dateless sought state)
  intro ret state₁ moved
  rw [wp_ite]
  refine ⟨fun _ => moved, fun _ => ?_⟩
  rw [wp_bind]
  apply wp_dating (.fileRead file buffer length)
  intro answer state₂ same
  rw [show state₂ = state₁ from same, wp_ite]
  refine ⟨fun _ => moved, fun _ => ?_⟩
  rw [wp_bind]
  apply wp_mono (stamped state₁)
  intro ret state₃ kept
  rw [wp_ite]
  exact ⟨fun _ => moved.trans kept, fun _ => moved.trans kept⟩

/-- The flushes, of which a write drops the codes. -/
def flushes : Call → Bool
  | .fileFlush _ | .flush => true
  | _ => false

/-- The call succeeded, or its code is dropped. -/
def Smooth (event : CallEvent) : Prop := flushes event.1 = false → event.code = 0

instance (event : CallEvent) : Decidable (Smooth event) := inferInstanceAs (Decidable (_ → _))

/-- A call that flushes is smooth whatever it answers. -/
theorem smooth_flushing {event : CallEvent} (flushing : flushes event.1 = true) : Smooth event :=
  fun loud => absurd (loud.symm.trans flushing) Bool.false_ne_true

/-- The contract that keeps whether all calls went smoothly. -/
abbrev watched (ino : Ino) (now : BitVec 64) : Contract Call Answer (Dated × Prop) :=
  (dating ino now).tracking Smooth

/-- A call succeeds, or is the first one that fails. -/
theorem wp_attempt (call : Call) (loud : flushes call = false) {post : Answer call → Dated × Prop → Prop}
    (good : ∀ answer state', call.code answer = 0 → (dating ino now).allows state call answer state' →
      post answer (state', True))
    (bad : ∀ answer state', call.code answer ≠ 0 → (dating ino now).allows state call answer state' →
      post answer (state', False)) :
    wp (watched ino now) call.perform post (state, True) := by
  refine ⟨trivial, ?_⟩
  rintro answer ⟨state', smooth⟩ ⟨allowed, tracked⟩
  by_cases success : call.code answer = 0
  · have holds : smooth = True := by
      rw [show smooth = _ from tracked]
      exact eq_true ⟨trivial, fun _ => success⟩
    rw [holds]
    exact good answer state' success allowed
  · have fails : smooth = False := by
      rw [show smooth = _ from tracked]
      exact eq_false fun both => success (both.2 loud)
    rw [fails]
    exact bad answer state' success allowed

/-- A call without a code that counts. -/
theorem wp_smooth (call : Call) (quiet : ∀ answer, Smooth ⟨call, answer⟩)
    {post : Answer call → Dated × Prop → Prop}
    (rest : ∀ answer state', (dating ino now).allows state call answer state' →
      post answer (state', True)) :
    wp (watched ino now) call.perform post (state, True) := by
  refine ⟨trivial, ?_⟩
  rintro answer ⟨state', smooth⟩ ⟨allowed, tracked⟩
  have holds : smooth = True := by
    rw [show smooth = _ from tracked]
    exact eq_true ⟨trivial, quiet answer⟩
  rw [holds]
  exact rest answer state' allowed

/-- The outcome of a part: it went smoothly to the given end, or failed and left the times. -/
def Either (state : Dated) (ends : Dated → Prop) (err : Errcode) (after : Dated × Prop) : Prop :=
  (err = 0 ∧ after.2 = True ∧ ends after.1) ∨ (err ≠ 0 ∧ after.2 = False ∧ SameTimes state after.1)

theorem getNow_watched :
    wp (watched ino now) getNow
      (fun moment after => moment.tvSec = now ∧ after = (state, True)) (state, True) := by
  unfold getNow
  rw [wp_bind]
  apply wp_smooth .clockGettime (fun _ _ => rfl)
  rintro ⟨failed, moment⟩ state' ⟨same, clock⟩
  rw [same, wp_ite]
  refine ⟨fun success => ⟨clock success, rfl⟩, fun _ => ?_⟩
  rw [wp_bind]
  apply wp_smooth .time (fun _ _ => rfl)
  rintro seconds state'' ⟨same, clock⟩
  exact ⟨clock, Prod.ext same rfl⟩

theorem updateXtime_stamps (file : Ptr) (state : Dated) :
    wp (watched ino now) (updateXtime file false true true) (Either state (Stamped now))
      (state, True) := by
  unfold updateXtime
  rw [wp_bind]
  apply wp_smooth (.loadFile file) (fun _ _ => rfl)
  rintro handle state' ⟨same, here⟩
  rw [same, wp_bind]
  apply wp_attempt (.readInode handle.ino) rfl
  · rintro ⟨err, inode⟩ state'' success ⟨same, found⟩
    rw [same, wp_ite]
    refine ⟨fun bad => absurd success bad, fun _ => ?_⟩
    rw [wp_bind]
    apply wp_mono getNow_watched
    rintro moment after ⟨clock, rfl⟩
    rw [wp_bind]
    apply wp_smooth (.storeFileInode file _) (fun _ _ => rfl)
    intro _ state₁ same
    rw [show state₁ = state from same]
    apply wp_attempt (.writeInode handle.ino _) rfl
    · intro code state₂ success written
      rw [show state₂ = _ from written, if_pos ⟨here, success⟩]
      refine .inl ⟨success, rfl, ?_⟩
      rw [← clock]
      exact ⟨rfl, rfl⟩
    · intro code state₂ failed written
      have kept : state₂ = state := by
        rw [show state₂ = _ from written, if_neg fun both => failed both.2]
      exact .inr ⟨failed, rfl, by rw [kept]; exact .refl state⟩
  · rintro ⟨err, inode⟩ state'' failed ⟨same, _⟩
    rw [same, wp_ite]
    exact ⟨fun _ => .inr ⟨failed, rfl, .refl state⟩, fun success => absurd failed success⟩

theorem seekForWrite_watched (file : Ptr) (flags position : BitVec 32) (state : Dated) :
    wp (watched ino now) (seekForWrite file flags position) (Either state (SameTimes state))
      (state, True) := by
  have each (offset : BitVec 64) (whence : Nat) :
      wp (watched ino now) (ext2fsFileLlseek file offset whence) (Either state (SameTimes state))
        (state, True) := by
    apply wp_attempt (.fileLlseek file offset whence) rfl
    · intro code state' success same
      exact .inl ⟨success, rfl, same_of_dateless rfl same⟩
    · intro code state' failed same
      exact .inr ⟨failed, rfl, same_of_dateless rfl same⟩
  unfold seekForWrite
  rw [wp_ite, wp_ite]
  exact ⟨fun _ => each _ _, fun _ => ⟨fun _ => each _ _, fun _ => .inl ⟨rfl, rfl, .refl state⟩⟩⟩

/-- The flush at the end of a write is smooth whatever its code is. -/
theorem flushWritten_watched (file : Ptr) (written : BitVec 32) (state : Dated) :
    wp (watched ino now) (flushWritten file written)
      (fun _ after => after.2 = True ∧ SameTimes state after.1) (state, True) := by
  unfold flushWritten
  rw [wp_bind]
  apply wp_smooth (.fileFlush file) fun _ => smooth_flushing rfl
  intro err state' same
  rw [show state' = state from same]
  unfold translateError
  simp only [wp_ite, wp_bind, wp_pure]
  refine ⟨fun _ => ⟨fun _ => ⟨trivial, .refl state⟩,
      fun _ => ⟨fun _ => ?_, fun _ => ⟨trivial, .refl state⟩⟩⟩,
    fun _ => ⟨trivial, .refl state⟩⟩
  apply wp_smooth .markSuperDirty (fun _ _ => rfl)
  intro _ state₁ same
  rw [show state₁ = state from same]
  apply wp_smooth .flush fun _ => smooth_flushing rfl
  intro _ state₂ same
  exact ⟨rfl, same_of_dateless rfl same⟩

/-- A step sets both times to the clock, or leaves them. -/
def Moves (now : BitVec 64) (stamps : Prop) (before after : Dated) : Prop :=
  (stamps → Stamped now after) ∧ (¬stamps → SameTimes before after)

theorem Moves.kept {stamps : Prop} {before after : Dated} (none : ¬stamps)
    (same : SameTimes before after) : Moves now stamps before after :=
  ⟨fun holds => absurd holds none, fun _ => same⟩

/-- A write stamps the file if it was opened with `O_CREAT` and every call succeeds. -/
theorem nodeExt2fsWrite_moves (file : Ptr) (flags : BitVec 32) (buffer : Ptr)
    (length position : BitVec 32) (state : Dated) :
    wp (watched ino now) (nodeExt2fsWrite file flags buffer length position)
      (fun _ after => Moves now (hasFlag flags (O_WRONLY ||| O_RDWR) = true ∧
        hasFlag flags O_CREAT = true ∧ after.2) state after.1) (state, True) := by
  unfold nodeExt2fsWrite
  rw [wp_ite]
  constructor
  · intro refused
    apply Moves.kept _ (.refl state)
    rintro ⟨writable, _⟩
    rw [writable] at refused
    cases refused
  · intro accepted
    rw [wp_bind]
    apply wp_mono (seekForWrite_watched file flags position state)
    rintro ret ⟨state₁, smooth⟩ (⟨success, rfl, kept⟩ | ⟨failed, rfl, kept⟩)
    · rw [wp_ite]
      refine ⟨fun bad => absurd success bad, fun _ => ?_⟩
      rw [wp_bind]
      apply wp_attempt (.fileWrite file buffer length) rfl
      · rintro ⟨ret, written⟩ state₂ success moved
        have kept := kept.trans moved
        rw [wp_ite]
        refine ⟨fun bad => absurd success bad, fun _ => ?_⟩
        unfold stampWritten
        rw [wp_bind, wp_ite]
        constructor
        · intro creat
          apply wp_mono (updateXtime_stamps file state₂)
          rintro ret ⟨state₃, smooth⟩ (⟨success, rfl, stamped⟩ | ⟨failed, rfl, same⟩)
          · rw [wp_ite]
            refine ⟨fun bad => absurd success bad, fun _ => ?_⟩
            apply wp_mono (flushWritten_watched file written state₃)
            rintro _ ⟨state₄, smooth⟩ ⟨rfl, flushed⟩
            refine ⟨fun _ => ?_, fun stamps => absurd ⟨?_, creat, trivial⟩ stamps⟩
            · exact ⟨flushed.1.trans stamped.1, flushed.2.trans stamped.2⟩
            · simpa using accepted
          · rw [wp_ite]
            refine ⟨fun _ => ?_, fun success => absurd failed success⟩
            exact .kept (fun stamps => stamps.2.2) (kept.trans same)
        · intro plain
          rw [wp_pure, wp_ite]
          refine ⟨fun bad => absurd rfl bad, fun _ => ?_⟩
          apply wp_mono (flushWritten_watched file written state₂)
          rintro _ ⟨state₄, smooth⟩ ⟨_, flushed⟩
          exact .kept (fun stamps => plain stamps.2.1) (kept.trans flushed)
      · rintro ⟨ret, written⟩ state₂ failed moved
        rw [wp_ite]
        refine ⟨fun _ => ?_, fun success => absurd failed success⟩
        exact .kept (fun stamps => stamps.2.2) (kept.trans moved)
    · rw [wp_ite]
      refine ⟨fun _ => ?_, fun success => absurd failed success⟩
      exact .kept (fun stamps => stamps.2.2) kept

section Runs

variable {Hidden : Type} {library : BitVec 64 → Handler Call Answer Hidden} {view : Hidden → Dated}

/-- The operation is an accepted write through a handle with `O_CREAT`, and of its calls none but a
flush fails. -/
def Stamps (library : BitVec 64 → Handler Call Answer Hidden) (hidden : Hidden) (call : DataCall) : Prop :=
  match call.operation with
  | .write _ flags _ _ _ =>
      hasFlag flags (O_WRONLY ||| O_RDWR) = true ∧ hasFlag flags O_CREAT = true ∧
        ∀ event ∈ call.operation.routine.events (library call.now) hidden, Smooth event
  | _ => False

/-- Every operation sets both times, or leaves both. -/
theorem step_moves (honoured : ∀ now, (dating ino now).Honoured (library now) view) (hidden : Hidden)
    (call : DataCall) :
    Moves call.now (Stamps library hidden call) (view hidden)
      (view (call.operation.routine.run (library call.now) hidden).2) := by
  obtain ⟨operation, now⟩ := call
  cases operation with
  | «open» path flags mode =>
      apply Moves.kept id
      exact run_of_wp (honoured now) (wp_dateless (nodeExt2fsOpen_dateless path flags mode) (view hidden))
  | read file flags buffer length position =>
      apply Moves.kept id
      exact run_of_wp (honoured now) (nodeExt2fsRead_keeps file flags buffer length position (view hidden))
  | write file flags buffer length position =>
      have moves := run_of_wp_tracking (honoured now)
        (nodeExt2fsWrite_moves file flags buffer length position (view hidden))
      simp only [true_and] at moves
      exact moves

/-- The claim about one operation: the times follow a change of the data, and only that. -/
def Follows (library : BitVec 64 → Handler Call Answer Hidden) (view : Hidden → Dated) (hidden : Hidden)
    (call : DataCall) : Prop :=
  let after := view (call.operation.routine.run (library call.now) hidden).2
  (after.content ≠ (view hidden).content → Stamped call.now after) ∧
    (after.content = (view hidden).content → after.mtime = (view hidden).mtime)

/-- The operation changes the data and stamps the file, or does neither; or the times are the right ones
already. -/
def Attentive (library : BitVec 64 → Handler Call Answer Hidden) (view : Hidden → Dated) (hidden : Hidden)
    (call : DataCall) : Prop :=
  let after := view (call.operation.routine.run (library call.now) hidden).2
  (after.content ≠ (view hidden).content →
      Stamps library hidden call ∨ Stamped call.now (view hidden)) ∧
    (after.content = (view hidden).content → Stamps library hidden call →
      (view hidden).mtime = call.now.setWidth 32)

theorem follows_iff (honoured : ∀ now, (dating ino now).Honoured (library now) view) (hidden : Hidden)
    (call : DataCall) : Follows library view hidden call ↔ Attentive library view hidden call := by
  have moves := step_moves honoured hidden call
  unfold Follows Attentive
  generalize view (call.operation.routine.run (library call.now) hidden).2 = after at moves ⊢
  by_cases stamps : Stamps library hidden call
  · have stamped := moves.1 stamps
    apply and_congr
    · exact iff_of_true (fun _ => stamped) (fun _ => .inl stamps)
    · apply imp_congr_right
      intro _
      rw [imp_iff_right stamps, stamped.2]
      exact eq_comm
  · obtain ⟨ctime, mtime⟩ := moves.2 stamps
    apply and_congr
    · apply imp_congr_right
      intro _
      rw [or_iff_right stamps, Stamped, ctime, mtime]
      exact Iff.rfl
    · exact iff_of_true (fun _ => mtime) (fun _ holds => absurd holds stamps)

/-- The times follow the data through exactly the histories in which every operation is attentive. -/
theorem mtime_follows_iff (honoured : ∀ now, (dating ino now).Honoured (library now) view)
    (hidden : Hidden) (calls : List DataCall) :
    Along (DataCall.step library) (Follows library view) hidden calls ↔
      Along (DataCall.step library) (Attentive library view) hidden calls :=
  along_congr (follows_iff honoured) hidden calls

end Runs

/-- The library in memory does with the file what libext2fs does. -/
theorem oneFile_honours (ino : Ino) (memory : Ptr → List UInt8) (now : BitVec 64) :
    (dating ino now).Honoured (oneFile ino memory now) Prod.fst := by
  intro call state
  cases call with
  | writeInode target inode =>
      by_cases here : target = ino
      · simp [dating, oneFile, here]
      · simp [dating, oneFile, here]
  | fileWrite file buffer nbytes => exact ⟨rfl, rfl⟩
  | fileSetSize file size => exact ⟨rfl, rfl⟩
  | readInode target => exact ⟨rfl, fun _ _ => ⟨rfl, rfl⟩⟩
  | loadFile file => exact ⟨rfl, rfl⟩
  | clockGettime => exact ⟨rfl, fun _ => rfl⟩
  | time => exact ⟨rfl, rfl⟩
  | _ => rfl

/-- A new byte through a handle that may create sets the times. -/
theorem mtime_follows_created :
    Along (DataCall.step (oneFile 12 fun _ => [1]))
      (Follows (oneFile 12 fun _ => [1]) Prod.fst) (⟨[0], 0, 0⟩, 0)
      [⟨.write 4 (O_WRONLY ||| O_CREAT) 8 1 0, 7⟩] := by
  apply (mtime_follows_iff (oneFile_honours 12 fun _ => [1]) _ _).mpr
  refine ⟨⟨fun _ => .inl ⟨by decide, by decide, by decide⟩, ?_⟩, fun _ _ => trivial⟩
  intro same
  exact absurd same (by decide)

/-- A new byte through a handle without `O_CREAT` leaves the times. -/
theorem mtime_stays :
    ¬∀ (hidden : Dated × Nat) (calls : List DataCall),
      Along (DataCall.step (oneFile 12 fun _ => [1]))
        (Follows (oneFile 12 fun _ => [1]) Prod.fst) hidden calls := by
  intro every
  have follows := (every (⟨[0], 0, 0⟩, 0) [⟨.write 4 O_RDWR 8 1 0, 7⟩]).1.1
  exact absurd (follows (by decide)) (by unfold Stamped; decide)

end NodeExt2fs.Times
