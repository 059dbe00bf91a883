import NodeExt2fs.Construction.Js.Transfers
import NodeExt2fs.Proof.Library.Serving

/-!
This file derives the effect of a read and of a write on an open file from the C code.
-/

namespace NodeExt2fs.Transfers
open Programs Glue Js Structures
open Program (wp wp_pure wp_bind wp_ite wp_perform wp_mono)

section Bookkeeping

variable {State : Type} {contract : Contract Call Answer State}

/-- The calls that a read or a write makes besides moving the handle and the data. -/
def bookkeeping : Call → Bool
  | .loadFile _ | .readInode _ | .clockGettime | .time | .storeFileInode _ _ | .writeInode _ _
  | .fileFlush _ => true
  | _ => false

/-- The bookkeeping succeeds and is not seen in the state. -/
def Leaves (contract : Contract Call Answer State) : Prop :=
  ∀ (call : Call) (state : State), bookkeeping call → contract.permits state call ∧
    ∀ answer state', contract.allows state call answer state' → call.code answer = 0 ∧ state' = state

theorem Leaves.call (leaves : Leaves contract) (call : Call) (other : bookkeeping call)
    {state : State} {post : Answer call → State → Prop}
    (rest : ∀ answer, call.code answer = 0 → post answer state) :
    wp contract call.perform post state :=
  Library.Serves.call leaves call other rest

theorem Leaves.getNow (leaves : Leaves contract) {state : State} {post : Timespec → State → Prop}
    (rest : ∀ now, post now state) : wp contract getNow post state :=
  Library.Serves.getNow leaves rfl rfl rest

/-- The stamps of the times are bookkeeping. -/
theorem Leaves.updateXtime (leaves : Leaves contract) (file : Ptr) (a c m : Bool) {state : State}
    {post : Errcode → State → Prop} (rest : post 0 state) :
    wp contract (updateXtime file a c m) post state := by
  rw [Glue.updateXtime, wp_bind]
  apply leaves.call (.loadFile file) rfl
  intro opened _
  rw [wp_bind]
  apply leaves.call (.readInode opened.ino) rfl
  intro answer success
  have fine : ¬answer.1 ≠ 0 := not_not.mpr success
  rw [wp_ite]
  apply And.intro
  · intro bad
    exact absurd bad fine
  · intro _
    rw [wp_bind]
    apply leaves.getNow
    intro now
    rw [wp_bind]
    apply leaves.call (.storeFileInode file _) rfl
    intro _ _
    apply leaves.call (.writeInode opened.ino _) rfl
    intro code zero
    rw [show code = 0 from zero]
    exact rest

theorem Leaves.stampRead (leaves : Leaves contract) (file : Ptr) (flags : BitVec 32) {state : State}
    {post : Errcode → State → Prop} (rest : post 0 state) :
    wp contract (stampRead file flags) post state := by
  rw [Glue.stampRead, wp_ite]
  exact ⟨fun _ => leaves.updateXtime file true false false rest, fun _ => rest⟩

theorem Leaves.stampWritten (leaves : Leaves contract) (file : Ptr) (flags : BitVec 32)
    {state : State} {post : Errcode → State → Prop} (rest : post 0 state) :
    wp contract (stampWritten file flags) post state := by
  rw [Glue.stampWritten, wp_ite]
  exact ⟨fun _ => leaves.updateXtime file false true true rest, fun _ => rest⟩

theorem Leaves.flushWritten (leaves : Leaves contract) (file : Ptr) (written : BitVec 32)
    {state : State} {post : Int → State → Prop} (rest : post written.toInt state) :
    wp contract (flushWritten file written) post state := by
  rw [Glue.flushWritten, wp_bind]
  apply leaves.call (.fileFlush file) rfl
  intro code success
  have fine : ¬code ≠ 0 := not_not.mpr success
  rw [if_neg fine]
  exact rest

end Bookkeeping

variable {handle buffer : Ptr}

/-- What libext2fs promises about one handle and one buffer while the disk works: a seek moves the
handle, and a read or a write works at its place and advances it. -/
def exchanging (handle buffer : Ptr) : Contract Call Answer (OpenFile × List UInt8) where
  permits _ _ := True
  allows state call answer state' :=
    match call, answer with
    | .fileLlseek target offset whence, code =>
        target = handle →
          (whence = EXT2_SEEK_SET → code = 0 ∧ state' = (state.1.seek offset.toNat, state.2)) ∧
          (whence = EXT2_SEEK_END →
            code = 0 ∧ state' = (state.1.seek (state.1.content.length + offset.toNat), state.2))
    | .fileRead target destination wanted, answer =>
        target = handle ∧ destination = buffer →
          answer.1 = 0 ∧ answer.2 = BitVec.ofNat 32 (state.1.get wanted.toNat).1.length ∧
            state' = ((state.1.get wanted.toNat).2,
              overwrite state.2 0 (state.1.get wanted.toNat).1)
    | .fileWrite target source nbytes, answer =>
        target = handle ∧ source = buffer →
          answer.1 = 0 ∧ answer.2 = nbytes ∧
            state' = (state.1.put (state.2.take nbytes.toNat), state.2)
    | call, answer => call.code answer = 0 ∧ state' = state

theorem leaves_exchanging : Leaves (exchanging handle buffer) := by
  intro call state other
  apply And.intro trivial
  intro answer state' allowed
  cases call <;> first | exact allowed | cases other

/-- The seek of a read or of a plain write. -/
theorem seek_exchanging (position : BitVec 32) {state : OpenFile × List UInt8}
    {post : Errcode → OpenFile × List UInt8 → Prop}
    (rest : post 0
      (if position ≠ noPosition then state.1.seek position.toNat else state.1, state.2)) :
    wp (exchanging handle buffer)
      (if position ≠ noPosition then ext2fsFileLlseek handle (position.setWidth 64) EXT2_SEEK_SET
        else return 0) post state := by
  have same : (position.setWidth 64).toNat = position.toNat := by
    rw [BitVec.toNat_setWidth]
    omega
  rw [wp_ite]
  apply And.intro
  · intro moved
    rw [if_pos moved] at rest
    apply And.intro trivial
    intro code state' allowed
    obtain ⟨zero, after⟩ := (allowed rfl).1 rfl
    rw [show code = 0 from zero, show state' = _ from after, same]
    exact rest
  · intro stays
    rw [if_neg stays] at rest
    exact rest

theorem fileRead_exchanging (wanted : BitVec 32) {state : OpenFile × List UInt8}
    {post : Errcode × BitVec 32 → OpenFile × List UInt8 → Prop}
    (rest : post (0, BitVec.ofNat 32 (state.1.get wanted.toNat).1.length)
      ((state.1.get wanted.toNat).2, overwrite state.2 0 (state.1.get wanted.toNat).1)) :
    wp (exchanging handle buffer) (ext2fsFileRead handle buffer wanted) post state := by
  apply And.intro trivial
  intro answer state' allowed
  obtain ⟨zero, got, after⟩ := allowed ⟨rfl, rfl⟩
  rw [show state' = _ from after, show answer = (answer.1, answer.2) from rfl, zero, got]
  exact rest

theorem fileWrite_exchanging (nbytes : BitVec 32) {state : OpenFile × List UInt8}
    {post : Errcode × BitVec 32 → OpenFile × List UInt8 → Prop}
    (rest : post (0, nbytes) (state.1.put (state.2.take nbytes.toNat), state.2)) :
    wp (exchanging handle buffer) (ext2fsFileWrite handle buffer nbytes) post state := by
  apply And.intro trivial
  intro answer state' allowed
  obtain ⟨zero, written, after⟩ := allowed ⟨rfl, rfl⟩
  rw [show state' = _ from after, show answer = (answer.1, answer.2) from rfl, zero, written]
  exact rest

/-- On a working disk, `node_ext2fs_read` does to the file and to the buffer what the model of the
binding says. -/
theorem nodeExt2fsRead_exchanging (descriptor : Descriptor) (length position : BitVec 32)
    (state : OpenFile × List UInt8) :
    wp (exchanging handle buffer) (nodeExt2fsRead handle descriptor.flags buffer length position)
      (fun result state' => (result, state'.2, state'.1) =
        bindingRead state.1 descriptor state.2 length position) state := by
  rw [nodeExt2fsRead, bindingRead, Descriptor.readable, wp_ite]
  apply And.intro
  · intro refused
    rw [refused]
    rfl
  · intro readable
    rw [Bool.not_eq_true] at readable
    rw [readable, wp_bind, seekForRead]
    apply seek_exchanging
    rw [if_neg (not_not.mpr rfl), wp_bind]
    apply fileRead_exchanging
    dsimp only
    rw [if_neg (not_not.mpr rfl), wp_bind]
    apply leaves_exchanging.stampRead
    rfl

/-- The end of the file, or the position of the call, unless it is the current one. -/
theorem seekForWrite_exchanging (descriptor : Descriptor) (position : BitVec 32)
    {state : OpenFile × List UInt8} {post : Errcode → OpenFile × List UInt8 → Prop}
    (rest : post 0 (if descriptor.appends then state.1.seekEnd
      else if position ≠ noPosition then state.1.seek position.toNat else state.1, state.2)) :
    wp (exchanging handle buffer) (seekForWrite handle descriptor.flags position) post state := by
  rw [seekForWrite, wp_ite]
  rw [Descriptor.appends] at rest
  apply And.intro
  · intro appends
    rw [if_pos appends] at rest
    apply And.intro trivial
    intro code state' allowed
    obtain ⟨zero, after⟩ := (allowed rfl).2 rfl
    rw [show code = 0 from zero, show state' = _ from after]
    exact rest
  · intro plain
    rw [if_neg plain] at rest
    exact seek_exchanging position rest

/-- On a working disk, `node_ext2fs_write` does to the file what the model of the binding says. -/
theorem nodeExt2fsWrite_exchanging (descriptor : Descriptor) (length position : BitVec 32)
    (state : OpenFile × List UInt8) :
    wp (exchanging handle buffer) (nodeExt2fsWrite handle descriptor.flags buffer length position)
      (fun result state' => (result, state'.1) =
        bindingWriteAs state.1 descriptor state.2 length position) state := by
  rw [nodeExt2fsWrite, bindingWriteAs, Descriptor.writable, wp_ite]
  apply And.intro
  · intro refused
    rw [Bool.not_eq_true'] at refused
    rw [refused]
    rfl
  · intro allowed
    have writable : hasFlag descriptor.flags (O_WRONLY ||| O_RDWR) = true := by
      simpa using allowed
    rw [if_pos writable, wp_bind]
    apply seekForWrite_exchanging
    rw [if_neg (not_not.mpr rfl), wp_bind]
    apply fileWrite_exchanging
    dsimp only
    rw [if_neg (not_not.mpr rfl), wp_bind]
    apply leaves_exchanging.stampWritten
    rw [if_neg (not_not.mpr rfl)]
    apply leaves_exchanging.flushWritten
    by_cases appends : descriptor.appends
    · simp only [if_pos appends]
    · simp only [if_neg appends, bindingWrite]

end NodeExt2fs.Transfers
