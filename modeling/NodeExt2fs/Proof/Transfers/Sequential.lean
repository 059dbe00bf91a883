import NodeExt2fs.Construction.Js.Sequences
import NodeExt2fs.Programs.Transition
import NodeExt2fs.Proof.Transfers.Positions

/-!
This file compares sequences of reads and writes with a file that has a current position.
-/

namespace NodeExt2fs.Transfers
open Programs Glue Js Js.Comparison Structures

variable {descriptor : Descriptor} {content : List UInt8} {state state' : Comparison}

theorem place_none (file : OpenFile) : place file (Position.argument none) = file.position :=
  if_neg (not_not.mpr (by decide))

theorem place_some (file : OpenFile) (position : Fin (2 ^ 32 - 1)) :
    place file (Position.argument (some position)) = position :=
  place_of_lt position.isLt file

/-- The place of a call is the one of the model when the handle stands where the model is. -/
theorem place_eq_start {file : OpenFile} {model : FileModel} {position : Position}
    (standing : position = none → file.position = model.current) :
    place file position.argument = model.start position := by
  cases position with
  | none => rw [place_none, standing rfl, FileModel.start]
  | some position => rw [place_some, FileModel.start]

theorem content_advance (model : FileModel) (content : List UInt8) (start count : Nat)
    (position : Position) : (model.advance content start count position).content = content := by
  cases position <;> rfl

/-- A read that finds the handle in place does what the model does. -/
theorem read_agrees {file : OpenFile} {model : FileModel} (same : file.content = model.content)
    (allocation : Allocation) (buffer : List UInt8) (offset : Nat) (length : Fin (2 ^ 31))
    (position : Position)
    (standing : (length : Nat) ≠ 0 → descriptor.readable = true → position = none →
      file.position = model.current) :
    (Transfer.perform descriptor file (.read allocation buffer offset length position)).1 =
        (model.perform descriptor (.read allocation buffer offset length position)).1 ∧
      (Transfer.perform descriptor file (.read allocation buffer offset length position)).2.content =
        (model.perform descriptor (.read allocation buffer offset length position)).2.content := by
  rw [Transfer.perform, FileModel.perform]
  by_cases empty : (length : Nat) = 0
  · have nothing : Fs.read file descriptor allocation buffer offset length position.argument =
        (.ok (0, buffer), file) := by
      rw [Fs.read, if_pos empty]
    rw [nothing, if_pos empty]
    exact ⟨congrArg (Reply.transferred 0) List.take_zero, same⟩
  · rw [if_neg empty]
    by_cases readable : descriptor.readable = true
    · obtain ⟨buffer', done, delivered⟩ := @read_readable file descriptor allocation readable buffer
        offset length empty length.isLt position.argument
      rw [place_eq_start (standing empty readable), same] at done delivered
      rw [done, if_pos readable]
      simp only [content_advance]
      exact ⟨congrArg (Reply.transferred _) delivered, same⟩
    · rw [Bool.not_eq_true] at readable
      obtain ⟨exception, errno, done⟩ := @read_refused file descriptor allocation readable buffer
        offset length empty position.argument
      rw [done, readable]
      exact ⟨congrArg Reply.rejected errno, same⟩

/-- A write that finds the handle in place does what the model does. -/
theorem write_agrees {file : OpenFile} {model : FileModel} (same : file.content = model.content)
    (allocation : Allocation) (source : Source) (position : Position)
    (standing : source.length ≠ 0 → descriptor.writable = true → descriptor.appends = false →
      position = none → file.position = model.current) :
    (Transfer.perform descriptor file (.write allocation source position)).1 =
        (model.perform descriptor (.write allocation source position)).1 ∧
      (Transfer.perform descriptor file (.write allocation source position)).2.content =
        (model.perform descriptor (.write allocation source position)).2.content := by
  rw [Transfer.perform, FileModel.perform]
  by_cases writable : descriptor.writable = true
  · rw [writeBuffer_writable writable source.inside source.short, if_pos writable]
    simp only [content_advance]
    apply And.intro rfl
    change splice file.content (writePlace file descriptor position.argument) source.data = _
    by_cases empty : source.length = 0
    · have nothing : source.data = [] := by
        rw [Source.data, empty]
        exact List.take_zero
      rw [nothing, splice, splice, if_pos rfl, if_pos rfl, same]
    · rw [writePlace, same]
      by_cases appends : descriptor.appends = true
      · rw [if_pos appends, if_pos appends]
      · rw [if_neg appends, if_neg appends]
        rw [Bool.not_eq_true] at appends
        rw [place_eq_start (standing empty writable appends)]
  · rw [Bool.not_eq_true] at writable
    obtain ⟨exception, errno, done⟩ := @writeBuffer_refused file descriptor allocation writable
      source.buffer (.ofNat source.offset) (.ofNat source.length) position.argument
    rw [done, writable]
    exact ⟨congrArg Reply.rejected errno, same⟩

/-- A call that finds the handle in place keeps the file and the model equal. -/
theorem agrees_step {transfer : Transfer} (agrees : state.Agrees)
    (standing : Standing descriptor state transfer)
    (taken : step descriptor state transfer = some state') : state'.Agrees := by
  have one : (transfer.perform descriptor state.file).1 =
        (state.model.perform descriptor transfer).1 ∧
      (transfer.perform descriptor state.file).2.content =
        (state.model.perform descriptor transfer).2.content := by
    cases transfer with
    | read allocation buffer offset length position =>
        exact read_agrees agrees.content allocation buffer offset length position standing
    | write allocation source position =>
        exact write_agrees agrees.content allocation source position standing
  obtain rfl := Option.some.inj taken
  constructor
  · exact one.2
  · intro pair member
    rcases List.mem_append.mp member with earlier | last
    · exact agrees.replies pair earlier
    · rw [List.mem_singleton.mp last]
      exact one.1

/-- A run agrees with the model when every call at the current position finds the handle there. -/
theorem agrees_of_standing (reached : Reaches (step descriptor) (Standing descriptor)
    (opened content) state) : state.Agrees := by
  apply reached.invariant
  · exact ⟨rfl, fun pair member => absurd member List.not_mem_nil⟩
  · intro state transfer state' agrees standing taken
    exact agrees_step agrees standing taken

/-- Bytes are written, and the first of them is read back at its position. -/
theorem agrees_write_read :
    ∃ state, follow (step ⟨5, O_RDWR⟩) (opened [])
        [.write ⟨8, fun _ => 0⟩ ⟨[1, 2], 0, 2, by decide, by decide⟩ none,
          .read ⟨8, fun _ => 0⟩ [0] 0 1 (some ⟨0, by decide⟩)] = some state ∧
      state.replies.map Prod.fst = [.transferred 2 [], .transferred 1 [1]] ∧ state.Agrees := by
  refine ⟨_, rfl, rfl, agrees_of_standing (@reaches_of_follow _ _ _ _ _ _ _
    [.write ⟨8, fun _ => 0⟩ ⟨[1, 2], 0, 2, by decide, by decide⟩ none,
      .read ⟨8, fun _ => 0⟩ [0] 0 1 (some ⟨0, by decide⟩)] .first ?_ rfl)⟩
  apply And.intro
  · intro _ _ _ _
    rfl
  · intro state taken
    apply And.intro
    · intro _ _ positionless
      cases positionless
    · intro _ _
      trivial

/-- A read at a position moves the handle, and the next read without one works there. -/
theorem positional_read_moves :
    ¬∀ (descriptor : Descriptor) (content : List UInt8) (state : Comparison),
      Reaches (step descriptor) (fun _ _ => True) (opened content) state → state.Agrees := by
  intro agrees
  have wrong := agrees ⟨5, 0⟩ [1, 2, 3] _ (reaches_of_follow .first
    (along_of_forall (fun _ _ => trivial) _ [.read ⟨8, fun _ => 0⟩ [0] 0 1 (some ⟨1, by decide⟩),
      .read ⟨8, fun _ => 0⟩ [0] 0 1 none]) rfl)
  exact absurd (wrong.replies (.transferred 1 [3], .transferred 1 [1]) (by decide)) (by decide)

/-- The handle keeps to the model while no call has a position. -/
theorem handle_step {transfer : Transfer} (agrees : state.Agrees)
    (together : state.file.position = state.model.current) (none : transfer.position = none)
    (taken : step descriptor state transfer = some state') :
    state'.file.position = state'.model.current := by
  obtain rfl := Option.some.inj taken
  cases transfer with
  | read allocation buffer offset length position =>
      have here : position = .none := none
      rw [here]
      change (Transfer.perform descriptor state.file _).2.position =
        (FileModel.perform descriptor state.model _).2.current
      rw [Transfer.perform, FileModel.perform]
      by_cases empty : (length : Nat) = 0
      · have nothing : Fs.read state.file descriptor allocation buffer offset length
            (Position.argument .none) = (.ok (0, buffer), state.file) := by
          rw [Fs.read, if_pos empty]
        rw [nothing, if_pos empty]
        exact together
      · rw [if_neg empty]
        by_cases readable : descriptor.readable = true
        · obtain ⟨buffer', done, -⟩ := @read_readable state.file descriptor allocation readable buffer
            offset length empty length.isLt (Position.argument .none)
          rw [place_none, together, agrees.content] at done
          rw [done, if_pos readable]
          rfl
        · rw [Bool.not_eq_true] at readable
          obtain ⟨exception, -, done⟩ := @read_refused state.file descriptor allocation readable
            buffer offset length empty (Position.argument .none)
          rw [done, readable]
          exact together
  | write allocation source position =>
      have here : position = .none := none
      rw [here]
      change (Transfer.perform descriptor state.file _).2.position =
        (FileModel.perform descriptor state.model _).2.current
      rw [Transfer.perform, FileModel.perform]
      by_cases writable : descriptor.writable = true
      · rw [writeBuffer_writable writable source.inside source.short, if_pos writable]
        change writePlace state.file descriptor (Position.argument .none) +
          (slice source.buffer source.offset source.length).length = _ + source.length
        rw [length_slice source.inside, writePlace, place_none, agrees.content, together]
        rfl
      · rw [Bool.not_eq_true] at writable
        obtain ⟨exception, -, done⟩ := @writeBuffer_refused state.file descriptor allocation writable
          source.buffer (.ofNat source.offset) (.ofNat source.length) (Position.argument .none)
        rw [done, writable]
        exact together

/-- Calls without positions, and calls with positions, agree with the model as long as they are not
mixed. -/
theorem agrees_unmixed {positioned : Bool}
    (reached : Reaches (step descriptor) (fun _ transfer => transfer.position.isSome = positioned)
      (opened content) state) : state.Agrees := by
  have both : state.Agrees ∧ (positioned = false → state.file.position = state.model.current) := by
    apply reached.invariant
    · exact ⟨⟨rfl, fun pair member => absurd member List.not_mem_nil⟩, fun _ => rfl⟩
    · intro state transfer state' invariant uniform taken
      obtain ⟨agrees, together⟩ := invariant
      have standing (none : transfer.position = none) : state.file.position = state.model.current := by
        rw [none] at uniform
        exact together uniform.symm
      apply And.intro
      · apply agrees_step agrees _ taken
        cases transfer with
        | read _ _ _ _ position => exact fun _ _ => standing
        | write _ _ position => exact fun _ _ _ => standing
      · intro never
        have none : transfer.position = none := by
          rw [never] at uniform
          exact Option.not_isSome_iff_eq_none.mp (Bool.not_eq_true _ ▸ uniform)
        exact handle_step agrees (together never) none taken
  exact both.1

end NodeExt2fs.Transfers
