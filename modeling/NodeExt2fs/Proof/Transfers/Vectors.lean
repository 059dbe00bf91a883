import NodeExt2fs.Construction.Js.Vectors
import NodeExt2fs.Proof.Streams.Writing
import NodeExt2fs.Proof.Transfers.Positions
import NodeExt2fs.Proof.Transfers.Touched

/-!
This file compares `writev` and `readv` with one transfer of all their buffers.
-/

namespace NodeExt2fs.Transfers
open Programs Glue Js Structures
open Streams (Script perform landing landings slots aims batchShifts shifted Lands)

section Splicing

variable {content first second : List UInt8} {start : Nat}

/-- Bytes after bytes that were just placed are placed with them. -/
theorem splice_splice :
    splice (splice content start first) (start + first.length) second =
      splice content start (first ++ second) := by
  by_cases empty : first = []
  · simp [empty, splice]
  · by_cases nothing : second = []
    · simp [nothing, splice]
    · have some : first ++ second ≠ [] := by simp [empty]
      apply List.ext_getElem?
      intro index
      rw [getElem?_splice nothing, getElem?_splice empty, getElem?_splice some, length_splice,
        if_neg empty, List.length_append, List.getElem?_append]
      grind

theorem foldl_slots_splice (chunks : List (List UInt8)) :
    (slots (start + first.length) chunks).foldl
        (fun content range => splice content range.1 range.2) (splice content start first) =
      splice content start (first ++ chunks.flatten) := by
  induction chunks generalizing first with
  | nil => simp [slots]
  | cons chunk rest ih =>
      have step := @ih (first ++ chunk)
      rw [List.length_append, ← Nat.add_assoc, ← splice_splice] at step
      rw [slots, List.flatten_cons, ← List.append_assoc, ← step, List.foldl_append]
      by_cases empty : chunk = []
      · simp [empty, splice]
      · simp [empty]

/-- Chunks one after the other make the same content as their concatenation. -/
theorem foldl_slots_flatten (content : List UInt8) (start : Nat) (chunks : List (List UInt8)) :
    (slots start chunks).foldl (fun content range => splice content range.1 range.2) content =
      splice content start chunks.flatten := by
  have all := @foldl_slots_splice content [] start chunks
  rw [List.length_nil, Nat.add_zero, List.nil_append] at all
  exact all

end Splicing

/-- One write of a script through a descriptor. -/
def performAs (descriptor : Descriptor) (file : OpenFile) (entry : List UInt8 × Int) : OpenFile :=
  (file.seek (writePlace file descriptor (.number (some entry.2)))).put entry.1

variable {file : OpenFile} {descriptor : Descriptor} {heap : Heap}

/-- The position of the next buffer. -/
theorem position_moved (position total : Int) :
    (if (JsValue.number (some position)).isAbove (-1) then
        (JsValue.number (some position)).add (.number (some total))
      else .number (some position)) =
      .number (some (if position > -1 then position + total else position)) := by
  by_cases above : position > -1
  · simp [JsValue.isAbove, JsValue.toNumber, JsValue.add, above]
  · simp [JsValue.isAbove, JsValue.toNumber, above]

/-- The loop of `writev` performs its script when every write is complete. -/
theorem writevLoop_done (writable : descriptor.writable = true) {buffers : List (List UInt8)}
    (short : ∀ buffer ∈ buffers, buffer.length < 2 ^ 31) (total position : Int) :
    Fs.writevLoop file descriptor heap total (.number (some position)) buffers =
      (.ok (total + buffers.flatten.length),
        (aims total position buffers).foldl (performAs descriptor) file) := by
  induction buffers generalizing file total position with
  | nil => simp [Fs.writevLoop, aims]
  | cons buffer rest ih =>
      have whole : slice buffer 0 buffer.length = buffer := by
        rw [slice, List.drop_zero, List.take_length]
      have wrote := @writeBuffer_writable file descriptor (heap.allocation rest.length) writable
        buffer 0 buffer.length (by omega) (short buffer List.mem_cons_self)
        (.number (some position))
      rw [whole] at wrote
      rw [Fs.writevLoop]
      simp only [wrote, position_moved]
      rw [ih fun buffer member => short buffer (List.mem_cons_of_mem _ member)]
      simp only [List.flatten_cons, List.length_append, Nat.cast_add, Int.add_assoc]
      rfl

/-- On a plain descriptor, the writes of a stream are these. -/
theorem writeBuffer_plain (writable : descriptor.writable = true)
    (plain : descriptor.appends = false) (allocation : Allocation) (buffer : List UInt8)
    (position : Int) : Js.writeBuffer file buffer position =
      (Fs.writeBuffer file descriptor allocation buffer (.ofNat 0) (.ofNat buffer.length)
        (.number (some position))).1.toOption.map fun written =>
          (written, (Fs.writeBuffer file descriptor allocation buffer (.ofNat 0)
            (.ofNat buffer.length) (.number (some position))).2) := by
  have whole : slice buffer 0 buffer.length = buffer := by
    rw [slice, List.drop_zero, List.take_length]
  rw [Fs.writeBuffer, writeBufferCall_range (by omega), whole, Fs.WriteCall.perform, bindingWriteAs,
    if_pos writable, plain, if_neg Bool.false_ne_true, toWord_ofNat]
  have word : (Fs.positionOr (.number (some position))).toWord = BitVec.ofInt 32 position := rfl
  simp only [word, Js.writeBuffer, ccallThrowAsync]
  by_cases negative : (bindingWrite file buffer (BitVec.ofNat 32 buffer.length)
      (BitVec.ofInt 32 position)).1 < 0
  · simp [negative, Except.toOption]
  · simp [negative, Except.toOption]

theorem writevLoop_plain (writable : descriptor.writable = true) (plain : descriptor.appends = false)
    (total position : Int) (buffers : List (List UInt8)) :
    Js.writevLoop file total position buffers =
      (Fs.writevLoop file descriptor heap total (.number (some position)) buffers).1.toOption.map
        fun _ => (Fs.writevLoop file descriptor heap total (.number (some position)) buffers).2 := by
  induction buffers generalizing file total position with
  | nil => rfl
  | cons buffer rest ih =>
      rw [Js.writevLoop, Fs.writevLoop,
        @writeBuffer_plain file descriptor writable plain (heap.allocation rest.length)]
      generalize Fs.writeBuffer file descriptor (heap.allocation rest.length) buffer (.ofNat 0)
        (.ofNat buffer.length) (.number (some position)) = answer
      obtain ⟨result, after⟩ := answer
      cases result with
      | error exception => rfl
      | ok written =>
          simp only [position_moved, ← ih]
          rfl

/-- A plain descriptor writes where its position says. -/
theorem performAs_plain (plain : descriptor.appends = false) : performAs descriptor = perform := by
  funext file entry
  rw [performAs, writePlace, plain, if_neg Bool.false_ne_true]
  rfl

theorem content_foldl (file : OpenFile) (entries : Script) :
    (entries.foldl perform file).content =
      (landings file.position entries).foldl (fun content range => splice content range.1 range.2)
        file.content := by
  induction entries generalizing file with
  | nil => rfl
  | cons entry rest ih =>
      obtain ⟨chunk, target⟩ := entry
      rw [List.foldl_cons, ih, landings, List.foldl_append]
      by_cases empty : chunk = []
      · simp [perform, OpenFile.put, OpenFile.seek, empty, splice]
      · simp [perform, OpenFile.put, OpenFile.seek, empty]

/-- An appending descriptor writes one buffer after the other to the end. -/
theorem foldl_appends (appends : descriptor.appends = true) (file : OpenFile) (entries : Script) :
    (entries.foldl (performAs descriptor) file).content =
        splice file.content file.content.length (entries.map Prod.fst).flatten ∧
      (entries.foldl (performAs descriptor) file).writes =
        file.writes ++ slots file.content.length (entries.map Prod.fst) := by
  induction entries generalizing file with
  | nil => simp [splice, slots]
  | cons entry rest ih =>
      obtain ⟨chunk, target⟩ := entry
      have here : performAs descriptor file (chunk, target) =
          (file.seek file.content.length).put chunk := by
        rw [performAs, writePlace, if_pos appends]
      have size : ((file.seek file.content.length).put chunk).content.length =
          file.content.length + chunk.length := by
        simp only [OpenFile.put, OpenFile.seek, length_splice]
        by_cases empty : chunk = [] <;> simp [empty]
      obtain ⟨content, writes⟩ := ih ((file.seek file.content.length).put chunk)
      rw [List.foldl_cons, here, content, writes, size, List.map_cons, List.flatten_cons, slots]
      apply And.intro
      · exact splice_splice
      · by_cases empty : chunk = [] <;> simp [OpenFile.put, OpenFile.seek, empty]

/-- The argument for a position. -/
def positionArgument : Option Nat → JsValue
  | none => .null
  | some position => .ofNat position

/-- `writev` reports what the write of the concatenation reports, and leaves the same content, each
buffer behind the one before it. -/
structure EqualsOneWrite (file : OpenFile) (descriptor : Descriptor) (heap : Heap)
    (allocation : Allocation) (buffers : List (List UInt8)) (position : JsValue) : Prop where
  reported : (Fs.writev file descriptor heap buffers position).1 =
    (Fs.write file descriptor allocation (.buffer buffers.flatten) (.ofNat 0)
      (.ofNat buffers.flatten.length) position).1
  content : (Fs.writev file descriptor heap buffers position).2.content =
    (Fs.write file descriptor allocation (.buffer buffers.flatten) (.ofNat 0)
      (.ofNat buffers.flatten.length) position).2.content
  landed : (Fs.writev file descriptor heap buffers position).2.writes =
    file.writes ++ slots (writePlace file descriptor position) buffers

/-- The descriptor appends, or there is no position, or no buffer is moved by the running totals. -/
def Unmoved (file : OpenFile) (descriptor : Descriptor) (buffers : List (List UInt8))
    (position : Option Nat) : Prop :=
  descriptor.appends = true ∨
    ∀ start ∈ position, Lands start (file.position == start) (batchShifts 0 0 buffers)

theorem ccall_resolved {name : String} {args : List Int} {result count : Int}
    (resolved : ccallThrowAsync name args result = .ok count) : count = result := by
  rw [ccallThrowAsync] at resolved
  by_cases negative : result < 0
  · rw [if_pos negative] at resolved
    cases resolved
  · rw [if_neg negative] at resolved
    exact (Except.ok.inj resolved).symm

/-- The one write, when it is complete. -/
theorem write_whole {allocation : Allocation} {buffer : List UInt8} {position : JsValue}
    (complete : (Fs.write file descriptor allocation (.buffer buffer) (.ofNat 0)
      (.ofNat buffer.length) position).1 = .ok buffer.length) :
    descriptor.writable = true ∧ buffer.length < 2 ^ 31 ∧
      Fs.write file descriptor allocation (.buffer buffer) (.ofNat 0) (.ofNat buffer.length) position =
        (.ok buffer.length, (file.seek (writePlace file descriptor position)).put buffer) := by
  have same : Fs.write file descriptor allocation (.buffer buffer) (.ofNat 0) (.ofNat buffer.length)
      position = Fs.writeBuffer file descriptor allocation buffer (.ofNat 0) (.ofNat buffer.length)
        position := rfl
  rw [same] at complete ⊢
  cases writable : descriptor.writable with
  | false =>
      obtain ⟨exception, _, refused⟩ := @writeBuffer_refused file descriptor allocation writable
        buffer (.ofNat 0) (.ofNat buffer.length) position
      rw [refused] at complete
      cases complete
  | true =>
      have short : buffer.length < 2 ^ 31 := by
        have counted : (bindingWriteAs file descriptor (slice buffer 0 buffer.length)
            (JsValue.ofNat buffer.length).toWord (Fs.positionOr position).toWord).1 =
            (BitVec.ofNat 32 buffer.length).toInt := by
          rw [bindingWriteAs, if_pos writable, toWord_ofNat]
          cases descriptor.appends <;> rfl
        rw [Fs.writeBuffer, writeBufferCall_range (by omega)] at complete
        have count := ccall_resolved complete
        rw [counted] at count
        have bound := @BitVec.toInt_lt 32 (BitVec.ofNat 32 buffer.length)
        omega
      have whole : slice buffer 0 buffer.length = buffer := by
        rw [slice, List.drop_zero, List.take_length]
      have wrote := @writeBuffer_writable file descriptor allocation writable buffer 0 buffer.length
        (by omega) short position
      rw [whole] at wrote
      exact ⟨rfl, short, wrote⟩

/-- Where a position, or none, leads the first write of `writev`. -/
theorem numberOf_position (position : Option Nat) :
    Fs.positionOr (positionArgument position) = .number (some (numberOr (position.map Int.ofNat))) := by
  cases position <;> rfl

/-- Each buffer lands behind the one before it exactly when none is moved. -/
theorem landed_iff (plain : descriptor.appends = false) {buffers : List (List UInt8)}
    {position : Option Nat}
    (bound : ∀ start ∈ position, start + buffers.flatten.length < 2 ^ 32 - 1) :
    landings file.position (aims 0 (numberOr (position.map Int.ofNat)) buffers) =
        slots (writePlace file descriptor (positionArgument position)) buffers ↔
      Unmoved file descriptor buffers position := by
  rw [writePlace, plain, if_neg Bool.false_ne_true, Unmoved, plain]
  cases position with
  | none =>
      have current := @Streams.landings_current file.position _ (Streams.aims_current 0 buffers)
      rw [Streams.aims_fst] at current
      exact iff_of_true current (by simp)
  | some start =>
      have below := bound start rfl
      have here : place file (positionArgument (some start)) = start :=
        place_of_lt (by omega) file
      have moved := @Streams.aims_shifted start 0 0 buffers (by omega)
      have lands := @Streams.landings_shifted_iff file.position start (file.position == start)
        (batchShifts 0 0 buffers) (by simp)
      rw [Streams.batchShifts_fst] at lands
      rw [Nat.cast_zero, Int.add_zero] at moved
      rw [here, Option.map_some, numberOr, Option.getD_some, Int.ofNat_eq_natCast, moved, lands below]
      simp

/-- `writev` equals one write exactly when no nonempty buffer is moved. -/
theorem equalsOneWrite_iff {allocation : Allocation} {buffers : List (List UInt8)}
    {position : Option Nat}
    (bound : ∀ start ∈ position, start + buffers.flatten.length < 2 ^ 32 - 1)
    (complete : (Fs.write file descriptor allocation (.buffer buffers.flatten) (.ofNat 0)
      (.ofNat buffers.flatten.length) (positionArgument position)).1 = .ok buffers.flatten.length) :
    EqualsOneWrite file descriptor heap allocation buffers (positionArgument position) ↔
      Unmoved file descriptor buffers position := by
  obtain ⟨writable, small, once⟩ := write_whole complete
  have short : ∀ buffer ∈ buffers, buffer.length < 2 ^ 31 := by
    intro buffer member
    have := (List.sublist_flatten_of_mem member).length_le
    omega
  have done : Fs.writev file descriptor heap buffers (positionArgument position) =
      (.ok buffers.flatten.length,
        (aims 0 (numberOr (position.map Int.ofNat)) buffers).foldl (performAs descriptor) file) := by
    rw [Fs.writev, numberOf_position, writevLoop_done writable short, Int.zero_add]
  cases appends : descriptor.appends with
  | true =>
      obtain ⟨content, writes⟩ := foldl_appends appends file
        (aims 0 (numberOr (position.map Int.ofNat)) buffers)
      rw [Streams.aims_fst] at content writes
      have end_ : writePlace file descriptor (positionArgument position) = file.content.length := by
        rw [writePlace, if_pos appends]
      apply iff_of_true _ (.inl appends)
      constructor
      · rw [done, once]
      · rw [done, once, content, end_]
        rfl
      · rw [done, writes, end_]
  | false =>
      rw [performAs_plain appends] at done
      rw [← landed_iff appends bound]
      apply Iff.intro
      · intro equals
        have landed := equals.landed
        rw [done, Streams.foldl_writes] at landed
        exact List.append_cancel_left landed
      · intro landed
        constructor
        · rw [done, once]
        · rw [done, once, content_foldl, landed]
          exact foldl_slots_flatten _ _ buffers
        · rw [done, Streams.foldl_writes, landed]

/-- Two buffers at a position. -/
theorem writev_two_buffers :
    EqualsOneWrite ⟨[], 0, []⟩ ⟨5, O_WRONLY⟩ ⟨fun _ => ⟨8, fun _ => 0⟩, fun _ => 64⟩ ⟨8, fun _ => 0⟩
      [[1], [2]] (positionArgument (some 4)) :=
  (equalsOneWrite_iff (by intro start given; cases given; decide) rfl).mpr
    (.inr (by intro start given; cases given; simp [batchShifts, Lands]))

/-- The third buffer is moved by the length of the first one. -/
theorem third_buffer_moved :
    ¬∀ (file : OpenFile) (descriptor : Descriptor) (heap : Heap) (allocation : Allocation)
      (buffers : List (List UInt8)) (position : Option Nat),
      (∀ start ∈ position, start + buffers.flatten.length < 2 ^ 32 - 1) →
        (Fs.write file descriptor allocation (.buffer buffers.flatten) (.ofNat 0)
          (.ofNat buffers.flatten.length) (positionArgument position)).1 =
            .ok buffers.flatten.length →
          EqualsOneWrite file descriptor heap allocation buffers (positionArgument position) := by
  intro equals
  have third := (equals ⟨[], 0, []⟩ ⟨5, O_WRONLY⟩ ⟨fun _ => ⟨8, fun _ => 0⟩, fun _ => 64⟩
    ⟨8, fun _ => 0⟩ [[1], [2], [3]] (some 0) (by intro start given; cases given; decide) rfl).content
  exact absurd third (by decide)

section Reading

variable {buffers : List (List UInt8)} {start : Nat}

/-- `readv` resolves with the number of bytes that the file has for the buffers, which are filled
with them in order and keep the rest, and the handle moves on when no position is given. -/
def EqualsOneRead (file : OpenFile) (descriptor : Descriptor) (buffers : List (List UInt8))
    (position : Option Nat) : Prop :=
  ∀ heap : Heap, ∃ (buffers' : List (List UInt8)) (file' : OpenFile),
    let bytes := slice file.content (position.getD file.position) buffers.flatten.length
    Fs.readv file descriptor heap buffers (positionArgument position) =
        (.ok (bytes.length, buffers'), file') ∧
      buffers'.map List.length = buffers.map List.length ∧
      buffers'.flatten = overwrite buffers.flatten 0 bytes ∧
      file'.content = file.content ∧
      (position = none → file'.position = file.position + bytes.length)

/-- There is no buffer, or there is nothing to read at the position and no buffer reaches beyond
it. -/
def NothingToFill (file : OpenFile) (buffers : List (List UInt8)) (position : Option Nat) : Prop :=
  buffers = [] ∨ ∃ start, position = some start ∧
    (file.content.length ≤ start ∨ buffers.flatten = []) ∧ ∀ buffer ∈ buffers, buffer.length ≤ start

/-- The memory that a read without a length copies. -/
def tailOf (heap : Heap) (call : Nat) : List UInt8 :=
  (heap.allocation call).buffer (heap.rest call)

/-- A read without a length reads nothing, and copies the memory to the offset. -/
theorem readAny_nothing (readable : descriptor.readable = true) (call : Nat) (buffer : List UInt8)
    (offset : JsValue) :
    Fs.readAny file descriptor heap call buffer offset .undefined .undefined =
      ((Fs.copyInto (tailOf heap call) buffer offset).map fun buffer => ((0 : Int), buffer), file) := by
  have nothing : bindingRead file descriptor (Fs.readBufferOf heap call .undefined)
      JsValue.undefined.toWord (Fs.positionOr .undefined).toWord = (0, tailOf heap call, file) := by
    have here : ¬(Fs.positionOr .undefined).toWord ≠ noPosition := not_not.mpr rfl
    have none : JsValue.undefined.toWord.toNat = 0 := rfl
    rw [bindingRead, if_pos readable]
    simp only [if_neg here, none, OpenFile.get, slice, List.take_zero, overwrite_front,
      List.nil_append, List.length_nil, List.drop_zero]
    rfl
  rw [Fs.readAny, if_neg (by simp [JsValue.ofNat])]
  simp only [nothing]
  rfl

/-- What the buffers hold when each one got a copy of the memory. -/
def shown (heap : Heap) (start : Nat) : List (List UInt8) → List (List UInt8)
  | [] => []
  | buffer :: rest =>
      copy (tailOf heap rest.length) buffer start 0 (tailOf heap rest.length).length ::
        shown heap start rest

theorem readvLoop_shown (readable : descriptor.readable = true) (bytesRead : Int)
    (buffers : List (List UInt8)) :
    Fs.readvLoop file descriptor heap bytesRead (.ofNat start) buffers =
      (.ok (bytesRead, shown heap start buffers), file) := by
  induction buffers generalizing bytesRead with
  | nil => rfl
  | cons buffer rest ih =>
      have copied : Fs.copyInto (tailOf heap rest.length) buffer (.ofNat start) =
          .ok (copy (tailOf heap rest.length) buffer start 0
            (tailOf heap rest.length).length) := by
        rw [Fs.copyInto, if_neg (by simp)]
        rfl
      rw [Fs.readvLoop]
      simp only [readAny_nothing readable, copied, Except.map, ih]
      rw [Int.add_zero]
      rfl

/-- The copies change nothing exactly when no buffer reaches beyond the position. -/
theorem shown_eq_iff : (∀ heap : Heap, shown heap start buffers = buffers) ↔
    ∀ buffer ∈ buffers, buffer.length ≤ start := by
  induction buffers with
  | nil => simp [shown]
  | cons buffer rest ih =>
      rw [List.forall_mem_cons, ← ih]
      simp only [shown, List.cons.injEq, forall_and]
      apply and_congr_left'
      apply Iff.intro
      · intro kept
        by_contra beyond
        -- Two memories that differ in their first byte leave different buffers.
        have byte (value : UInt8) : buffer[start]? = some value := by
          have copied := kept ⟨fun _ => ⟨0, fun _ => value⟩, fun _ => 1⟩
          have first := getElem?_copy (tailOf ⟨fun _ => ⟨0, fun _ => value⟩, fun _ => 1⟩ rest.length)
            buffer start start
          rw [copied] at first
          have size : (tailOf ⟨fun _ => ⟨0, fun _ => value⟩, fun _ => 1⟩ rest.length).length = 1 := rfl
          rw [first, size, if_pos (by omega), Nat.sub_self]
          rfl
        exact absurd (Option.some.inj ((byte 0).symm.trans (byte 1))) (by decide)
      · intro short heap
        apply List.ext_getElem?
        intro index
        rw [getElem?_copy, if_neg (by omega)]

/-- With a numeric offset and a length, it is the read that the other calls make. -/
theorem readAny_numbers (call : Nat) (buffer : List UInt8) (offset length : Nat)
    (position : JsValue) :
    Fs.readAny file descriptor heap call buffer (.ofNat offset) (.ofNat length) position =
      ((Fs.read file descriptor (heap.allocation call) buffer offset length position).1.mapError
        Failure.errno,
        (Fs.read file descriptor (heap.allocation call) buffer offset length position).2) := by
  have size : (bindingRead file descriptor ((heap.allocation call).buffer length)
      (JsValue.ofNat length).toWord (Fs.positionOr position).toWord).2.1.length = length := by
    cases readable : descriptor.readable with
    | false =>
        rw [bindingRead, readable]
        exact length_buffer _ length
    | true =>
        rw [bindingRead_readable readable]
        exact length_readBuffer file _ length position
  by_cases nothing : length = 0
  · rw [Fs.readAny, Fs.read, nothing, if_pos rfl, if_pos rfl]
    rfl
  · have some : JsValue.ofNat length ≠ .ofNat 0 := by
      simp [JsValue.ofNat, nothing]
    have memory : Fs.readBufferOf heap call (.ofNat length) = (heap.allocation call).buffer length :=
      rfl
    have copied (memory : List UInt8) : Fs.copyInto memory buffer (.ofNat offset) =
        .ok (copy memory buffer offset 0 memory.length) := by
      rw [Fs.copyInto, if_neg (by simp)]
      rfl
    rw [Fs.readAny, Fs.read, if_neg some, if_neg nothing]
    simp only [memory, copied, size, ccallThrowAsync]
    by_cases negative : (bindingRead file descriptor ((heap.allocation call).buffer length)
        (JsValue.ofNat length).toWord (Fs.positionOr position).toWord).1 < 0
    · simp only [if_pos negative]
      rfl
    · simp only [if_neg negative]
      rfl

/-- With a position, `readv` reads nothing and shows the memory. -/
theorem readv_shown (readable : descriptor.readable = true) :
    Fs.readv file descriptor heap buffers (positionArgument (some start)) =
      (.ok (0, shown heap start buffers), file) :=
  readvLoop_shown readable 0 buffers

/-- Without a position, `readv` refuses the first buffer. -/
theorem readv_refused (readable : descriptor.readable = true) (buffer : List UInt8)
    (rest : List (List UInt8)) : ∃ failure,
      (Fs.readv file descriptor heap (buffer :: rest) (positionArgument none)).1 = .error failure := by
  refine ⟨.error "The value of \"targetStart\" is out of range. It must be >= 0.", ?_⟩
  have refused : Fs.copyInto (tailOf heap rest.length) buffer (.number (some (-1))) =
      .error (.error "The value of \"targetStart\" is out of range. It must be >= 0.") := rfl
  rw [Fs.readv, numberOf_position, Fs.readvLoop]
  simp only [readAny_nothing readable, Option.map_none, numberOr, Option.getD_none, refused,
    Except.map]

theorem nothingToFill_some : NothingToFill file buffers (some start) ↔
    (file.content.length ≤ start ∨ buffers.flatten = []) ∧
      ∀ buffer ∈ buffers, buffer.length ≤ start := by
  apply Iff.intro
  · intro nothing
    rcases nothing with empty | ⟨start', same, rest⟩
    · simp [empty]
    · rw [Option.some.inj same]
      exact rest
  · intro nothing
    exact .inr ⟨start, rfl, nothing⟩

theorem slice_eq_nil {content : List UInt8} {length : Nat} :
    slice content start length = [] ↔ content.length ≤ start ∨ length = 0 := by
  rw [slice, List.take_eq_nil_iff, List.drop_eq_nil_iff, or_comm]

/-- `readv` equals one read exactly when there is nothing to fill. -/
theorem equalsOneRead_iff (readable : descriptor.readable = true) {position : Option Nat} :
    EqualsOneRead file descriptor buffers position ↔ NothingToFill file buffers position := by
  cases position with
  | none =>
      cases buffers with
      | nil =>
          apply iff_of_true _ (.inl rfl)
          intro heap
          exact ⟨[], file, rfl, rfl, rfl, rfl, fun _ => rfl⟩
      | cons buffer rest =>
          apply iff_of_false
          · intro equals
            obtain ⟨buffers', file', done, _⟩ := equals ⟨fun _ => ⟨0, fun _ => 0⟩, fun _ => 0⟩
            obtain ⟨failure, refused⟩ := @readv_refused file descriptor _ readable buffer rest
            rw [done] at refused
            cases refused
          · simp [NothingToFill]
  | some start =>
      rw [nothingToFill_some, ← shown_eq_iff]
      apply Iff.intro
      · intro equals
        have filled (heap : Heap) : slice file.content start buffers.flatten.length = [] ∧
            shown heap start buffers = buffers := by
          obtain ⟨buffers', file', done, lengths, flatten, _⟩ := equals heap
          rw [readv_shown readable] at done
          have result := Prod.mk.inj (Except.ok.inj (Prod.mk.inj done).1)
          have none : slice file.content start buffers.flatten.length = [] :=
            List.eq_nil_of_length_eq_zero (Int.natCast_eq_zero.mp result.1.symm)
          rw [Option.getD_some, none, overwrite_front] at flatten
          rw [result.2]
          exact ⟨none, List.eq_iff_flatten_eq.mpr ⟨flatten, lengths⟩⟩
        have nothing := (filled ⟨fun _ => ⟨0, fun _ => 0⟩, fun _ => 0⟩).1
        rw [slice_eq_nil, List.length_eq_zero_iff] at nothing
        exact ⟨nothing, fun heap => (filled heap).2⟩
      · intro nothing heap
        have none : slice file.content start buffers.flatten.length = [] := by
          rw [slice_eq_nil, List.length_eq_zero_iff]
          exact nothing.1
        refine ⟨buffers, file, ?_, rfl, ?_, rfl, fun given => absurd given (Option.some_ne_none start)⟩
        · rw [readv_shown readable, nothing.2 heap, Option.getD_some, none]
          rfl
        · rw [Option.getD_some, none, overwrite_front]
          rfl

/-- Nothing is read at the end of a file, into a short buffer. -/
theorem readv_at_end :
    EqualsOneRead ⟨[7], 0, []⟩ ⟨5, 0⟩ [[0]] (some 1) :=
  (equalsOneRead_iff rfl).mpr (.inr ⟨1, rfl, .inl (Nat.le_refl 1), by decide⟩)

/-- One buffer at the beginning of a file stays without its byte. -/
theorem readv_reads_nothing :
    ¬∀ (file : OpenFile) (descriptor : Descriptor) (buffers : List (List UInt8))
      (position : Option Nat), descriptor.readable = true →
        EqualsOneRead file descriptor buffers position := by
  intro equals
  obtain ⟨buffers', file', done, _⟩ := equals ⟨[7], 0, []⟩ ⟨5, 0⟩ [[0]] (some 0) rfl
    ⟨fun _ => ⟨8, fun _ => 0⟩, fun _ => 64⟩
  have count : (0 : Int) = 1 := (Prod.mk.inj (Except.ok.inj (Prod.mk.inj done).1)).1
  exact absurd count (by decide)

end Reading

end NodeExt2fs.Transfers
