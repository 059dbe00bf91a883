import NodeExt2fs.Construction.Js.ReadRange
import NodeExt2fs.Proof.Streams.Reading

/-!
This file follows a read stream to its end.
-/

namespace NodeExt2fs.Streams
open Programs Structures Js

/-- The bytes that a stream shows. -/
def delivered (state : Streams) (index : Nat) : List UInt8 :=
  ((state.stream index).chunks.map (shown state.pool)).flatten

/-- What a range asks for. Without one it is the whole content. -/
def expected (content : List UInt8) : Option ReadRange → List UInt8
  | none => content
  | some range => slice content range.start (min (range.last + 1) content.length - range.start)

/-- A new stream, among streams that read nothing at the moment, delivers its range and ends, when
it is read often enough. -/
def Delivers (content : List UInt8) (highWaterMark : Nat) (range : Option ReadRange) : Prop :=
  ∀ (state : Streams) (index : Nat), Sound state →
    state.stream index = createReadStream content highWaterMark range →
    (∀ other, (state.stream other).reading = none) →
      ∃ rounds, ∀ requests : List (Nat × (Nat → UInt8)), rounds ≤ requests.length →
        (∀ request ∈ requests, request.1 ≠ 0) →
          ∃ final, state.turns index requests = (some .null, final) ∧
            delivered final index = expected content range

/-- A stream without a start between two of its reads, while no other one reads. -/
structure Flowing (state : Streams) (index : Nat) : Prop where
  sound : Sound state
  idle : ∀ other, (state.stream other).reading = none
  running : (state.stream index).stopped = false
  plain : (state.stream index).hasStart = false
  marked : (state.stream index).highWaterMark ≠ 0

variable {state : Streams} {index n : Nat}

theorem stream_prepare (state : Streams) (index other : Nat) :
    (state.prepare index).stream other = state.stream other := by
  rw [Streams.prepare]
  by_cases exhausted : state.exhausted
  · rw [if_pos exhausted]
    rfl
  · rw [if_neg exhausted]

/-- There is always room for a read. -/
theorem length_nextRegion (marked : (state.stream index).highWaterMark ≠ 0) (asked : n ≠ 0) :
    ((state.prepare index).nextRegion n).length ≠ 0 := by
  rw [Streams.prepare]
  by_cases exhausted : state.exhausted
  · rw [if_pos exhausted]
    simp only [Streams.nextRegion, Streams.current, allocNewPool, Nat.add_sub_cancel,
      Function.update_self, List.length_replicate]
    omega
  · rw [if_neg exhausted]
    simp only [Streams.exhausted, decide_eq_true_eq, not_or, kMinPoolSpace] at exhausted
    simp only [Streams.nextRegion]
    omega

/-- A read that begins. -/
theorem beginRead_flowing (flowing : Flowing state index) (asked : n ≠ 0) :
    state.beginRead index n = some ((state.prepare index).setStream index
      { state.stream index with
        reading := some { region := (state.prepare index).nextRegion n, bytesRead := none } }) := by
  have idle := flowing.idle index
  rw [Streams.beginRead]
  simp only [flowing.running, flowing.plain, idle, length_nextRegion flowing.marked asked]
  simp

/-- What a stream without a start has delivered. -/
theorem delivered_flowing (flowing : Flowing state index) :
    delivered state index = (state.stream index).content.take (state.stream index).offset := by
  obtain ⟨size, bytes, here⟩ := (flowing.sound.fits index).bytes
  rw [flowing.idle index] at bytes
  rcases here with same | ⟨stopped, _⟩
  · have none : pending state.pool none = [] := rfl
    rw [delivered, ← same, ← bytes, none, List.append_nil]
  · rw [flowing.running] at stopped
    cases stopped

theorem copyRead_busy {region : Region} {bytesRead : Nat} {unread : List UInt8}
    (busy : (state.stream index).reading = some { region := region, bytesRead := none })
    (left : bytesRead ≤ (state.stream index).content.length - (state.stream index).offset)
    (full : bytesRead + unread.length = region.length) :
    ∃ state', state.copyRead index bytesRead unread = some state' ∧
      state'.stream = Function.update state.stream index
        { state.stream index with
          offset := (state.stream index).offset + bytesRead
          reading := some { region := region, bytesRead := some bytesRead } } := by
  rw [Streams.copyRead]
  simp only [busy, if_pos (And.intro left full)]
  exact ⟨_, rfl, rfl⟩

theorem resumeRead_busy {region : Region} {bytesRead : Nat}
    (busy : (state.stream index).reading = some { region := region, bytesRead := some bytesRead }) :
    ∃ state', state.resumeRead index = some state' ∧ shown state'.pool = shown state.pool ∧
      state'.stream = Function.update state.stream index
        (if bytesRead = 0 then { state.stream index with reading := none, stopped := true }
        else
          { state.stream index with
            reading := none
            chunks := (state.stream index).chunks ++ [{ region := region, bytesRead := bytesRead }] }) := by
  have views : shown (advanced state.pool state.current region.length) = shown state.pool := by
    funext chunk
    rw [shown, shown, bytes_advanced]
  rw [Streams.resumeRead]
  simp only [busy]
  by_cases none : bytesRead = 0
  · rw [if_pos none, if_pos none]
    exact ⟨_, rfl, views, rfl⟩
  · rw [if_neg none, if_neg none]
    exact ⟨_, rfl, views, rfl⟩

/-- One `_read` of a flowing stream pushes a chunk, and ends the stream at the end of its content. -/
theorem turn_flowing (flowing : Flowing state index) (asked : n ≠ 0) (unread : Nat → UInt8) :
    (∃ state', state.turn index n unread = some (.chunk, state') ∧ Flowing state' index ∧
      (state'.stream index).content = (state.stream index).content ∧
      (state.stream index).offset < (state'.stream index).offset ∧
      (state.stream index).offset < (state.stream index).content.length) ∨
    ((state.stream index).content.length ≤ (state.stream index).offset ∧
      ∃ state', state.turn index n unread = some (.null, state') ∧
        delivered state' index = delivered state index) := by
  have begins := beginRead_flowing flowing asked
  have room := length_nextRegion flowing.marked asked
  have streams (other : Nat) := stream_setStream (state.prepare index) index
    { state.stream index with
      reading := some { region := (state.prepare index).nextRegion n, bytesRead := none } } other
  have counted : Counted state (.read index n) := by
    intro _ _ _ other reading busy
    rw [flowing.idle other] at busy
    cases busy
  have sound := sound_read flowing.sound counted begins
  generalize (state.prepare index).nextRegion n = region at begins room streams sound
  generalize (state.prepare index).setStream index _ = begun at begins streams sound
  have mine := streams index
  rw [if_pos rfl] at mine
  have content : (begun.stream index).content = (state.stream index).content := by rw [mine]
  have offset : (begun.stream index).offset = (state.stream index).offset := by rw [mine]
  have busy : (begun.stream index).reading = some { region := region, bytesRead := none } := by
    rw [mine]
  generalize total : min region.length
    ((begun.stream index).content.length - (begun.stream index).offset) = bytesRead
  obtain ⟨copied, copies, filled⟩ := @copyRead_busy begun index region bytesRead
    ((List.range (region.length - bytesRead)).map unread) busy (by omega)
    (by rw [List.length_map, List.length_range]; omega)
  have soundCopied := sound_copy sound copies
  have held : copied.stream index = { begun.stream index with
      offset := (begun.stream index).offset + bytesRead
      reading := some { region := region, bytesRead := some bytesRead } } := by
    rw [filled, Function.update_self]
  obtain ⟨resumed, resumes, views, left⟩ := @resumeRead_busy copied index region bytesRead (by rw [held])
  have soundResumed := sound_resume soundCopied resumes
  have turned : state.turn index n unread =
      some (if bytesRead = 0 then .null else .chunk, resumed) := by
    simp only [Streams.turn, begins, busy, total, copies, resumes, Option.bind_eq_bind,
      Option.bind_some]
    rfl
  by_cases none : bytesRead = 0
  · right
    rw [none, content, offset] at total
    refine ⟨by omega, resumed, by rw [turned, if_pos none], ?_⟩
    obtain ⟨size, bytes, here⟩ := (soundCopied.fits index).bytes
    have nothing : pending copied.pool (copied.stream index).reading = [] := by
      rw [held, none]
      show slice (copied.pool region.pool).bytes region.start 0 = []
      exact List.take_zero
    have whole : size = (state.stream index).offset := by
      rcases here with same | ⟨_, idle⟩
      · rw [same, held, none, ← offset]
        rfl
      · rw [held] at idle
        cases idle
    have chunks : (resumed.stream index).chunks = (copied.stream index).chunks := by
      rw [left, Function.update_self, if_pos none]
    rw [nothing, List.append_nil] at bytes
    rw [delivered_flowing flowing, delivered, views, chunks, bytes, whole, held, ← content]
  · left
    have stream : resumed.stream index = { copied.stream index with
        reading := Option.none
        chunks := (copied.stream index).chunks ++ [{ region := region, bytesRead := bytesRead }] } := by
      rw [left, Function.update_self, if_neg none]
    refine ⟨resumed, by rw [turned, if_neg none], ⟨soundResumed, ?_, ?_, ?_, ?_⟩, ?_, ?_, ?_⟩
    · intro other
      by_cases same : other = index
      · rw [same, stream]
      · rw [left, Function.update_of_ne same, filled, Function.update_of_ne same, streams,
          if_neg same, stream_prepare]
        exact flowing.idle other
    · rw [stream, held, mine]
      exact flowing.running
    · rw [stream, held, mine]
      exact flowing.plain
    · rw [stream, held, mine]
      exact flowing.marked
    · rw [stream, held, mine]
    · rw [stream, held, mine]
      exact Nat.lt_add_of_pos_right (Nat.pos_of_ne_zero none)
    · rw [content, offset] at total
      omega

/-- A flowing stream that is read often enough ends with its whole content. -/
theorem turns_flowing (flowing : Flowing state index) (requests : List (Nat × (Nat → UInt8)))
    (enough : (state.stream index).content.length - (state.stream index).offset < requests.length)
    (asked : ∀ request ∈ requests, request.1 ≠ 0) :
    ∃ final, state.turns index requests = (some .null, final) ∧
      delivered final index = (state.stream index).content := by
  induction requests generalizing state with
  | nil => exact absurd enough (Nat.not_lt_zero _)
  | cons request rest ih =>
      obtain ⟨n, unread⟩ := request
      rcases turn_flowing flowing (asked (n, unread) List.mem_cons_self) unread with
        ⟨state', turned, flowing', content, moved, left⟩ | ⟨done, state', turned, same⟩
      · obtain ⟨final, ended, all⟩ := ih flowing' (by rw [content, List.length_cons] at *; omega)
          fun request member => asked request (List.mem_cons_of_mem _ member)
        refine ⟨final, ?_, all.trans content⟩
        rw [Streams.turns]
        simp only [turned]
        exact ended
      · refine ⟨state', ?_, ?_⟩
        · rw [Streams.turns]
          simp only [turned]
        · rw [same, delivered_flowing flowing]
          exact List.take_of_length_le done

/-- A stream with a start throws in its first `_read`, and never ends. -/
theorem turns_thrown (start : (state.stream index).hasStart = true)
    (requests : List (Nat × (Nat → UInt8))) : (state.turns index requests).1 ≠ some .null := by
  cases requests with
  | nil => simp [Streams.turns]
  | cons request rest =>
      obtain ⟨n, unread⟩ := request
      have thrown : state.turn index n unread = none ∨
          ∃ state', state.turn index n unread = some (.nothing, state') := by
        by_cases busy : (state.stream index).stopped = true ∨
            (state.stream index).reading.isSome = true
        · left
          simp [Streams.turn, Streams.beginRead, busy]
        · right
          have idle : (state.stream index).reading = none := by
            simpa using fun some => busy (.inr some)
          have begins : state.beginRead index n = some ((state.prepare index).setStream index
              { state.stream index with stopped := true }) := by
            rw [Streams.beginRead]
            simp only [if_neg busy, if_pos start]
          refine ⟨(state.prepare index).setStream index
            { state.stream index with stopped := true }, ?_⟩
          simp only [Streams.turn, begins, stream_setStream, if_true, idle, start,
            Option.bind_eq_bind, Option.bind_some]
          rfl
      rw [Streams.turns]
      rcases thrown with stuck | ⟨state', threw⟩
      · simp [stuck]
      · simp [threw]

/-- A stream delivers its range exactly when it has none. -/
theorem delivers_iff {content : List UInt8} {highWaterMark : Nat} (marked : highWaterMark ≠ 0)
    {range : Option ReadRange} : Delivers content highWaterMark range ↔ range = none := by
  cases range with
  | none =>
      apply iff_of_true _ rfl
      intro state index sound created idle
      have flowing : Flowing state index := by
        refine ⟨sound, idle, ?_, ?_, ?_⟩
        · rw [created]
          rfl
        · rw [created]
          rfl
        · rw [created]
          exact marked
      refine ⟨content.length + 1, ?_⟩
      intro requests long asked
      have ended := turns_flowing flowing requests
      rw [created] at ended
      exact ended long asked
  | some range =>
      apply iff_of_false
      · intro delivers
        obtain ⟨rounds, ends⟩ := delivers
          (.create (fun _ => content) (fun _ => highWaterMark) (fun _ => true)) 0
          (sound_create _ _ _) rfl (fun _ => rfl)
        obtain ⟨final, ended, _⟩ := ends (List.replicate rounds (1, fun _ => 0))
          (Nat.le_of_eq List.length_replicate.symm)
          (by intro request member; rw [List.eq_of_mem_replicate member]; exact Nat.one_ne_zero)
        exact turns_thrown rfl _ (congrArg Prod.fst ended)
      · exact Option.some_ne_none range

/-- A whole content is delivered. -/
theorem delivers_whole : Delivers [1, 2, 3, 4] 65536 none :=
  (delivers_iff (by decide)).mpr rfl

/-- A range of the first byte is not delivered. -/
theorem range_not_delivered :
    ¬∀ (content : List UInt8) (highWaterMark : Nat) (range : Option ReadRange),
      highWaterMark ≠ 0 → Delivers content highWaterMark range := by
  intro delivers
  obtain ⟨rounds, ends⟩ := delivers [1, 2, 3, 4] 65536 (some ⟨0, 0, Nat.le_refl 0⟩) (by decide)
    (.create (fun _ => [1, 2, 3, 4]) (fun _ => 65536) (fun _ => true)) 0 (sound_create _ _ _) rfl
    (fun _ => rfl)
  obtain ⟨final, ended, _⟩ := ends (List.replicate rounds (1, fun _ => 0))
    (Nat.le_of_eq List.length_replicate.symm)
    (by intro request member; rw [List.eq_of_mem_replicate member]; exact Nat.one_ne_zero)
  exact turns_thrown rfl _ (congrArg Prod.fst ended)

end NodeExt2fs.Streams
