import NodeExt2fs.Construction.Js.ReadStream

/-!
This file keeps the pool regions of concurrent reads apart.
-/

namespace NodeExt2fs.Streams
open Programs Structures Js

/-- Two regions of one pool that do not meet. -/
def Apart (first second : Region) : Prop :=
  first.pool = second.pool →
    first.start + first.length ≤ second.start ∨ second.start + second.length ≤ first.start

theorem Apart.symm {first second : Region} (apart : Apart first second) : Apart second first := by
  intro same
  exact (apart same.symm).symm

/-- The regions of a stream's pushed chunks and of its read in flight. -/
def regions (stream : ReadStream) : List Region :=
  stream.chunks.map Chunk.region ++ (stream.reading.map Reading.region).toList

/-- The regions of all streams are pairwise apart. -/
structure Disjoint (state : Streams) : Prop where
  own (index : Nat) : (regions (state.stream index)).Pairwise Apart
  other (index index' : Nat) (different : index ≠ index') :
    ∀ region ∈ regions (state.stream index), ∀ region' ∈ regions (state.stream index'),
      Apart region region'

/-- The bytes that a pushed chunk shows. -/
def shown (pool : Nat → Pool) (chunk : Chunk) : List UInt8 :=
  slice (pool chunk.region.pool).bytes chunk.region.start chunk.bytesRead

/-- The chunks of every stream hold, in order, the bytes of its own file. -/
def OwnBytes (state : Streams) : Prop :=
  ∀ index, ((state.stream index).chunks.map (shown state.pool)).flatten <+:
    (state.stream index).content

/-- The bytes of a read that has reached the pool and is not pushed yet. -/
def pending (pool : Nat → Pool) : Option Reading → List UInt8
  | some { region := region, bytesRead := some bytesRead } => shown pool ⟨region, bytesRead⟩
  | _ => []

/-- The regions and bytes of one stream agree with the pools. -/
structure Fits (count : Nat) (pool : Nat → Pool) (stream : ReadStream) : Prop where
  allocated : ∀ region ∈ regions stream, region.pool < count
  started : ∀ region ∈ regions stream, region.pool = count - 1 →
    region.start ≤ (pool (count - 1)).used
  counted : ∀ chunk ∈ stream.chunks, chunk.region.pool = count - 1 →
    chunk.region.start + chunk.region.length ≤ (pool (count - 1)).used
  inside : ∀ region ∈ regions stream,
    region.start + region.length ≤ (pool region.pool).bytes.length
  short : ∀ chunk ∈ stream.chunks, chunk.bytesRead ≤ chunk.region.length
  shortRead : ∀ region bytesRead, stream.reading = some ⟨region, some bytesRead⟩ →
    bytesRead ≤ region.length
  bytes : ∃ size, (stream.chunks.map (shown pool)).flatten ++ pending pool stream.reading =
      stream.content.take size ∧
    (size = stream.offset ∨ stream.stopped = true ∧ stream.reading = none)

/-- The invariant of the streams. -/
structure Sound (state : Streams) : Prop where
  disjoint : Disjoint state
  fits (index : Nat) : Fits state.count state.pool (state.stream index)

theorem Sound.ownBytes {state : Streams} (sound : Sound state) : OwnBytes state := by
  intro index
  obtain ⟨size, bytes, _⟩ := (sound.fits index).bytes
  have front := List.prefix_append ((state.stream index).chunks.map (shown state.pool)).flatten
    (pending state.pool (state.stream index).reading)
  rw [bytes] at front
  exact front.trans (List.take_prefix _ _)

theorem sound_create (content : Nat → List UInt8) (highWaterMark : Nat → Nat)
    (hasStart : Nat → Bool) : Sound (.create content highWaterMark hasStart) := by
  have none (index : Nat) :
      regions ((Streams.create content highWaterMark hasStart).stream index) = [] := rfl
  refine ⟨⟨?_, ?_⟩, ?_⟩
  · intro index
    rw [none]
    exact List.Pairwise.nil
  · intro index index' _ region member
    rw [none] at member
    cases member
  · intro index
    refine ⟨?_, ?_, ?_, ?_, ?_, ?_, ⟨0, rfl, .inl rfl⟩⟩
    · rw [none]
      simp
    · rw [none]
      simp
    · simp [Streams.create, ReadStream.create]
    · rw [none]
      simp
    · simp [Streams.create, ReadStream.create]
    · simp [Streams.create, ReadStream.create]

/-- The regions of one stream change to some of them. -/
theorem Disjoint.of_sublist {state state' : Streams} (disjoint : Disjoint state)
    (fewer : ∀ index, (regions (state'.stream index)).Sublist (regions (state.stream index))) :
    Disjoint state' where
  own index := (disjoint.own index).sublist (fewer index)
  other index index' different region member region' member' :=
    disjoint.other index index' different region ((fewer index).subset member) region'
      ((fewer index').subset member')

/-- The regions of one stream get one that is apart from all others. -/
theorem Disjoint.add {state state' : Streams} (disjoint : Disjoint state) {index : Nat}
    {region : Region} (added : regions (state'.stream index) = regions (state.stream index) ++ [region])
    (kept : ∀ index', index' ≠ index → regions (state'.stream index') = regions (state.stream index'))
    (apart : ∀ index', ∀ region' ∈ regions (state.stream index'), Apart region' region) :
    Disjoint state' := by
  have all (index' : Nat) : ∀ region' ∈ regions (state'.stream index'),
      region' ∈ regions (state.stream index') ∨ index' = index ∧ region' = region := by
    intro region' member
    by_cases same : index' = index
    · rw [same, added] at member
      rw [same]
      simpa using member
    · rw [kept index' same] at member
      exact .inl member
  constructor
  · intro index'
    by_cases same : index' = index
    · rw [same, added, List.pairwise_append]
      refine ⟨disjoint.own index, List.pairwise_singleton _ _, ?_⟩
      intro first member second single
      rw [List.mem_singleton.mp single]
      exact apart index first member
    · rw [kept index' same]
      exact disjoint.own index'
  · intro first second different region' member region'' member'
    rcases all first region' member with old | ⟨same, new⟩
    · rcases all second region'' member' with old' | ⟨same', new'⟩
      · exact disjoint.other first second different region' old region'' old'
      · rw [new']
        exact apart first region' old
    · rcases all second region'' member' with old' | ⟨same', new'⟩
      · rw [new]
        exact (apart second region'' old').symm
      · exact absurd (same.trans same'.symm) different

theorem regions_of_reading {stream : ReadStream} {reading : Reading}
    (busy : stream.reading = some reading) :
    regions stream = stream.chunks.map Chunk.region ++ [reading.region] := by
  rw [regions, busy]
  rfl

theorem regions_of_idle {stream : ReadStream} (idle : stream.reading = none) :
    regions stream = stream.chunks.map Chunk.region := by
  rw [regions, idle]
  exact List.append_nil _

theorem stream_setStream (state : Streams) (index : Nat) (stream : ReadStream) (index' : Nat) :
    (state.setStream index stream).stream index' =
      if index' = index then stream else state.stream index' := by
  by_cases same : index' = index
  · simp [Streams.setStream, same]
  · simp [Streams.setStream, same]

/-- One stream changes to some of its regions, and still fits. -/
theorem Sound.setStream {state : Streams} (sound : Sound state) {index : Nat} {stream : ReadStream}
    (fewer : (regions stream).Sublist (regions (state.stream index)))
    (fits : Fits state.count state.pool stream) : Sound (state.setStream index stream) where
  disjoint := by
    apply sound.disjoint.of_sublist
    intro index'
    rw [stream_setStream]
    by_cases same : index' = index
    · rw [if_pos same, same]
      exact fewer
    · rw [if_neg same]
  fits index' := by
    rw [stream_setStream]
    by_cases same : index' = index
    · rw [if_pos same]
      exact fits
    · rw [if_neg same]
      exact sound.fits index'

/-- A stream that is stopped gives up its read. -/
theorem Fits.stop {count : Nat} {pool : Nat → Pool} {stream : ReadStream}
    (fits : Fits count pool stream) :
    Fits count pool { stream with reading := none, stopped := true } := by
  have fewer : (regions { stream with reading := none, stopped := true }).Sublist (regions stream) :=
    List.Sublist.append_left (List.nil_sublist _) _
  refine ⟨?_, ?_, fits.counted, ?_, fits.short, ?_, ?_⟩
  · exact fun region member => fits.allocated region (fewer.subset member)
  · exact fun region member => fits.started region (fewer.subset member)
  · exact fun region member => fits.inside region (fewer.subset member)
  · intro region bytesRead busy
    cases busy
  · obtain ⟨size, bytes, _⟩ := fits.bytes
    have front : ((stream.chunks.map (shown pool)).flatten) <+: stream.content := by
      have := List.prefix_append (stream.chunks.map (shown pool)).flatten (pending pool stream.reading)
      rw [bytes] at this
      exact this.trans (List.take_prefix _ _)
    refine ⟨(stream.chunks.map (shown pool)).flatten.length, ?_, .inr ⟨rfl, rfl⟩⟩
    change (stream.chunks.map (shown pool)).flatten ++ [] = _
    rw [List.append_nil]
    exact List.prefix_iff_eq_take.mp front

theorem sound_fail {state state' : Streams} {index : Nat} (sound : Sound state)
    (taken : state.failRead index = some state') : Sound state' := by
  unfold Streams.failRead at taken
  cases busy : (state.stream index).reading with
  | none =>
      simp only [busy] at taken
      cases taken
  | some reading =>
      simp only [busy, Option.some.injEq] at taken
      rw [← taken]
      apply sound.setStream _ (sound.fits index).stop
      exact List.Sublist.append_left (List.nil_sublist _) _

theorem sound_destroy {state : Streams} {index : Nat} (sound : Sound state) :
    Sound (state.setStream index { state.stream index with stopped := true }) := by
  have fits := sound.fits index
  obtain ⟨size, bytes, same⟩ := fits.bytes
  apply Sound.setStream sound
  · exact List.Sublist.refl _
  · refine ⟨fits.allocated, fits.started, fits.counted, fits.inside, fits.short, fits.shortRead,
      ⟨size, bytes, ?_⟩⟩
    rcases same with here | stopped
    · exact .inl here
    · exact .inr ⟨rfl, stopped.2⟩

/-- A new pool leaves all regions as they are. -/
theorem Fits.allocate {count : Nat} {pool : Nat → Pool} {stream : ReadStream}
    (fits : Fits count pool stream) (fresh : Pool) :
    Fits (count + 1) (Function.update pool count fresh) stream := by
  have old (region : Region) (member : region ∈ regions stream) :
      Function.update pool count fresh region.pool = pool region.pool :=
    Function.update_of_ne (Nat.ne_of_lt (fits.allocated region member)) _ _
  have chunks (chunk : Chunk) (member : chunk ∈ stream.chunks) : chunk.region ∈ regions stream :=
    List.mem_append_left _ (List.mem_map_of_mem member)
  have views : stream.chunks.map (shown (Function.update pool count fresh)) =
      stream.chunks.map (shown pool) := by
    apply List.map_congr_left
    intro chunk member
    rw [shown, shown, old chunk.region (chunks chunk member)]
  have waiting : pending (Function.update pool count fresh) stream.reading =
      pending pool stream.reading := by
    rcases busy : stream.reading with _ | ⟨region, _ | bytesRead⟩
    · rfl
    · rfl
    · have member : region ∈ regions stream := by
        rw [regions_of_reading busy]
        simp
      rw [pending, pending, shown, shown, old region member]
  refine ⟨?_, ?_, ?_, ?_, fits.short, fits.shortRead, ?_⟩
  · exact fun region member => Nat.lt_succ_of_lt (fits.allocated region member)
  · intro region member same
    have := fits.allocated region member
    omega
  · intro chunk member same
    have := fits.allocated chunk.region (chunks chunk member)
    omega
  · intro region member
    rw [old region member]
    exact fits.inside region member
  · rw [views, waiting]
    exact fits.bytes

theorem sound_prepare {state : Streams} (sound : Sound state) (index : Nat) :
    Sound (state.prepare index) := by
  unfold Streams.prepare
  by_cases exhausted : state.exhausted
  · rw [if_pos exhausted]
    refine ⟨⟨sound.disjoint.own, sound.disjoint.other⟩, ?_⟩
    intro index'
    exact (sound.fits index').allocate _
  · rw [if_neg exhausted]
    exact sound

/-- A read takes a region of a kept pool only when `used` has moved past every read in flight. -/
def Counted (state : Streams) : StreamLabel → Prop
  | .read index n =>
      state.exhausted = false → (state.stream index).hasStart = false → n ≠ 0 →
        ∀ index' reading, (state.stream index').reading = some reading →
          reading.region.pool = state.current →
            reading.region.start + reading.region.length ≤ (state.pool state.current).used
  | _ => True

/-- Every region of the pool that a read takes from ends at or before `used`. -/
theorem counted_prepare {state : Streams} (sound : Sound state) {index n : Nat}
    (counted : Counted state (.read index n)) (start : (state.stream index).hasStart = false)
    (some : ((state.prepare index).nextRegion n).length ≠ 0) :
    ∀ index', ∀ region ∈ regions (state.stream index'),
      Apart region ((state.prepare index).nextRegion n) := by
  intro index' region member same
  have allocated := (sound.fits index').allocated region member
  unfold Streams.prepare at same some ⊢
  by_cases exhausted : state.exhausted
  · rw [if_pos exhausted] at same
    simp only [Streams.nextRegion, Streams.current, allocNewPool] at same
    omega
  · rw [if_neg exhausted] at same some ⊢
    have positive : n ≠ 0 := by
      intro zero
      rw [zero] at some
      simp [Streams.nextRegion] at some
    left
    rcases List.mem_append.mp member with pushed | reading
    · obtain ⟨chunk, inside, rfl⟩ := List.mem_map.mp pushed
      exact (sound.fits index').counted chunk inside same
    · cases busy : (state.stream index').reading with
      | none =>
          rw [busy] at reading
          cases reading
      | some flight =>
          rw [busy] at reading
          have here : region = flight.region := by simpa using reading
          rw [here] at same ⊢
          exact counted (by simpa using exhausted) start positive index' flight busy same

theorem count_prepare (state : Streams) (index : Nat) : (state.prepare index).count ≠ 0 := by
  unfold Streams.prepare
  by_cases exhausted : state.exhausted
  · rw [if_pos exhausted]
    exact Nat.succ_ne_zero _
  · rw [if_neg exhausted]
    intro zero
    exact exhausted (by simp [Streams.exhausted, zero])

/-- An idle stream begins a read of the next region. -/
theorem Fits.begin {state : Streams} {stream : ReadStream} (fits : Fits state.count state.pool stream)
    (some : state.count ≠ 0) (idle : stream.reading = none) (running : stream.stopped ≠ true) {n : Nat}
    (taken : (state.nextRegion n).length ≠ 0) :
    Fits state.count state.pool
      { stream with reading := Option.some { region := state.nextRegion n, bytesRead := none } } := by
  have all (region : Region) (member : region ∈ regions
      { stream with reading := Option.some { region := state.nextRegion n, bytesRead := none } }) :
      region ∈ regions stream ∨ region = state.nextRegion n := by
    rw [regions_of_idle idle]
    simpa [regions] using member
  have room : (state.nextRegion n).start + (state.nextRegion n).length ≤
      (state.pool state.current).bytes.length := by
    simp only [Streams.nextRegion] at taken ⊢
    omega
  refine ⟨?_, ?_, fits.counted, ?_, fits.short, ?_, ?_⟩
  · intro region member
    rcases all region member with old | new
    · exact fits.allocated region old
    · rw [new]
      simp only [Streams.nextRegion, Streams.current]
      omega
  · intro region member same
    rcases all region member with old | new
    · exact fits.started region old same
    · rw [new]
      exact Nat.le_refl _
  · intro region member
    rcases all region member with old | new
    · exact fits.inside region old
    · rw [new]
      exact room
  · intro region bytesRead busy
    cases busy
  · obtain ⟨size, bytes, same⟩ := fits.bytes
    refine ⟨size, ?_, ?_⟩
    · rw [idle] at bytes
      exact bytes
    · rcases same with here | stopped
      · exact .inl here
      · exact absurd stopped.1 running

theorem sound_read {state state' : Streams} {index n : Nat} (sound : Sound state)
    (counted : Counted state (.read index n)) (taken : state.beginRead index n = some state') :
    Sound state' := by
  have prepared := sound_prepare sound index
  have same (index' : Nat) : (state.prepare index).stream index' = state.stream index' := by
    unfold Streams.prepare
    by_cases exhausted : state.exhausted
    · rw [if_pos exhausted]
      rfl
    · rw [if_neg exhausted]
  unfold Streams.beginRead at taken
  by_cases busy : (state.stream index).stopped = true ∨ (state.stream index).reading.isSome = true
  · rw [if_pos busy] at taken
    cases taken
  · have idle : (state.stream index).reading = none := by
      cases reading : (state.stream index).reading with
      | none => rfl
      | some flight => exact absurd (.inr (by simp [reading])) busy
    have stops : Sound ((state.prepare index).setStream index
        { state.stream index with stopped := true }) := by
      rw [← same index]
      exact sound_destroy prepared
    simp only [if_neg busy] at taken
    by_cases start : (state.stream index).hasStart = true
    · rw [if_pos start] at taken
      cases taken
      exact stops
    · rw [if_neg start] at taken
      by_cases empty : ((state.prepare index).nextRegion n).length = 0
      · rw [if_pos empty] at taken
        cases taken
        exact stops
      · rw [if_neg empty] at taken
        have apart := counted_prepare sound counted (by simpa using start) empty
        cases taken
        have fits := (prepared.fits index).begin (count_prepare state index)
          (by rw [same]; exact idle) (by rw [same]; exact fun stopped => busy (.inl stopped)) empty
        rw [same] at fits
        constructor
        · refine @Disjoint.add _ _ prepared.disjoint index ((state.prepare index).nextRegion n)
            ?_ ?_ ?_
          · rw [stream_setStream, if_pos rfl, same, regions_of_idle idle]
            rfl
          · intro index' other
            rw [stream_setStream, if_neg other]
          · intro index' region member
            rw [same] at member
            exact apart index' region member
        · intro index'
          rw [stream_setStream]
          by_cases here : index' = index
          · rw [if_pos here]
            exact fits
          · rw [if_neg here]
            exact prepared.fits index'

/-- The pools after new bytes in one region. -/
def written (pool : Nat → Pool) (region : Region) (data : List UInt8) : Nat → Pool :=
  Function.update pool region.pool
    { pool region.pool with bytes := overwrite (pool region.pool).bytes region.start data }

section Written

variable {pool : Nat → Pool} {region : Region} {data : List UInt8}

theorem used_written (number : Nat) : (written pool region data number).used = (pool number).used := by
  by_cases same : number = region.pool
  · simp [written, same]
  · simp [written, same]

theorem length_written (full : data.length = region.length)
    (inside : region.start + region.length ≤ (pool region.pool).bytes.length) (number : Nat) :
    (written pool region data number).bytes.length = (pool number).bytes.length := by
  by_cases same : number = region.pool
  · rw [same, written, Function.update_self]
    exact length_overwrite (by omega)
  · rw [written, Function.update_of_ne same]

/-- The new bytes do not show in regions that are apart. -/
theorem shown_written (full : data.length = region.length)
    (inside : region.start + region.length ≤ (pool region.pool).bytes.length) {chunk : Chunk}
    (short : chunk.bytesRead ≤ chunk.region.length) (apart : Apart chunk.region region) :
    shown (written pool region data) chunk = shown pool chunk := by
  unfold shown
  by_cases same : chunk.region.pool = region.pool
  · have away := apart same
    rw [same, written, Function.update_self]
    apply slice_overwrite_of_apart
    · omega
    · omega
  · rw [written, Function.update_of_ne same]

theorem Fits.written_of_apart {count : Nat} {stream : ReadStream} (fits : Fits count pool stream)
    (full : data.length = region.length)
    (inside : region.start + region.length ≤ (pool region.pool).bytes.length)
    (apart : ∀ region' ∈ regions stream, Apart region' region) :
    Fits count (written pool region data) stream := by
  have views : stream.chunks.map (shown (written pool region data)) =
      stream.chunks.map (shown pool) := by
    apply List.map_congr_left
    intro chunk member
    exact shown_written full inside (fits.short chunk member)
      (apart _ (List.mem_append_left _ (List.mem_map_of_mem member)))
  have waiting : pending (written pool region data) stream.reading = pending pool stream.reading := by
    rcases busy : stream.reading with _ | ⟨region', _ | bytesRead⟩
    · rfl
    · rfl
    · have member : region' ∈ regions stream := by
        rw [regions_of_reading busy]
        simp
      exact shown_written full inside (fits.shortRead region' bytesRead busy) (apart region' member)
  refine ⟨fits.allocated, ?_, ?_, ?_, fits.short, fits.shortRead, ?_⟩
  · rw [used_written]
    exact fits.started
  · rw [used_written]
    exact fits.counted
  · intro region' member
    rw [length_written full inside]
    exact fits.inside region' member
  · rw [views, waiting]
    exact fits.bytes

/-- The stream whose read is copied gets the next bytes of its file. -/
theorem Fits.copied {count : Nat} {stream : ReadStream} (fits : Fits count pool stream)
    (busy : stream.reading = some { region := region, bytesRead := none }) {bytesRead : Nat}
    {unread : List UInt8} (available : bytesRead ≤ stream.content.length - stream.offset)
    (full : bytesRead + unread.length = region.length)
    (own : ∀ chunk ∈ stream.chunks, Apart chunk.region region) :
    Fits count
      (written pool region (slice stream.content stream.offset bytesRead ++ unread))
      { stream with
        offset := stream.offset + bytesRead
        reading := some { region := region, bytesRead := some bytesRead } } := by
  have size : (slice stream.content stream.offset bytesRead).length = bytesRead := by
    rw [slice, List.length_take, List.length_drop]
    omega
  have long : (slice stream.content stream.offset bytesRead ++ unread).length = region.length := by
    rw [List.length_append, size]
    exact full
  have same : regions { stream with
      offset := stream.offset + bytesRead
      reading := some { region := region, bytesRead := some bytesRead } } = regions stream := by
    rw [regions_of_reading busy]
    rfl
  have inside := fits.inside region (by rw [regions_of_reading busy]; simp)
  have views : stream.chunks.map (shown (written pool region
      (slice stream.content stream.offset bytesRead ++ unread))) = stream.chunks.map (shown pool) := by
    apply List.map_congr_left
    intro chunk member
    exact shown_written long inside (fits.short chunk member) (own chunk member)
  have read : shown (written pool region (slice stream.content stream.offset bytesRead ++ unread))
      ⟨region, bytesRead⟩ = slice stream.content stream.offset bytesRead := by
    have short : bytesRead ≤ (slice stream.content stream.offset bytesRead ++ unread).length := by
      rw [long]
      omega
    unfold shown
    rw [written, Function.update_self, slice_overwrite_self (by omega) short]
    exact List.take_left' size
  refine ⟨?_, ?_, ?_, ?_, fits.short, ?_, ?_⟩
  · rw [same]
    exact fits.allocated
  · rw [same, used_written]
    exact fits.started
  · rw [used_written]
    exact fits.counted
  · intro region' member
    rw [same] at member
    rw [length_written long inside]
    exact fits.inside region' member
  · intro region' bytesRead' taken
    cases taken
    omega
  · obtain ⟨_, bytes, here | stopped⟩ := fits.bytes
    · refine ⟨stream.offset + bytesRead, ?_, .inl rfl⟩
      rw [views]
      change _ ++ shown _ ⟨region, bytesRead⟩ = _
      rw [read]
      rw [busy, here] at bytes
      change _ ++ [] = _ at bytes
      rw [List.append_nil] at bytes
      rw [bytes, List.take_add]
      rfl
    · rw [busy] at stopped
      cases stopped.2

end Written

theorem sound_copy {state state' : Streams} {index bytesRead : Nat} {unread : List UInt8}
    (sound : Sound state) (taken : state.copyRead index bytesRead unread = some state') :
    Sound state' := by
  unfold Streams.copyRead at taken
  rcases busy : (state.stream index).reading with _ | ⟨region, _ | before⟩
  · simp only [busy] at taken
    cases taken
  · simp only [busy] at taken
    by_cases fine : bytesRead ≤ (state.stream index).content.length - (state.stream index).offset ∧
        bytesRead + unread.length = region.length
    · rw [if_pos fine] at taken
      have own := sound.disjoint.own index
      rw [regions_of_reading busy, List.pairwise_append] at own
      have fits := sound.fits index
      have mine : region ∈ regions (state.stream index) := by
        rw [regions_of_reading busy]
        simp
      have copied := fits.copied busy fine.1 fine.2 fun chunk member =>
        own.2.2 chunk.region (List.mem_map_of_mem member) region (List.mem_singleton.mpr rfl)
      cases taken
      constructor
      · apply sound.disjoint.of_sublist
        intro index'
        rw [stream_setStream]
        by_cases same : index' = index
        · rw [if_pos same, same, regions_of_reading busy]
          exact List.Sublist.refl _
        · rw [if_neg same]
          exact List.Sublist.refl _
      · intro index'
        rw [stream_setStream]
        by_cases same : index' = index
        · rw [if_pos same]
          exact copied
        · rw [if_neg same]
          apply (sound.fits index').written_of_apart
          · rw [List.length_append, slice, List.length_take, List.length_drop]
            omega
          · exact fits.inside region mine
          · intro region' member
            exact sound.disjoint.other index' index same region' member region mine
    · rw [if_neg fine] at taken
      cases taken
  · simp only [busy] at taken
    cases taken

/-- The pools after `used` of one of them has moved. -/
def advanced (pool : Nat → Pool) (number length : Nat) : Nat → Pool :=
  Function.update pool number { pool number with used := (pool number).used + length }

theorem bytes_advanced (pool : Nat → Pool) (number length : Nat) (number' : Nat) :
    (advanced pool number length number').bytes = (pool number').bytes := by
  by_cases same : number' = number
  · simp [advanced, same]
  · simp [advanced, same]

/-- Only the used parts of the pools matter to the regions that were taken before. -/
theorem Fits.advance {count : Nat} {pool : Nat → Pool} {stream : ReadStream}
    (fits : Fits count pool stream) (length : Nat) :
    Fits count (advanced pool (count - 1) length) stream := by
  have used : (advanced pool (count - 1) length (count - 1)).used = (pool (count - 1)).used + length := by
    simp [advanced]
  have views : shown (advanced pool (count - 1) length) = shown pool := by
    funext chunk
    rw [shown, shown, bytes_advanced]
  have waiting : pending (advanced pool (count - 1) length) stream.reading =
      pending pool stream.reading := by
    rcases stream.reading with _ | ⟨region, _ | bytesRead⟩
    · rfl
    · rfl
    · rw [pending, pending, views]
  refine ⟨fits.allocated, ?_, ?_, ?_, fits.short, fits.shortRead, ?_⟩
  · intro region member same
    rw [used]
    exact Nat.le_add_right_of_le (fits.started region member same)
  · intro chunk member same
    rw [used]
    exact Nat.le_add_right_of_le (fits.counted chunk member same)
  · intro region member
    rw [bytes_advanced]
    exact fits.inside region member
  · rw [views, waiting]
    exact fits.bytes

theorem stream_setPool (state : Streams) (number : Nat) (pool : Pool) (index : Nat) :
    (state.setPool number pool).stream index = state.stream index := rfl

/-- A read that was counted becomes a chunk. -/
theorem Fits.push {count : Nat} {pool : Nat → Pool} {stream : ReadStream} {region : Region}
    {bytesRead : Nat} (fits : Fits count pool stream)
    (busy : stream.reading = some { region := region, bytesRead := some bytesRead })
    (counted : region.pool = count - 1 → region.start + region.length ≤ (pool (count - 1)).used) :
    Fits count pool
      { stream with
        reading := none
        chunks := stream.chunks ++ [{ region := region, bytesRead := bytesRead }] } := by
  have same : regions { stream with
      reading := none
      chunks := stream.chunks ++ [{ region := region, bytesRead := bytesRead }] } = regions stream := by
    rw [regions_of_reading busy, regions_of_idle rfl, List.map_append]
    rfl
  refine ⟨?_, ?_, ?_, ?_, ?_, ?_, ?_⟩
  · rw [same]
    exact fits.allocated
  · rw [same]
    exact fits.started
  · intro chunk member here
    rcases List.mem_append.mp member with old | new
    · exact fits.counted chunk old here
    · rw [List.mem_singleton.mp new] at here ⊢
      exact counted here
  · rw [same]
    exact fits.inside
  · intro chunk member
    rcases List.mem_append.mp member with old | new
    · exact fits.short chunk old
    · rw [List.mem_singleton.mp new]
      exact fits.shortRead region bytesRead busy
  · intro region' bytesRead' taken
    cases taken
  · obtain ⟨size, bytes, here | stopped⟩ := fits.bytes
    · refine ⟨size, ?_, .inl here⟩
      rw [busy] at bytes
      rw [← bytes, List.map_append, List.flatten_append]
      simp [pending]
    · rw [busy] at stopped
      cases stopped.2

theorem sound_resume {state state' : Streams} {index : Nat} (sound : Sound state)
    (taken : state.resumeRead index = some state') : Sound state' := by
  unfold Streams.resumeRead at taken
  rcases busy : (state.stream index).reading with _ | ⟨region, _ | bytesRead⟩
  · simp only [busy] at taken
    cases taken
  · simp only [busy] at taken
    cases taken
  · simp only [busy] at taken
    have moved : Sound (state.setPool state.current
        { state.pool state.current with
          used := (state.pool state.current).used + region.length }) :=
      ⟨⟨sound.disjoint.own, sound.disjoint.other⟩, fun index' => (sound.fits index').advance _⟩
    have fits := moved.fits index
    by_cases none : bytesRead = 0
    · rw [if_pos none] at taken
      cases taken
      apply moved.setStream _ fits.stop
      exact List.Sublist.append_left (List.nil_sublist _) _
    · rw [if_neg none] at taken
      cases taken
      have mine : region ∈ regions (state.stream index) := by
        rw [regions_of_reading busy]
        simp
      apply moved.setStream
      · rw [stream_setPool, regions_of_reading busy, regions_of_idle rfl, List.map_append]
        exact List.Sublist.refl _
      · apply fits.push busy
        intro here
        have started := (sound.fits index).started region mine here
        simp only [Streams.setPool, Streams.current, Function.update_self]
        omega

theorem sound_step (state : Streams) (label : StreamLabel) (state' : Streams) (sound : Sound state)
    (counted : Counted state label) (taken : state.step label = some state') : Sound state' := by
  cases label with
  | read index n => exact sound_read sound counted taken
  | copy index bytesRead unread => exact sound_copy sound taken
  | resume index => exact sound_resume sound taken
  | fail index => exact sound_fail sound taken
  | destroy index =>
      cases taken
      exact sound_destroy sound

/-- A region that begins inside a read in flight meets it. -/
theorem meets_of_uncounted {state state' : Streams} {label : StreamLabel} (sound : Sound state)
    (uncounted : ¬Counted state label) (taken : state.step label = some state') :
    ¬Disjoint state' := by
  cases label with
  | read index n =>
      unfold Counted at uncounted
      push Not at uncounted
      obtain ⟨kept, start, positive, index', reading, busy, here, beyond⟩ := uncounted
      have prepared : state.prepare index = state := by
        unfold Streams.prepare
        rw [kept]
        rfl
      have room : ¬(state.pool state.current).bytes.length <
          (state.pool state.current).used + kMinPoolSpace := by
        intro small
        simp [Streams.exhausted, small] at kept
      have mine : reading.region ∈ regions (state.stream index') := by
        rw [regions_of_reading busy]
        simp
      have started := (sound.fits index').started reading.region mine here
      change state.beginRead index n = some state' at taken
      unfold Streams.beginRead at taken
      simp only [prepared] at taken
      by_cases stopped : (state.stream index).stopped = true ∨ (state.stream index).reading.isSome = true
      · rw [if_pos stopped] at taken
        cases taken
      · have some : (state.nextRegion n).length ≠ 0 := by
          have space : kMinPoolSpace = 128 := rfl
          simp only [Streams.nextRegion]
          omega
        simp only [if_neg stopped, start, if_neg some] at taken
        cases taken
        intro disjoint
        have other : index' ≠ index := by
          intro same
          rw [same] at busy
          exact stopped (.inr (by simp [busy]))
        have apart := disjoint.other index' index other reading.region
          (by rw [stream_setStream, if_neg other]; exact mine) (state.nextRegion n)
          (by rw [stream_setStream, if_pos rfl]; simp [regions]) here
        simp only [Streams.nextRegion, Streams.current] at apart some started beyond
        omega
  | copy index bytesRead unread => exact absurd trivial uncounted
  | resume index => exact absurd trivial uncounted
  | fail index => exact absurd trivial uncounted
  | destroy index => exact absurd trivial uncounted

/-- The regions stay apart and the chunks hold the bytes of their own files throughout exactly the
runs in which every read takes its region past the reads in flight. -/
theorem apart_iff_counted (content : Nat → List UInt8) (highWaterMark : Nat → Nat)
    (hasStart : Nat → Bool) {labels : List StreamLabel} {last : Streams}
    (followed : follow Streams.step (.create content highWaterMark hasStart) labels = some last) :
    Throughout Streams.step (fun state => Disjoint state ∧ OwnBytes state)
        (.create content highWaterMark hasStart) labels ↔
      Along Streams.step Counted (.create content highWaterMark hasStart) labels :=
  throughout_iff_along (fun _ sound => ⟨sound.disjoint, sound.ownBytes⟩) sound_step
    (fun _ _ _ sound uncounted taken safe => meets_of_uncounted sound uncounted taken safe.1)
    (sound_create content highWaterMark hasStart) followed

set_option maxRecDepth 4000 in
/-- Two streams that read one after the other. -/
theorem apart_two_streams :
    Throughout Streams.step (fun state => Disjoint state ∧ OwnBytes state)
      (.create (fun _ => [1, 2, 3]) (fun _ => 200) (fun _ => false))
      [.read 0 4, .copy 0 3 [0], .resume 0, .read 1 4] := by
  refine (apart_iff_counted _ _ _ rfl).mpr ?_
  refine ⟨?_, ?_⟩
  · intro kept
    exact absurd kept (by decide)
  · rintro _ ⟨⟩
    refine ⟨trivial, ?_⟩
    rintro _ ⟨⟩
    refine ⟨trivial, ?_⟩
    rintro _ ⟨⟩
    refine ⟨?_, fun _ _ => trivial⟩
    intro _ _ _ index reading busy
    rcases index with _ | index
    · cases busy
    · cases busy

set_option maxRecDepth 4000 in
/-- Two streams that both read before the first one has resumed. -/
theorem two_reads_meet :
    ¬∀ (content : Nat → List UInt8) (highWaterMark : Nat → Nat) (hasStart : Nat → Bool)
        (labels : List StreamLabel) (last : Streams),
      follow Streams.step (.create content highWaterMark hasStart) labels = some last →
        Throughout Streams.step (fun state => Disjoint state ∧ OwnBytes state)
          (.create content highWaterMark hasStart) labels := by
  intro safe
  have throughout := safe (fun _ => []) (fun _ => 200) (fun _ => false) [.read 0 4, .read 1 4] _ rfl
  have both := (throughout.2 _ rfl).2 _ rfl
  have apart := both.1.other 0 1 (by decide) ⟨0, 0, 4⟩ (by decide) ⟨0, 0, 4⟩ (by decide) rfl
  exact absurd apart (by decide)

end NodeExt2fs.Streams
