import NodeExt2fs.Construction.Js.WriteStream

/-!
This file determines where a write stream puts its chunks.
-/

namespace NodeExt2fs.Streams
open Programs Glue Js

/-- The chunks of a run, each with the position that it is written with. -/
abbrev Script := List (List UInt8 × Int)

/-- The place of the descriptor when a write with this position begins. -/
def landing (position : Nat) (target : Int) : Nat :=
  if BitVec.ofInt 32 target ≠ noPosition then (BitVec.ofInt 32 target).toNat else position

/-- One write of a script. -/
def perform (file : OpenFile) (entry : List UInt8 × Int) : OpenFile :=
  (file.seek (landing file.position entry.2)).put entry.1

/-- The nonempty ranges that a script writes, from a place of the descriptor on. -/
def landings (position : Nat) : Script → List (Nat × List UInt8)
  | [] => []
  | (chunk, target) :: rest =>
      (if chunk = [] then [] else [(landing position target, chunk)]) ++
        landings (landing position target + chunk.length) rest

/-- The ranges of the chunks when each one begins where the one before it ends. -/
def slots (position : Nat) : List (List UInt8) → List (Nat × List UInt8)
  | [] => []
  | chunk :: rest =>
      (if chunk = [] then [] else [(position, chunk)]) ++ slots (position + chunk.length) rest

/-- A finished write has put its whole chunk. -/
theorem writeBuffer_eq_some {file file' : OpenFile} {buffer : List UInt8} {position written : Int}
    (short : buffer.length < 2 ^ 32) (done : writeBuffer file buffer position = some (written, file')) :
    written = buffer.length ∧ file' = perform file (buffer, position) := by
  unfold writeBuffer bindingWrite at done
  simp only [Option.ite_none_left_eq_some, Option.some.injEq, Prod.mk.injEq] at done
  obtain ⟨accepted, number, after⟩ := done
  have length : (BitVec.ofNat 32 buffer.length).toNat = buffer.length := by
    rw [BitVec.toNat_ofNat]
    omega
  have signed := BitVec.toInt_eq_toNat_cond (BitVec.ofNat 32 buffer.length)
  rw [length] at signed after
  apply And.intro
  · omega
  · rw [← after, List.take_length]
    unfold perform landing
    by_cases current : BitVec.ofInt 32 position ≠ noPosition
    · rw [if_pos current, if_pos current]
    · rw [if_neg current, if_neg current]
      rfl

/-- The positions of the loop of `writev`. -/
def aims (total position : Int) : List (List UInt8) → Script
  | [] => []
  | chunk :: rest =>
      (chunk, position) ::
        aims (total + chunk.length)
          (if position > -1 then position + (total + chunk.length) else position) rest

theorem writevLoop_eq_some {file file' : OpenFile} {total position : Int}
    {chunks : List (List UInt8)} (short : ∀ chunk ∈ chunks, chunk.length < 2 ^ 32)
    (done : writevLoop file total position chunks = some file') :
    file' = (aims total position chunks).foldl perform file := by
  induction chunks generalizing file total position with
  | nil => exact (Option.some.inj done).symm
  | cons chunk rest ih =>
      rw [writevLoop, Option.bind_eq_bind, Option.bind_eq_some_iff] at done
      obtain ⟨⟨written, middle⟩, first, later⟩ := done
      have wrote := writeBuffer_eq_some (short chunk (List.mem_cons_self ..)) first
      rw [wrote.1] at later
      have rest := ih (fun chunk member => short chunk (List.mem_cons_of_mem _ member)) later
      rw [rest, wrote.2]
      rfl

/-- The positions of a run, as the stream computes them. -/
def script (pos : Option Int) (owed : Nat) : List (Bool × Batch) → Script
  | [] => []
  | (inside, batch) :: rest =>
      aims 0 (numberOr (if inside then pos else pos.map (· + owed))) batch.chunks ++
        script (pos.map (· + owed)) batch.size rest

theorem transfer_eq_some {file file' : OpenFile} {batch : Batch} {pos : Option Int}
    (short : ∀ chunk ∈ batch.chunks, chunk.length < 2 ^ 32)
    (done : batch.transfer file pos = some file') :
    file' = (aims 0 (numberOr pos) batch.chunks).foldl perform file := by
  cases batch with
  | write data =>
      obtain ⟨⟨written, after⟩, wrote, rfl⟩ := Option.map_eq_some_iff.mp done
      exact (writeBuffer_eq_some (short data (List.mem_cons_self ..)) wrote).2
  | writev data => exact writevLoop_eq_some short done

/-- A finished run has performed its script. -/
theorem follow_eq_some {stream stream' : WriteStream} {labels : List (Bool × Batch)}
    (short : ∀ label ∈ labels, ∀ chunk ∈ label.2.chunks, chunk.length < 2 ^ 32)
    (done : follow WriteStream.next stream labels = some stream') :
    stream'.file = (script stream.pos stream.owed labels).foldl perform stream.file := by
  induction labels generalizing stream with
  | nil =>
      cases done
      rfl
  | cons label rest ih =>
      obtain ⟨inside, batch⟩ := label
      obtain ⟨middle, taken, later⟩ := Option.bind_eq_some_iff.mp done
      unfold WriteStream.next at taken
      simp only [Option.bind_eq_bind, Option.bind_eq_some_iff] at taken
      obtain ⟨file, moved, same⟩ := taken
      have wrote := transfer_eq_some (short _ (List.mem_cons_self ..)) moved
      have rest := ih (fun label member => short label (List.mem_cons_of_mem _ member)) later
      cases same
      rw [rest, script, List.foldl_append, wrote]
      rfl

/-- A script only appends to the ranges of the file. -/
theorem foldl_writes (file : OpenFile) (entries : Script) :
    (entries.foldl perform file).writes = file.writes ++ landings file.position entries := by
  induction entries generalizing file with
  | nil => simp [landings]
  | cons entry rest ih =>
      obtain ⟨chunk, target⟩ := entry
      rw [List.foldl_cons, ih, landings]
      by_cases empty : chunk = []
      · simp [perform, OpenFile.put, OpenFile.seek, empty]
      · simp [perform, OpenFile.put, OpenFile.seek, empty]

/-- The content is made by the ranges in their order. -/
def Written (file : OpenFile) : Prop :=
  file.content = file.writes.foldl (fun content range => splice content range.1 range.2) []

theorem written_foldl {file : OpenFile} (written : Written file) (entries : Script) :
    Written (entries.foldl perform file) := by
  induction entries generalizing file with
  | nil => exact written
  | cons entry rest ih =>
      obtain ⟨chunk, target⟩ := entry
      apply ih
      unfold Written at written ⊢
      by_cases empty : chunk = []
      · simp [perform, OpenFile.put, OpenFile.seek, empty, splice, written]
      · simp [perform, OpenFile.put, OpenFile.seek, empty, written]

/-- Without a start, every write goes on at the current position. -/
theorem landings_current {position : Nat} {entries : Script}
    (current : ∀ entry ∈ entries, entry.2 = -1) :
    landings position entries = slots position (entries.map Prod.fst) := by
  induction entries generalizing position with
  | nil => rfl
  | cons entry rest ih =>
      obtain ⟨chunk, target⟩ := entry
      have number : target = -1 := current (chunk, target) (List.mem_cons_self ..)
      have here : landing position target = position := by
        rw [number]
        rfl
      rw [landings, here, List.map_cons, slots,
        ih fun entry member => current entry (List.mem_cons_of_mem _ member)]

theorem aims_fst (total position : Int) (chunks : List (List UInt8)) :
    (aims total position chunks).map Prod.fst = chunks := by
  induction chunks generalizing total position with
  | nil => rfl
  | cons chunk rest ih => rw [aims, List.map_cons, ih]

/-- The chunks of a run, in the order of the stream. -/
def chunksOf (labels : List (Bool × Batch)) : List (List UInt8) :=
  labels.flatMap fun label => label.2.chunks

theorem script_fst (pos : Option Int) (owed : Nat) (labels : List (Bool × Batch)) :
    (script pos owed labels).map Prod.fst = chunksOf labels := by
  induction labels generalizing pos owed with
  | nil => rfl
  | cons label rest ih =>
      obtain ⟨inside, batch⟩ := label
      rw [script, List.map_append, aims_fst, ih]
      rfl

theorem aims_current (total : Int) (chunks : List (List UInt8)) :
    ∀ entry ∈ aims total (-1) chunks, entry.2 = -1 := by
  induction chunks generalizing total with
  | nil => simp [aims]
  | cons chunk rest ih =>
      intro entry member
      rw [aims, if_neg (by decide)] at member
      rcases List.mem_cons.mp member with same | later
      · rw [same]
      · exact ih _ entry later

theorem script_current (owed : Nat) (labels : List (Bool × Batch)) :
    ∀ entry ∈ script none owed labels, entry.2 = -1 := by
  induction labels generalizing owed with
  | nil => simp [script]
  | cons label rest ih =>
      obtain ⟨inside, batch⟩ := label
      intro entry member
      rw [script] at member
      rcases List.mem_append.mp member with here | later
      · apply aims_current 0 batch.chunks
        cases inside <;> exact here
      · exact ih _ entry later

/-- How far each chunk of a batch is from its slot: `writev` adds the running total each time. -/
def batchShifts (total : Nat) (shift : Int) : List (List UInt8) → Script
  | [] => []
  | chunk :: rest =>
      (chunk, shift) :: batchShifts (total + chunk.length) (shift + total) rest

/-- How far each chunk of a run is from its slot. A call from inside the callback of the previous
one does not see what that one has still to add. -/
def shifts (owed : Nat) : List (Bool × Batch) → Script
  | [] => []
  | (inside, batch) :: rest =>
      batchShifts 0 (if inside then -(owed : Int) else 0) batch.chunks ++ shifts batch.size rest

/-- The positions that belong to the shifts. -/
def shifted (slot : Nat) : Script → Script
  | [] => []
  | (chunk, shift) :: rest => (chunk, slot + shift) :: shifted (slot + chunk.length) rest

theorem shifted_append (slot : Nat) (first second : Script) :
    shifted slot (first ++ second) =
      shifted slot first ++ shifted (slot + (first.map Prod.fst).flatten.length) second := by
  induction first generalizing slot with
  | nil => rfl
  | cons entry rest ih =>
      obtain ⟨chunk, shift⟩ := entry
      simp [shifted, ih, Nat.add_assoc]

theorem batchShifts_fst (total : Nat) (shift : Int) (chunks : List (List UInt8)) :
    (batchShifts total shift chunks).map Prod.fst = chunks := by
  induction chunks generalizing total shift with
  | nil => rfl
  | cons chunk rest ih => rw [batchShifts, List.map_cons, ih]

theorem shifts_fst (owed : Nat) (labels : List (Bool × Batch)) :
    (shifts owed labels).map Prod.fst = chunksOf labels := by
  induction labels generalizing owed with
  | nil => rfl
  | cons label rest ih =>
      obtain ⟨inside, batch⟩ := label
      rw [shifts, List.map_append, batchShifts_fst, ih]
      rfl

theorem aims_shifted {slot total : Nat} {shift : Int} {chunks : List (List UInt8)}
    (inside : 0 ≤ slot + shift) :
    aims total (slot + shift) chunks = shifted slot (batchShifts total shift chunks) := by
  induction chunks generalizing slot total shift with
  | nil => rfl
  | cons chunk rest ih =>
      have step : (slot : Int) + shift + (total + chunk.length) =
          (slot + chunk.length : Nat) + (shift + total) := by
        omega
      have later : 0 ≤ ((slot + chunk.length : Nat) : Int) + (shift + total) := by omega
      rw [aims, if_pos (by omega), step, batchShifts, shifted]
      have moved := @ih (slot + chunk.length) (total + chunk.length) (shift + total) later
      rw [← moved]
      rfl

/-- The positions of a run with a start are its slots, each moved by its shift. -/
theorem script_shifted {slot owed : Nat} {pos : Int} (settled : pos + owed = slot)
    (inside : 0 ≤ pos) (labels : List (Bool × Batch)) :
    script (some pos) owed labels = shifted slot (shifts owed labels) := by
  induction labels generalizing slot owed pos with
  | nil => rfl
  | cons label rest ih =>
      obtain ⟨early, batch⟩ := label
      have target : numberOr (if early then some pos else (some pos).map (· + (owed : Int))) =
          slot + (if early then -(owed : Int) else 0) := by
        cases early
        · simp [numberOr, settled]
        · simp [numberOr]
          omega
      have above : 0 ≤ (slot : Int) + (if early then -(owed : Int) else 0) := by
        cases early
        · simp
        · simp
          omega
      rw [script, target, shifts, shifted_append, batchShifts_fst]
      have first := @aims_shifted slot 0 _ batch.chunks above
      rw [Nat.cast_zero] at first
      rw [first]
      have later := @ih (slot + batch.size) batch.size (pos + owed) (by omega) (by omega)
      rw [Option.map_some, later]
      rfl

/-- Every nonempty chunk reaches its slot: its shift vanishes modulo 2^32, or its position is the
number that means the current one and the descriptor is already there. -/
def Lands (slot : Nat) (there : Bool) : Script → Prop
  | [] => True
  | (chunk, shift) :: rest =>
      let right := shift % 2 ^ 32 = 0 ∨ (slot + shift) % 2 ^ 32 = 2 ^ 32 - 1 ∧ there
      (chunk = [] ∨ right) ∧ Lands (slot + chunk.length) (decide right) rest

theorem toNat_target (target : Int) : ((BitVec.ofInt 32 target).toNat : Int) = target % 2 ^ 32 := by
  rw [BitVec.toNat_ofInt]
  omega

theorem current_iff (target : Int) :
    BitVec.ofInt 32 target = noPosition ↔ target % 2 ^ 32 = 2 ^ 32 - 1 := by
  have number := toNat_target target
  rw [← BitVec.toNat_inj, ← number, BitVec.toNat_allOnes]
  omega

/-- A write reaches its slot exactly when its shift is harmless. -/
theorem landing_iff {position slot : Nat} {shift : Int} {there : Bool}
    (place : position = slot ↔ there) (bound : slot < 2 ^ 32 - 1) :
    landing position (slot + shift) = slot ↔
      shift % 2 ^ 32 = 0 ∨ (slot + shift) % 2 ^ 32 = 2 ^ 32 - 1 ∧ there := by
  have number := toNat_target (slot + shift)
  have special := current_iff (slot + shift)
  unfold landing
  by_cases current : BitVec.ofInt 32 (slot + shift) = noPosition
  · have sentinel := special.mp current
    rw [if_neg (not_not.mpr current), place]
    have moved : ¬shift % 2 ^ 32 = 0 := by omega
    simp only [moved, sentinel, true_and, false_or]
  · have other : ¬(slot + shift) % 2 ^ 32 = 2 ^ 32 - 1 := fun sentinel => current (special.mpr sentinel)
    rw [if_pos current]
    simp only [other, false_and, or_false]
    omega

/-- The ranges of a shifted script are the slots exactly when every nonempty chunk lands. -/
theorem landings_shifted_iff {position slot : Nat} {there : Bool} {entries : Script}
    (place : position = slot ↔ there)
    (bound : slot + (entries.map Prod.fst).flatten.length < 2 ^ 32 - 1) :
    landings position (shifted slot entries) = slots slot (entries.map Prod.fst) ↔
      Lands slot there entries := by
  induction entries generalizing position slot there with
  | nil => simp [landings, shifted, slots, Lands]
  | cons entry rest ih =>
      obtain ⟨chunk, shift⟩ := entry
      have room : slot + chunk.length + (rest.map Prod.fst).flatten.length < 2 ^ 32 - 1 := by
        simp only [List.map_cons, List.flatten_cons, List.length_append] at bound
        omega
      have here := @landing_iff position slot shift there place (by omega)
      have moved : landing position (slot + shift) + chunk.length = slot + chunk.length ↔
          decide (shift % 2 ^ 32 = 0 ∨ (slot + shift) % 2 ^ 32 = 2 ^ 32 - 1 ∧ there) = true := by
        rw [decide_eq_true_iff, ← here]
        omega
      have later := ih moved room
      rw [shifted, landings, List.map_cons, slots, Lands, ← later]
      by_cases empty : chunk = []
      · simp [empty]
      · simp only [empty, if_false, List.singleton_append, List.cons.injEq, Prod.mk.injEq, and_true,
          false_or, here]

/-- The bytes of a file that holds the data at the offset and nothing else. -/
def holding (offset : Nat) (data : List UInt8) : List UInt8 := splice [] offset data

/-- Chunks in their slots extend what is already there. -/
theorem foldl_slots {offset : Nat} (data : List UInt8) (chunks : List (List UInt8)) :
    (slots (offset + data.length) chunks).foldl
        (fun content range => splice content range.1 range.2) (holding offset data) =
      holding offset (data ++ chunks.flatten) := by
  induction chunks generalizing data with
  | nil => simp [slots]
  | cons chunk rest ih =>
      have step := ih (data ++ chunk)
      rw [List.length_append, ← Nat.add_assoc] at step
      rw [slots, List.flatten_cons, ← List.append_assoc, ← step, List.foldl_append]
      by_cases empty : chunk = []
      · simp [empty]
      · congr 1
        simp only [empty, if_false, List.foldl_cons, List.foldl_nil]
        unfold holding splice
        by_cases first : data = []
        · simp [first, empty]
        · have size : (List.replicate offset 0 ++ data).length = offset + data.length := by simp
          have whole := List.take_of_length_le (Nat.le_of_eq size)
          have none : (List.replicate offset 0 ++ data).drop (offset + data.length + chunk.length) = [] :=
            List.drop_eq_nil_of_le (by rw [size]; exact Nat.le_add_right _ _)
          simp [first, empty, whole, none]

/-- The claim about a finished stream: the chunks are in their slots one after another, and the
file holds their concatenation at the start. -/
def Contiguous (start : Option Nat) (labels : List (Bool × Batch)) (final : WriteStream) : Prop :=
  final.file.writes = slots (start.getD 0) (chunksOf labels) ∧
    final.file.content = holding (start.getD 0) (chunksOf labels).flatten

/-- Without a start nothing is asked; with one, every nonempty chunk has a harmless shift. -/
def Unshifted (start : Option Nat) (labels : List (Bool × Batch)) : Prop :=
  ∀ offset ∈ start, Lands offset (offset == 0) (shifts 0 labels)

/-- The ranges of a finished stream are those of its script. -/
theorem writes_of_follow {start : Option Nat} {labels : List (Bool × Batch)} {final : WriteStream}
    (short : ∀ label ∈ labels, ∀ chunk ∈ label.2.chunks, chunk.length < 2 ^ 32)
    (finished : follow WriteStream.next (createWriteStream start) labels = some final) :
    final.file.writes = landings 0 (script (start.map Int.ofNat) 0 labels) ∧ Written final.file := by
  have file := follow_eq_some short finished
  have empty : Written (createWriteStream start).file := rfl
  rw [file, foldl_writes]
  exact ⟨rfl, written_foldl empty _⟩

/-- The ranges alone decide the claim. -/
theorem contiguous_iff_writes {start : Option Nat} {labels : List (Bool × Batch)}
    {final : WriteStream} (written : Written final.file) :
    Contiguous start labels final ↔
      final.file.writes = slots (start.getD 0) (chunksOf labels) := by
  apply Iff.intro
  · intro contiguous
    exact contiguous.1
  · intro ranges
    apply And.intro ranges
    have content := @foldl_slots (start.getD 0) [] (chunksOf labels)
    rw [List.nil_append] at content
    unfold Written at written
    rw [written, ranges, ← content]
    rfl

theorem length_of_mem {labels : List (Bool × Batch)} {label : Bool × Batch} (member : label ∈ labels)
    {chunk : List UInt8} (inside : chunk ∈ label.2.chunks) :
    chunk.length ≤ (chunksOf labels).flatten.length := by
  have found : chunk ∈ chunksOf labels := List.mem_flatMap.mpr ⟨label, member, inside⟩
  exact (List.sublist_flatten_of_mem found).length_le

/-- A finished stream is contiguous exactly when no nonempty chunk is shifted. -/
theorem contiguous_iff {start : Option Nat} {labels : List (Bool × Batch)} {final : WriteStream}
    (bound : start.getD 0 + (chunksOf labels).flatten.length < 2 ^ 32 - 1)
    (finished : follow WriteStream.next (createWriteStream start) labels = some final) :
    Contiguous start labels final ↔ Unshifted start labels := by
  have short : ∀ label ∈ labels, ∀ chunk ∈ label.2.chunks, chunk.length < 2 ^ 32 := by
    intro label member chunk inside
    have := length_of_mem member inside
    omega
  obtain ⟨writes, written⟩ := writes_of_follow short finished
  rw [contiguous_iff_writes written, writes]
  cases start with
  | none =>
      have current := @landings_current 0 _ (script_current 0 labels)
      rw [script_fst] at current
      exact iff_of_true current (by simp [Unshifted])
  | some offset =>
      have moved := @script_shifted offset 0 offset (by simp) (by simp) labels
      have place : 0 = offset ↔ (offset == 0) = true := by
        rw [beq_iff_eq]
        exact eq_comm
      have lands := @landings_shifted_iff 0 offset (offset == 0) (shifts 0 labels) place
      rw [shifts_fst] at lands
      rw [Option.map_some, Int.ofNat_eq_natCast, moved, Option.getD_some, lands bound]
      simp [Unshifted]

/-- A write of one chunk and then of two, each issued after the callback returned. -/
theorem contiguous_two_calls :
    ∃ final,
      follow WriteStream.next (createWriteStream (some 4))
        [(false, .write [1]), (false, .writev [[2], [3]])] = some final ∧
      Contiguous (some 4) [(false, .write [1]), (false, .writev [[2], [3]])] final := by
  refine ⟨_, rfl, ?_⟩
  exact (contiguous_iff (by decide) rfl).mpr (by simp [Unshifted, shifts, batchShifts, Batch.chunks, Lands])

/-- Two chunks after a start, the second one issued from inside the callback of the first. -/
theorem second_chunk_overwrites :
    ¬∀ (start : Option Nat) (labels : List (Bool × Batch)) (final : WriteStream),
      start.getD 0 + (chunksOf labels).flatten.length < 2 ^ 32 - 1 →
        follow WriteStream.next (createWriteStream start) labels = some final →
          Contiguous start labels final := by
  intro contiguous
  have second := (contiguous (some 5) [(false, .write [1]), (true, .write [2])] _ (by decide) rfl).1
  exact absurd second (by decide)

end NodeExt2fs.Streams
