import NodeExt2fs.Construction.Glue.DiskBytes
import NodeExt2fs.Proof.Disk.Addresses
import NodeExt2fs.Programs.Transition

/-!
This file proves that filesystems on partitions of one disk keep their bytes apart.
-/

namespace NodeExt2fs.Disk
open Programs Structures Glue

/-- A view is inside the memory, and has no more bytes than are asked for. -/
theorem getBuffer_eq_some {heap pointer length view : Int} (found : getBuffer heap pointer length = some view) :
    view = max 0 length ∧ pointer + view ≤ heap ∧ 0 ≤ pointer := by
  unfold getBuffer at found
  by_cases outside : pointer < 0 ∨ heap < pointer
  · rw [if_pos outside] at found
    cases found
  · rw [if_neg outside] at found
    by_cases positive : length > 0
    · rw [if_pos positive] at found
      by_cases long : length > heap - pointer
      · rw [if_pos long] at found
        cases found
      · rw [if_neg long] at found
        cases found
        omega
    · rw [if_neg positive] at found
      cases found
      omega

section Forgetting

variable {heap : Heap} {disk : DiskWrapper} {blockSize : BitVec 16} {block count data : BitVec 32}
  {history : List (Event DiskCall DiskReply)}

/-- Without its bytes, a read asks for the range that it asks for with them. -/
theorem outcome_blkRead {result : Option (Errcode × Heap)}
    (outcome : Program.Outcome (DiskBytes.blkRead heap disk blockSize block count data) history result) :
    Program.Outcome (blkRead heap.size disk blockSize block count data)
      (history.filterMap DiskBytes.forgetEvent) (result.map Prod.fst) := by
  unfold DiskBytes.blkRead at outcome
  unfold blkRead
  cases viewed : getBuffer heap.size (jsNumber data) (transferSize (jsNumber count) (jsShort blockSize)) with
  | none =>
      simp only [viewed] at outcome ⊢
      cases outcome
      exact .pure _
  | some length =>
      simp only [viewed] at outcome ⊢
      cases outcome with
      | call reply rest =>
          cases rest
          exact @Program.Outcome.call DiskRequest DiskAnswer _ _ _ reply.1 _ _ (.pure _)

theorem outcome_blkWrite {result : Option Errcode}
    (outcome : Program.Outcome (DiskBytes.blkWrite heap disk blockSize block count data) history result) :
    Program.Outcome (blkWrite heap.size disk blockSize block count data)
      (history.filterMap DiskBytes.forgetEvent) result := by
  unfold DiskBytes.blkWrite at outcome
  unfold blkWrite
  cases viewed : getBuffer heap.size (jsNumber data) (transferSize (jsNumber count) (jsShort blockSize)) with
  | none =>
      simp only [viewed] at outcome ⊢
      cases outcome
      exact .pure _
  | some length =>
      simp only [viewed] at outcome ⊢
      cases outcome with
      | call resolved rest =>
          cases rest
          have shown := getBuffer_eq_some viewed
          have size : ((heap.bytes (jsNumber data) length).length : Int) = length := by
            rw [Heap.bytes, Storage.length_range]
            omega
          have same : DiskBytes.forgetEvent ⟨.write (heap.bytes (jsNumber data) length)
              (jsNumber block * jsShort blockSize + disk.offset), resolved⟩ =
              some ⟨.write length (jsNumber block * jsShort blockSize + disk.offset), resolved⟩ := by
            rw [DiskBytes.forgetEvent, size]
          rw [List.filterMap_cons_some same]
          exact @Program.Outcome.call DiskRequest DiskAnswer _ _ _ resolved _ _ (.pure _)

theorem outcome_discard {result : Option Errcode}
    (outcome : Program.Outcome (DiskBytes.discard disk blockSize block count) history result) :
    Program.Outcome (Glue.discard disk blockSize block count)
      (history.filterMap DiskBytes.forgetEvent) result := by
  cases outcome with
  | call resolved rest =>
      cases rest
      exact @Program.Outcome.call DiskRequest DiskAnswer _ _ _ resolved _ _ (.pure _)

end Forgetting

/-- A partition of a disk, with the block size of the filesystem on it. -/
structure Partition where
  offset : Nat
  size : Nat
  blockSize : Nat
  valid : BlockSize blockSize
  addressable : offset + size < 2 ^ 53

def Partition.Apart (partition partition' : Partition) : Prop :=
  partition.offset + partition.size ≤ partition'.offset ∨
    partition'.offset + partition'.size ≤ partition.offset

/-- The part of the disk that is a partition. -/
def Partition.view (partition : Partition) (storage : Storage UInt8) : Storage UInt8 :=
  storage.part partition.offset

def Partition.channel (partition : Partition) : IoChannel :=
  setBlksize ⟨0⟩ (BitVec.ofNat 32 partition.blockSize)

/-- What libext2fs asks of the I/O manager. -/
inductive BlockCommand where
  | read (block : Nat) (count : Int) (data : BitVec 32)
  | write (block : Nat) (count : Int) (data : BitVec 32)
  | discard (block count : Nat)
  | zeroout (block count : Nat) (allocated : BitVec 32)
  | flush

namespace BlockCommand

/-- The entry that is called, with the memory that it leaves. -/
def task (command : BlockCommand) (heap : Heap) (partition : Partition) :
    DiskTask (Option (Errcode × Heap)) :=
  let disk : DiskWrapper := { offset := partition.offset }
  match command with
  | .read block count data =>
      DiskBytes.jsReadBlk64Entry heap disk partition.channel (BitVec.ofNat 64 block)
        (BitVec.ofInt 32 count) data
  | .write block count data => do
      let status ← DiskBytes.jsWriteBlk64Entry heap disk partition.channel (BitVec.ofNat 64 block)
        (BitVec.ofInt 32 count) data
      return status.map fun ret => (ret, heap)
  | .discard block count => do
      let status ← DiskBytes.jsDiscardEntry disk partition.channel (BitVec.ofNat 64 block)
        (BitVec.ofNat 64 count)
      return status.map fun ret => (ret, heap)
  | .zeroout block count allocated =>
      DiskBytes.jsZerooutEntry heap allocated disk partition.channel (BitVec.ofNat 64 block)
        (BitVec.ofNat 64 count)
  | .flush => do
      let status ← DiskBytes.jsFlushEntry
      return status.map fun ret => (ret, heap)

/-- The first byte of a command in its partition. -/
def start (command : BlockCommand) (blockSize : Nat) : Nat :=
  match command with
  | .read block _ _ | .write block _ _ | .discard block _ | .zeroout block _ _ => block * blockSize
  | .flush => 0

/-- The number of bytes of a command. -/
def length (command : BlockCommand) (blockSize : Nat) : Nat :=
  match command with
  | .read _ count _ | .write _ count _ => (wanted count blockSize).toNat
  | .discard _ count | .zeroout _ count _ => count * blockSize
  | .flush => 0

/-- The memory that the caller, or `malloc`, gives to a command. -/
def Provided (command : BlockCommand) (heap : Heap) (blockSize : Nat) : Prop :=
  match command with
  | .read _ _ data | .write _ _ data | .zeroout _ _ data =>
      0 ≤ data.toInt ∧ data.toInt + command.length blockSize ≤ heap.size
  | .discard _ _ | .flush => True

/-- The numbers of a command survive the conversions on their way to the disk. -/
def Converted (command : BlockCommand) (blockSize : Nat) : Prop :=
  match command with
  | .read block count _ | .write block count _ => Representable blockSize block count
  | .discard block count => Representable blockSize block count
  | .zeroout block count _ => Representable blockSize block count ∧ count * blockSize < 2 ^ 32
  | .flush => True

end BlockCommand

/-- A command about blocks of the partition. -/
structure Partition.InRange (partition : Partition) (heap : Heap) (command : BlockCommand) : Prop where
  converted : command.Converted partition.blockSize
  provided : command.Provided heap partition.blockSize
  inside : command.start partition.blockSize + command.length partition.blockSize ≤ partition.size

/-- What the entries make of a block number and a count that survive the conversions. -/
theorem converted_range {blockSize block : Nat} {count : Int} (valid : BlockSize blockSize)
    (represented : Representable blockSize block count) :
    jsNumber ((BitVec.ofNat 64 block).setWidth 32) *
        jsShort ((BitVec.ofNat 32 blockSize).setWidth 16) = block * blockSize ∧
      max 0 (transferSize count (jsShort ((BitVec.ofNat 32 blockSize).setWidth 16))) =
        wanted count blockSize := by
  obtain ⟨exponent, small, rfl⟩ := valid
  have short := readAs_blockSize small
  obtain ⟨address, length, -, -⟩ := represented
  have bound : block < 2 ^ 32 := by omega
  exact ⟨(offset_iff short bound).mpr address, (transfer_iff short count).mpr length⟩

/-- The view of a transfer that survives the conversions is the caller's buffer. -/
theorem converted_view {blockSize block heap : Nat} {count : Int} {data : BitVec 32}
    (valid : BlockSize blockSize) (represented : Representable blockSize block count)
    (inside : 0 ≤ data.toInt) (fits : data.toInt + wanted count blockSize ≤ heap) :
    getBuffer heap (jsNumber data) (transferSize (jsNumber (BitVec.ofInt 32 count))
        (jsShort ((BitVec.ofNat 32 blockSize).setWidth 16))) = some (wanted count blockSize) := by
  have length := (converted_range valid represented).2
  obtain ⟨exponent, small, rfl⟩ := valid
  rw [transfer_request (readAs_blockSize small) inside fits represented.2.2.1 represented.2.2.2, length]

theorem diskStatus_eq_zero {resolved : Bool} : diskStatus resolved = 0 ↔ resolved = true := by
  cases resolved <;> decide

theorem bytes_store (heap : Heap) {pointer length : Int} {bytes : List UInt8}
    (all : bytes.length = length.toNat) : (heap.store pointer bytes).bytes pointer length = bytes := by
  unfold Heap.bytes Heap.store
  rw [Storage.range_put _ _ (by omega), List.take_of_length_le (by omega)]

section Entries

variable {partition : Partition} {heap : Heap} {block : Nat} {count : Int} {data : BitVec 32}
  {storage : Storage UInt8} (represented : Representable partition.blockSize block count)
  (inside : 0 ≤ data.toInt) (fits : data.toInt + wanted count partition.blockSize ≤ heap.size)
include represented inside fits

/-- A read leaves the disk, and has the bytes of its range when it succeeds. -/
theorem wp_jsReadBlk64Entry :
    Program.wp diskObject (DiskBytes.jsReadBlk64Entry heap { offset := partition.offset } partition.channel
        (BitVec.ofNat 64 block) (BitVec.ofInt 32 count) data)
      (fun result storage' => storage' = storage ∧ ∃ ret heap', result = some (ret, heap') ∧
        (ret = 0 → heap'.bytes data.toInt (wanted count partition.blockSize) =
          (partition.view storage).range (block * partition.blockSize)
            (wanted count partition.blockSize).toNat)) storage := by
  have address := (converted_range partition.valid represented).1
  have view := converted_view partition.valid represented inside fits
  unfold DiskBytes.jsReadBlk64Entry DiskBytes.blkRead Partition.channel setBlksize
  simp only [view]
  refine ⟨trivial, ?_⟩
  intro reply storage' allowed
  obtain ⟨same, length, right⟩ := allowed
  refine ⟨same, _, _, rfl, ?_⟩
  intro succeeded
  have resolved := right (diskStatus_eq_zero.mp succeeded)
  rw [List.take_of_length_le (by omega)]
  unfold jsNumber
  rw [bytes_store heap length, resolved, Partition.view, Storage.range_part]
  congr 1
  omega

/-- A write changes nothing outside its range, and has put its bytes there when it succeeds. -/
theorem wp_jsWriteBlk64Entry :
    Program.wp diskObject (DiskBytes.jsWriteBlk64Entry heap { offset := partition.offset } partition.channel
        (BitVec.ofNat 64 block) (BitVec.ofInt 32 count) data)
      (fun result storage' =>
        storage.SameOutside (partition.offset + block * partition.blockSize)
          (wanted count partition.blockSize).toNat storage' ∧ ∃ ret, result = some ret ∧
            (ret = 0 → storage' = storage.put (partition.offset + block * partition.blockSize)
              (heap.bytes data.toInt (wanted count partition.blockSize)))) storage := by
  have address := (converted_range partition.valid represented).1
  have view := converted_view partition.valid represented inside fits
  unfold DiskBytes.jsWriteBlk64Entry DiskBytes.blkWrite Partition.channel setBlksize
  simp only [view]
  refine ⟨trivial, ?_⟩
  intro resolved storage' allowed
  obtain ⟨same, right⟩ := allowed
  have place : (jsNumber ((BitVec.ofNat 64 block).setWidth 32) *
      jsShort ((BitVec.ofNat 32 partition.blockSize).setWidth 16) + (partition.offset : Int)).toNat =
      partition.offset + block * partition.blockSize := by omega
  have length : (heap.bytes (jsNumber data) (wanted count partition.blockSize)).length =
      (wanted count partition.blockSize).toNat := Storage.length_range _ _ _
  rw [place] at same right
  rw [length] at same
  exact ⟨same, _, rfl, fun succeeded => right (diskStatus_eq_zero.mp succeeded)⟩

end Entries

theorem wanted_count (count blockSize : Nat) : wanted count blockSize = (count * blockSize : Nat) := by
  unfold wanted
  rw [if_neg (by omega)]
  rfl

/-- The count of a discard is a number without a sign. -/
theorem converted_discard {blockSize block count : Nat} (valid : BlockSize blockSize)
    (represented : Representable blockSize block count) :
    transferSize (jsNumber ((BitVec.ofNat 64 count).setWidth 32))
      (jsShort ((BitVec.ofNat 32 blockSize).setWidth 16)) = (count * blockSize : Nat) := by
  obtain ⟨exponent, small, rfl⟩ := valid
  have length := (discard_iff (readAs_blockSize small) count).mpr represented.2
  rw [BitVec.ofInt_natCast, wanted_count] at length
  exact length

theorem wp_jsDiscardEntry {partition : Partition} {block count : Nat} {storage : Storage UInt8}
    (represented : Representable partition.blockSize block count) :
    Program.wp diskObject (DiskBytes.jsDiscardEntry { offset := partition.offset } partition.channel
        (BitVec.ofNat 64 block) (BitVec.ofNat 64 count))
      (fun result storage' =>
        storage.SameOutside (partition.offset + block * partition.blockSize)
          (count * partition.blockSize) storage' ∧ ∃ ret, result = some ret) storage := by
  have address := (converted_range partition.valid represented).1
  unfold DiskBytes.jsDiscardEntry DiskBytes.discard Partition.channel setBlksize
  refine ⟨trivial, ?_⟩
  intro resolved storage' same
  refine ⟨?_, _, rfl⟩
  have place : (jsNumber ((BitVec.ofNat 64 block).setWidth 32) *
      jsShort ((BitVec.ofNat 32 partition.blockSize).setWidth 16) + (partition.offset : Int)).toNat =
      partition.offset + block * partition.blockSize := by omega
  unfold diskObject at same
  simp only [place, converted_discard partition.valid represented, Int.toNat_natCast] at same
  exact same

/-- `malloc` and `memset` get the low 32 bits of the number of bytes. -/
theorem zeroout_size {blockSize : Nat} (valid : BlockSize blockSize) (count : Nat) :
    ((BitVec.ofNat 64 count * (BitVec.ofNat 32 blockSize).signExtend 64).setWidth 32).toNat =
      count * blockSize % 2 ^ 32 := by
  obtain ⟨exponent, small, rfl⟩ := valid
  have extended : (BitVec.ofNat 32 (1024 * 2 ^ exponent)).signExtend 64 =
      BitVec.ofNat 64 (1024 * 2 ^ exponent) := by
    interval_cases exponent <;> decide
  rw [extended, BitVec.toNat_setWidth, ← BitVec.ofNat_mul, BitVec.toNat_ofNat,
    Nat.mod_mod_of_dvd _ (by decide)]

/-- The block that `malloc` gives is cleared. -/
theorem clear_allocated (heap : Heap) {allocated : BitVec 32} (size : BitVec 32)
    (inside : 0 ≤ allocated.toInt) (fits : allocated.toInt + size.toNat ≤ heap.size) :
    heap.clear allocated size =
      some (heap.store allocated.toInt (List.replicate size.toNat 0)) := by
  have same : (allocated.toNat : Int) = allocated.toInt := by
    rw [BitVec.toInt_eq_toNat_cond] at inside ⊢
    split <;> omega
  unfold Heap.clear
  rw [if_pos (by omega), same]

theorem setWidth_count (count : Nat) : (BitVec.ofNat 64 count).setWidth 32 = BitVec.ofInt 32 count := by
  rw [BitVec.ofInt_natCast]
  apply BitVec.eq_of_toNat_eq
  rw [BitVec.toNat_setWidth, BitVec.toNat_ofNat, BitVec.toNat_ofNat, Nat.mod_mod_of_dvd _ (by decide)]

/-- Blocks that are zeroed out are written, and discarded after a write that succeeds. -/
theorem wp_jsZerooutEntry {partition : Partition} {heap : Heap} {block count : Nat}
    {allocated : BitVec 32} {storage : Storage UInt8}
    (represented : Representable partition.blockSize block count)
    (small : count * partition.blockSize < 2 ^ 32) (inside : 0 ≤ allocated.toInt)
    (fits : allocated.toInt + (count * partition.blockSize : Nat) ≤ heap.size) :
    Program.wp diskObject (DiskBytes.jsZerooutEntry heap allocated { offset := partition.offset }
        partition.channel (BitVec.ofNat 64 block) (BitVec.ofNat 64 count))
      (fun result storage' =>
        storage.SameOutside (partition.offset + block * partition.blockSize)
          (count * partition.blockSize) storage' ∧ ∃ answer, result = some answer) storage := by
  have size := zeroout_size partition.valid count
  rw [Nat.mod_eq_of_lt small] at size
  have wants := wanted_count count partition.blockSize
  have cleared := clear_allocated heap ((BitVec.ofNat 64 count *
    (BitVec.ofNat 32 partition.blockSize).signExtend 64).setWidth 32) inside (by rw [size]; exact fits)
  have written := @wp_jsWriteBlk64Entry partition
    (heap.store allocated.toInt (List.replicate (count * partition.blockSize) 0)) block count allocated
    storage represented inside (wants ▸ fits)
  rw [size] at cleared
  rw [wants, Int.toNat_natCast, ← setWidth_count count] at written
  unfold DiskBytes.jsZerooutEntry
  simp only [Partition.channel, setBlksize] at cleared ⊢
  simp only [cleared, Program.wp_bind]
  apply Program.wp_mono written
  intro status storage' both
  obtain ⟨same, ret, rfl, -⟩ := both
  apply (Program.wp_ite _ _ _ _ _).mpr
  constructor
  · intro failed
    exact ⟨same, _, rfl⟩
  · intro succeeded
    rw [Program.wp_bind]
    apply Program.wp_mono (wp_jsDiscardEntry represented)
    intro status storage'' both
    obtain ⟨same', ret', rfl⟩ := both
    exact ⟨same.trans same', _, rfl⟩

/-- What a command does to the disk and gives back. -/
def BlockCommand.Meets (command : BlockCommand) (partition : Partition) (heap : Heap)
    (storage : Storage UInt8) (result : Option (Errcode × Heap)) (storage' : Storage UInt8) : Prop :=
  let start := command.start partition.blockSize
  let length := command.length partition.blockSize
  storage.SameOutside (partition.offset + start) length storage' ∧
    ∃ ret heap', result = some (ret, heap') ∧
      match command with
      | .read _ _ data => storage' = storage ∧
          (ret = 0 → heap'.bytes data.toInt length = (partition.view storage).range start length)
      | .write _ _ data =>
          ret = 0 → storage' = storage.put (partition.offset + start) (heap.bytes data.toInt length)
      | .discard _ _ | .zeroout _ _ _ => True
      | .flush => storage' = storage

/-- Each command in range does what it is for, whatever the disk answers. -/
theorem meets_command {partition : Partition} {heap : Heap} {command : BlockCommand}
    (inRange : partition.InRange heap command) (storage : Storage UInt8) :
    Program.wp diskObject (command.task heap partition) (command.Meets partition heap storage) storage := by
  obtain ⟨converted, provided, -⟩ := inRange
  have cast (count : Int) : ((wanted count partition.blockSize).toNat : Int) =
      wanted count partition.blockSize := Int.toNat_of_nonneg (wanted_nonneg _ _)
  cases command with
  | read block count data =>
      obtain ⟨inside, fits⟩ := provided
      unfold BlockCommand.length at fits
      rw [cast] at fits
      apply Program.wp_mono (wp_jsReadBlk64Entry converted inside fits)
      intro result storage' both
      obtain ⟨rfl, ret, heap', rfl, right⟩ := both
      rw [← cast] at right
      exact ⟨.refl _ _ _, ret, heap', rfl, rfl, right⟩
  | write block count data =>
      obtain ⟨inside, fits⟩ := provided
      unfold BlockCommand.length at fits
      rw [cast] at fits
      apply (Program.wp_bind _ _ _ _).mpr
      apply Program.wp_mono (wp_jsWriteBlk64Entry converted inside fits)
      intro status storage' both
      obtain ⟨same, ret, rfl, right⟩ := both
      rw [← cast] at right
      exact ⟨same, ret, heap, rfl, right⟩
  | discard block count =>
      apply (Program.wp_bind _ _ _ _).mpr
      apply Program.wp_mono (wp_jsDiscardEntry converted)
      intro status storage' both
      obtain ⟨same, ret, rfl⟩ := both
      exact ⟨same, ret, heap, rfl, trivial⟩
  | zeroout block count allocated =>
      obtain ⟨represented, small⟩ := converted
      obtain ⟨inside, fits⟩ := provided
      apply Program.wp_mono (wp_jsZerooutEntry represented small inside fits)
      intro result storage' both
      obtain ⟨same, ⟨ret, heap'⟩, rfl⟩ := both
      exact ⟨same, ret, heap', rfl, trivial⟩
  | flush =>
      refine ⟨trivial, ?_⟩
      intro resolved storage' same
      have same : storage' = storage := same
      subst same
      exact ⟨.refl _ _ _, _, heap, rfl, rfl⟩

/-- What the user of a partition knows after a command, from what it gave back. -/
def Partition.learned (partition : Partition) (known : Knowledge UInt8) (heap : Heap)
    (command : BlockCommand) (result : Option (Errcode × Heap)) : Knowledge UInt8 :=
  let start := command.start partition.blockSize
  let length := command.length partition.blockSize
  match command, result with
  | .read _ _ data, some (ret, heap') =>
      if ret = 0 then known.learn start (heap'.bytes data.toInt length) else known
  | .write _ _ data, some (ret, _) =>
      if ret = 0 then known.learn start (heap.bytes data.toInt length) else known.forget start length
  | .flush, some _ => known
  | _, _ => known.forget start length

/-- What is learned from a command is so. -/
theorem describes_learned {partition : Partition} {heap : Heap} {command : BlockCommand}
    (inRange : partition.InRange heap command) {storage storage' : Storage UInt8}
    {result : Option (Errcode × Heap)} (meets : command.Meets partition heap storage result storage')
    {known : Knowledge UInt8} (describes : known.Describes partition.size (partition.view storage)) :
    (partition.learned known heap command result).Describes partition.size (partition.view storage') := by
  have inside := inRange.inside
  obtain ⟨same, ret, heap', rfl, right⟩ := meets
  have forgotten := describes.forget same.part
  cases command with
  | read block count data =>
      obtain ⟨rfl, right⟩ := right
      unfold Partition.learned
      by_cases succeeded : ret = 0
      · simp only [if_pos succeeded, right succeeded]
        exact describes.learn_range _ _ inside
      · simp only [if_neg succeeded]
        exact describes
  | write block count data =>
      unfold Partition.learned
      by_cases succeeded : ret = 0
      · simp only [if_pos succeeded]
        rw [right succeeded, Partition.view, Storage.part_put]
        apply describes.learn
        rw [Heap.bytes, Storage.length_range, Int.toNat_natCast]
        exact inside
      · simp only [if_neg succeeded]
        exact forgotten
  | discard block count => exact forgotten
  | zeroout block count allocated => exact forgotten
  | flush =>
      subst right
      exact describes

section Mounts

variable {Mount Hidden : Type} [DecidableEq Mount]

/-- A disk with filesystems on partitions of it, and what the user of each one knows. -/
structure SharedDisk (Mount Hidden : Type) where
  hidden : Hidden
  known : Mount → Knowledge UInt8

/-- One call of the I/O manager of a filesystem, with the memory as it is then. -/
structure BlockCall (Mount : Type) where
  mount : Mount
  heap : Heap
  command : BlockCommand

/-- The filesystems share one queue, so that a call ends before the next one. -/
def sharedStep (handler : Handler DiskCall DiskReply Hidden) (partitions : Mount → Partition)
    (state : SharedDisk Mount Hidden) (call : BlockCall Mount) : Option (SharedDisk Mount Hidden) :=
  let partition := partitions call.mount
  let outcome := (call.command.task call.heap partition).run handler state.hidden
  some {
    hidden := outcome.2
    known := Function.update state.known call.mount
      (partition.learned (state.known call.mount) call.heap call.command outcome.1) }

/-- The calls are about blocks of their own partitions. -/
def CallInRange (partitions : Mount → Partition) (_ : SharedDisk Mount Hidden) (call : BlockCall Mount) :
    Prop :=
  (partitions call.mount).InRange call.heap call.command

/-- What each user knows is so. -/
def AllKnow (partitions : Mount → Partition) (view : Hidden → Storage UInt8)
    (state : SharedDisk Mount Hidden) : Prop :=
  ∀ mount, (state.known mount).Describes (partitions mount).size
    ((partitions mount).view (view state.hidden))

variable {handler : Handler DiskCall DiskReply Hidden} {view : Hidden → Storage UInt8}
  (honoured : diskObject.Honoured handler view) {partitions : Mount → Partition}
include honoured

/-- One call keeps what all users know. -/
theorem allKnow_step (apart : ∀ mount mount', mount ≠ mount' → (partitions mount).Apart (partitions mount'))
    {state state' : SharedDisk Mount Hidden} {call : BlockCall Mount} (know : AllKnow partitions view state)
    (inRange : CallInRange partitions state call)
    (taken : sharedStep handler partitions state call = some state') : AllKnow partitions view state' := by
  cases taken
  have meets := Program.run_of_wp honoured (meets_command inRange (view state.hidden))
  intro mount
  by_cases own : mount = call.mount
  · subst own
    simp only [Function.update_self]
    exact describes_learned inRange meets (know call.mount)
  · simp only [Function.update_of_ne own]
    apply (know mount).congr
    intro place within
    exact meets.1.part_of_apart inRange.inside (apart call.mount mount (Ne.symm own)) within

/-- In every run, each filesystem reads back what it wrote and read before, whatever the others on the
disk do in between. -/
theorem reads_known
    (apart : ∀ mount mount', mount ≠ mount' → (partitions mount).Apart (partitions mount'))
    {first state : SharedDisk Mount Hidden} (know : AllKnow partitions view first)
    (reached : Reaches (sharedStep handler partitions) (CallInRange partitions) first state)
    {mount : Mount} {heap heap' : Heap} {block : Nat} {count : Int} {data : BitVec 32}
    (inRange : (partitions mount).InRange heap (.read block count data))
    (succeeded : (((BlockCommand.read block count data).task heap (partitions mount)).run handler
      state.hidden).1 = some (0, heap')) :
    (state.known mount).Matches (block * (partitions mount).blockSize)
      (heap'.bytes data.toInt (wanted count (partitions mount).blockSize)) := by
  have all : AllKnow partitions view state :=
    reached.invariant know fun _ _ _ => allKnow_step honoured apart
  have meets := Program.run_of_wp honoured (meets_command inRange (view state.hidden))
  obtain ⟨-, ret, heap'', same, -, right⟩ := meets
  cases succeeded.symm.trans same
  have bytes := right rfl
  unfold BlockCommand.length at bytes
  rw [Int.toNat_of_nonneg (wanted_nonneg _ _)] at bytes
  rw [bytes]
  exact (all mount).matches_range _ _

end Mounts

theorem memoryDisk_honoured : diskObject.Honoured memoryDisk id := by
  intro call storage
  cases call with
  | read length fileOffset => exact ⟨rfl, Storage.length_range _ _ _, fun _ => rfl⟩
  | write buffer fileOffset => exact ⟨Storage.sameOutside_put _ _ _, fun _ => rfl⟩
  | discard offset length =>
      have same := Storage.sameOutside_put storage offset.toNat (List.replicate length.toNat 0)
      rw [List.length_replicate] at same
      exact same
  | flush => rfl

/-- Two small filesystems, one after the other. -/
def halves (second : Bool) : Partition where
  offset := if second then 4096 else 0
  size := 4096
  blockSize := 1024
  valid := ⟨0, by decide, rfl⟩
  addressable := by cases second <;> decide

theorem halves_apart (mount mount' : Bool) (different : mount ≠ mount') :
    (halves mount).Apart (halves mount') := by
  cases mount <;> cases mount' <;> simp_all [halves, Partition.Apart]

/-- A filesystem writes one block from a memory of equal bytes. -/
def fill (second : Bool) (value : UInt8) : BlockCall Bool :=
  ⟨second, ⟨65536, fun _ => value⟩, .write 1 1 4096#32⟩

theorem fill_inRange (second : Bool) (value : UInt8) (state : SharedDisk Bool (Storage UInt8)) :
    CallInRange halves state (fill second value) where
  converted := by
    change Representable 1024 1 1
    unfold Representable
    decide
  provided := by
    change 0 ≤ (4096#32).toInt ∧ (4096#32).toInt + 1024 ≤ (65536 : Int)
    decide
  inside := by
    change 1024 + 1024 ≤ 4096
    decide

/-- A block of one filesystem is read back after the other one has written its own. -/
theorem reads_known_halves : ∃ state heap',
    follow (sharedStep memoryDisk halves) ⟨fun _ => 0, fun _ _ => none⟩ [fill false 7, fill true 9] =
      some state ∧
    (((BlockCommand.read 1 1 4096#32).task ⟨65536, fun _ => 0⟩ (halves false)).run memoryDisk
      state.hidden).1 = some (0, heap') ∧
    (state.known false).Matches (1 * (halves false).blockSize)
      (heap'.bytes (4096#32).toInt (wanted 1 (halves false).blockSize)) := by
  have inRange := fill_inRange false 0 ⟨fun _ => 0, fun _ _ => none⟩
  have reached : Reaches (sharedStep memoryDisk halves) (CallInRange halves) ⟨fun _ => 0, fun _ _ => none⟩ _ :=
    .next (.next .first (fill_inRange false 7 _) rfl) (fill_inRange true 9 _) rfl
  have nothing : AllKnow halves id ⟨fun _ => 0, fun _ _ => none⟩ := fun _ _ _ absent => by cases absent
  have known := reads_known memoryDisk_honoured halves_apart nothing reached
    ⟨inRange.converted, inRange.provided, inRange.inside⟩ rfl
  exact ⟨_, _, rfl, rfl, known⟩

end NodeExt2fs.Disk
