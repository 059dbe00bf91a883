import NodeExt2fs.Construction.Js.Contents
import NodeExt2fs.Proof.Library.Finally
import NodeExt2fs.Proof.Stats.Owners
import NodeExt2fs.Proof.Transfers.Appending

/-!
This file reads with `readFile` what `writeFile` has written.
-/

namespace NodeExt2fs.Whole
open Programs Glue Js Structures Inspection
open Transfers (truncating openPath_truncates write_all read_readable place)
open Owners (Accepted accepted_iff)
open Library (awaitFinally_wp)

variable {stored : StoredFile} {faults : Prop} {store : Store}

/-- A call fails, if it may, or it is served. -/
theorem call_wp (request : FileRequest)
    {post : Except Failure (FileValue request) → Unit → Store → Prop}
    (failed : faults → ∀ failure store', post (.error failure) () store')
    (served : post (stored.serve request store).1 () (stored.serve request store).2) :
    Async.wp (faulty stored faults) (FileTask.call request) post () store := by
  rw [FileTask.call, Async.wp_lift]
  apply And.intro trivial
  rintro answer store' (⟨may, failure, rfl⟩ | same)
  · exact failed may failure store'
  · rw [← same] at served
    exact served

/-- A write that resolves has its length as a C `int`, which is not negative. -/
theorem perform_value {call : Fs.WriteCall} {file : OpenFile} {descriptor : Descriptor}
    {allocation : Allocation} {value : Int}
    (resolved : (call.perform file descriptor allocation).1 = .ok value) :
    value = call.length.toWord.toInt ∧ 0 ≤ value := by
  have returned : (bindingWriteAs file descriptor call.memory call.length.toWord
      call.position.toWord).1 = value ∧ 0 ≤ value := by
    rw [Fs.WriteCall.perform, ccallThrowAsync] at resolved
    dsimp only at resolved
    by_cases negative : (bindingWriteAs file descriptor call.memory call.length.toWord
        call.position.toWord).1 < 0
    · rw [if_pos negative] at resolved
      cases resolved
    · rw [if_neg negative] at resolved
      have same := Except.ok.inj resolved
      exact ⟨same, by omega⟩
  obtain ⟨same, nonneg⟩ := returned
  refine ⟨?_, nonneg⟩
  rw [bindingWriteAs] at same
  by_cases writable : descriptor.writable
  · rw [if_pos writable] at same
    by_cases appends : descriptor.appends
    · rw [if_pos appends] at same
      exact same.symm
    · rw [if_neg appends] at same
      exact same.symm
  · rw [if_neg writable] at same
    have negative : (-EBADF : Int) < 0 := by decide
    dsimp only at same
    omega

theorem write_value {allocation : Allocation} {fd : Ptr} {data : List UInt8} {offset length : Int}
    {position : Option Int} {value : Int}
    (resolved : (store.write allocation fd data offset length position).1 = .ok value) :
    value = (BitVec.ofInt 32 length).toInt ∧ 0 ≤ value := by
  rw [Store.write] at resolved
  cases flags : store.openFlags with
  | none =>
      rw [flags] at resolved
      cases resolved
  | some flags' =>
      rw [flags] at resolved
      dsimp only at resolved
      cases performed : (Fs.write ⟨store.file.getD [], store.position, []⟩ ⟨fd, flags'⟩ allocation
          (.buffer data) (.number (some offset)) (.number (some length))
          (position.elim .null fun position => .number (some position))).1 with
      | error exception =>
          rw [performed] at resolved
          cases resolved
      | ok written =>
          rw [performed] at resolved
          cases resolved
          exact perform_value performed

/-- A length from 2^31 on does not come back as it is, and leaves such a length. -/
theorem rest_long {length : Nat} (long : 2 ^ 31 ≤ length) {value : Int}
    (same : value = (BitVec.ofInt 32 length).toInt) (nonneg : 0 ≤ value) :
    ∃ rest : Nat, (length : Int) - value = rest ∧ 2 ^ 31 ≤ rest := by
  rw [BitVec.toInt_ofInt, Int.bmod] at same
  refine ⟨((length : Int) - value).toNat, ?_⟩
  split at same
  · omega
  · omega

/-- Data that is so long is never written. -/
theorem writeAll_long {fd : Ptr} {data : List UInt8} (rounds : Nat) {offset : Int} {length : Nat}
    (long : 2 ^ 31 ≤ length) {position : Option Int} :
    Async.wp (faulty stored faults) (writeAll FileTask.calls fd data rounds offset length position)
      (fun result _ _ => ∃ failure, result = .error failure) () store := by
  induction rounds generalizing store offset length position with
  | zero => exact ⟨_, rfl⟩
  | succ rounds ih =>
      rw [writeAll, Async.wp_bind]
      apply call_wp (.write fd data offset length position)
      · intro _ failure _
        exact ⟨failure, rfl⟩
      · change Async.andThen _ _ _ (store.write stored.allocation fd data offset length position).1 ()
          (store.write stored.allocation fd data offset length position).2
        generalize served : store.write stored.allocation fd data offset length position = answer
        obtain ⟨result, store'⟩ := answer
        cases result with
        | error failure => exact ⟨failure, rfl⟩
        | ok value =>
            have returned := write_value (congrArg Prod.fst served)
            obtain ⟨rest, left, stillLong⟩ := rest_long long returned.1 returned.2
            rw [Async.andThen_ok, if_neg (by omega), left]
            exact ih stillLong

/-- What `writeFile` leaves in the file if it resolves. -/
abbrev written (data : List UInt8) : Store := ⟨some data, data.length, none⟩

/-- `writeFile` resolves only with the whole data in the file, and rejects only for a fault or for data
that is too long. -/
def Settles (faults : Prop) (data : List UInt8) (result : Except Failure Unit) (store : Store) : Prop :=
  (result = .ok () ∧ data.length < 2 ^ 31 ∧ store = written data) ∨
    (∃ failure, result = .error failure) ∧ (faults ∨ 2 ^ 31 ≤ data.length)

/-- A rejection stays one through `finally`. -/
theorem close_settles {fd : Ptr} {data : List UInt8} {failure : Failure}
    (because : faults ∨ 2 ^ 31 ≤ data.length) :
    Async.wp (faulty stored faults) (FileTask.close fd)
      (fun closing _ => Settles faults data (closing.bind fun _ => .error failure)) () store := by
  apply call_wp (.close fd)
  · intro _ failure' _
    exact .inr ⟨⟨failure', rfl⟩, because⟩
  · cases (stored.serve (.close fd) store).1 with
    | error failure' => exact .inr ⟨⟨failure', rfl⟩, because⟩
    | ok _ => exact .inr ⟨⟨failure, rfl⟩, because⟩

theorem writeFile_wp {raw path : List UInt8} (used : usePath raw = some path) (rounds : Nat)
    (data : List UInt8) (file : Option (List UInt8)) :
    Async.wp (faulty stored faults) (FileTask.writeFile (rounds + 1) raw data .missing)
      (fun result _ => Settles faults data result) () (.closed file) := by
  have unfolded : FileTask.writeFile (rounds + 1) raw data .missing =
      (FileTask.openPath raw (.text "w") (some 0o666) >>= fun fd =>
        awaitFinally (writeAll FileTask.calls fd data (rounds + 1) 0 data.length (some 0))
          (FileTask.close fd)) := rfl
  rw [unfolded, Async.wp_bind]
  apply call_wp (.openPath raw (.text "w") (some 0o666))
  · intro may failure _
    exact .inr ⟨⟨failure, rfl⟩, .inl may⟩
  have opened : stored.serve (.openPath raw (.text "w") (some 0o666)) (.closed file) =
      (.ok stored.handle, ⟨some [], 0, some truncating⟩) := openPath_truncates used file 0
  rw [opened, Async.andThen_ok]
  apply awaitFinally_wp
  by_cases long : 2 ^ 31 ≤ data.length
  · apply Async.wp_mono (writeAll_long (rounds + 1) long)
    rintro result ⟨⟩ store' ⟨failure, rfl⟩
    exact ⟨fun _ => .inr ⟨⟨failure, rfl⟩, .inr long⟩, fun _ => close_settles (.inr long)⟩
  · rw [writeAll, Async.wp_bind]
    apply call_wp (.write stored.handle data 0 data.length (some 0))
    · intro may failure _
      exact ⟨fun _ => .inr ⟨⟨failure, rfl⟩, .inl may⟩, fun _ => close_settles (.inl may)⟩
    · have served : stored.serve (.write stored.handle data 0 data.length (some 0))
          ⟨some [], 0, some truncating⟩ = (.ok (data.length : Int), _) :=
        write_all (Nat.lt_of_not_le long)
      rw [served, Async.andThen_ok, if_pos rfl]
      refine ⟨fun unsettled => ?_, fun _ => ?_⟩
      · cases unsettled
      apply call_wp (.close stored.handle)
      · intro may failure _
        exact .inr ⟨⟨failure, rfl⟩, .inl may⟩
      · exact .inl ⟨rfl, Nat.lt_of_not_le long, rfl⟩

section Reading

variable {scale : Fin 7} {ino : Ino}

/-- The file type in the 32 bits that `fstat` returns. -/
theorem isFile_returned {inode : Inode} (regular : linuxSIsreg inode.iMode = true) :
    (returnedStats { ino := ino, inode := inode } (blockSize scale)).isFile = true := by
  have format : inode.iMode &&& LINUX_S_IFMT = LINUX_S_IFREG := eq_of_beq regular
  have wide : inode.iMode.setWidth 32 &&& S_IFMT = S_IFREG := by
    rw [show S_IFMT = LINUX_S_IFMT.setWidth 32 by decide, ← BitVec.setWidth_and, format]
    decide
  change (BitVec.ofInt 32 (inode.iMode.setWidth 32).toInt &&& S_IFMT == S_IFREG) = true
  rw [BitVec.ofInt_toInt, wide]
  rfl

/-- A size below 2^31 comes back as it is. -/
theorem size_returned {inode : Inode} {data : List UInt8} (short : data.length < 2 ^ 31) :
    (returnedStats { ino := ino, inode := sized inode data } (blockSize scale)).size = data.length := by
  have low : (BitVec.ofNat 32 data.length).toNat = data.length := by
    rw [BitVec.toNat_ofNat]
    omega
  have high : (BitVec.ofNat 32 (data.length / 2 ^ 32)).toNat = 0 := by
    rw [BitVec.toNat_ofNat]
    omega
  have bits : data.length.log2 - 52 = 0 := by
    have below : data.length.log2 < 53 := by
      by_cases empty : data.length = 0
      · rw [empty]
        decide
      · exact (Nat.log2_lt empty).mpr (by omega)
    omega
  change getUInt64Number (BitVec.ofNat 32 (data.length / 2 ^ 32)) (BitVec.ofNat 32 data.length) = _
  rw [getUInt64Number_eq, low, high, Nat.zero_mul, Nat.zero_add]
  apply congrArg Int.ofNat
  rw [toDouble_eq_iff, bits]
  exact Nat.mod_one _

/-- The flags of `r`, by which `readFile` opens its file. -/
abbrev reading : BitVec 32 := 0

theorem openPath_reads {handle : Ptr} {raw path : List UInt8} (used : usePath raw = some path)
    (data : List UInt8) (position : Nat) :
    Store.openPath handle raw (.text "r") (some 0o666) ⟨some data, position, none⟩ =
      (.ok handle, ⟨some data, 0, some reading⟩) := by
  have resolved (args : List Int) : ccallThrowAsync "node_ext2fs_open" args (handle : Int) =
      .ok (handle : Int) := if_neg (by omega)
  have opened : bindingOpen ⟨some data, position, none⟩ reading handle =
      ((handle : Int), ⟨some data, 0, none⟩) := rfl
  have flags : stringToFlags (.text "r") = .ok reading := rfl
  rw [Store.openPath, flags]
  simp only [used, opened, resolved]

/-- A read at the beginning of the file, which the buffer has room for. -/
theorem read_begins {allocation : Allocation} {fd : Ptr} {data buffer : List UInt8} {length : Nat}
    (some : length ≠ 0) (short : length < 2 ^ 31) (room : length ≤ buffer.length) :
    ∃ buffer', Store.read allocation fd buffer 0 length (.number (.some (-1)))
        ⟨.some data, 0, .some reading⟩ =
      (.ok ((data.take length).length, buffer'),
        ⟨.some data, (data.take length).length, .some reading⟩) ∧
      buffer'.take (data.take length).length = data.take length := by
  have readable : (Descriptor.mk fd reading).readable = true :=
    show (!hasFlag reading O_WRONLY) = true by decide
  obtain ⟨buffer', answered, copied⟩ := @read_readable ⟨data, 0, []⟩ ⟨fd, reading⟩ allocation readable
    buffer 0 length some short (.number (.some (-1)))
  have here : place ⟨data, 0, []⟩ (.number (.some (-1))) = 0 := rfl
  have whole : slice data 0 length = data.take length := rfl
  rw [here, whole] at answered copied
  refine ⟨buffer', ?_, ?_⟩
  · rw [Store.read]
    dsimp only
    rw [show (Option.some data).getD [] = data from rfl, answered, Nat.zero_add]
    rfl
  · have inside : (data.take length).length ≤ buffer.length - 0 := by
      rw [List.length_take]
      omega
    rw [List.take_of_length_le inside] at copied
    exact copied

/-- What `readFile` should do with the data. -/
def Resolves (ino : Ino) (inode : Inode) (data : List UInt8) (result : Except Failure (List Char)) :
    Prop :=
  (result = .ok (decodeUtf8 data) ∧ Accepted ino inode) ∨
    (∃ failure, result = .error failure) ∧ ¬Accepted ino inode

theorem length_allocUnsafeSlow (chance : Nat → UInt8) (length : Nat) :
    (FileTask.allocUnsafeSlow chance length).length = length := by
  rw [FileTask.allocUnsafeSlow, List.length_map, List.length_range]

/-- An empty file takes one round. -/
theorem readRounds_empty {chance : Nat → UInt8} {fd : Ptr} (rounds : Nat) :
    Async.wp (faulty stored False) (FileTask.readRounds chance fd (rounds + 1) [] 0)
      (fun result _ store => result = .ok (decodeUtf8 []) ∧ store.openFlags = some reading) ()
      ⟨some [], 0, some reading⟩ := by
  rw [FileTask.readRounds, Async.wp_bind]
  apply call_wp (.read fd (FileTask.allocUnsafeSlow chance kReadFileBufferLength) 0
    kReadFileBufferLength (.number (some (-1)))) nofun
  obtain ⟨buffer', answered, _⟩ := @read_begins stored.allocation fd [] _ kReadFileBufferLength
    (by decide) (by decide) (Nat.le_of_eq (length_allocUnsafeSlow chance _).symm)
  have served : stored.serve (.read fd (FileTask.allocUnsafeSlow chance kReadFileBufferLength) 0
      kReadFileBufferLength (.number (some (-1)))) ⟨some [], 0, some reading⟩ =
      (.ok (0, buffer'), ⟨some [], 0, some reading⟩) := answered
  rw [served, Async.andThen_ok]
  exact ⟨rfl, rfl⟩

/-- Other data comes with one read. -/
theorem read_whole {chance : Nat → UInt8} {fd : Ptr} {data : List UInt8} (some : data ≠ [])
    (short : data.length < 2 ^ 31) {post : Except Failure (Int × List UInt8) → Unit → Store → Prop}
    (rest : ∀ buffer' : List UInt8, buffer'.take data.length = data →
      post (.ok (data.length, buffer')) () ⟨.some data, data.length, .some reading⟩) :
    Async.wp (faulty stored False)
      (FileTask.read fd (FileTask.allocUnsafeSlow chance data.length) 0 data.length
        (.number (.some (-1)))) post () ⟨.some data, 0, .some reading⟩ := by
  apply call_wp (.read fd (FileTask.allocUnsafeSlow chance data.length) 0 data.length
    (.number (.some (-1)))) nofun
  obtain ⟨buffer', answered, copied⟩ := @read_begins stored.allocation fd data _ data.length
    (fun none => some (List.length_eq_zero_iff.mp none)) short
    (Nat.le_of_eq (length_allocUnsafeSlow chance _).symm)
  rw [List.take_length] at answered copied
  have served : stored.serve (.read fd (FileTask.allocUnsafeSlow chance data.length) 0 data.length
      (.number (.some (-1)))) ⟨.some data, 0, .some reading⟩ =
      (.ok (data.length, buffer'), ⟨.some data, data.length, .some reading⟩) := answered
  rw [served]
  exact rest buffer' copied

theorem readOpened_wp {kMaxLength : Int} {chance : Nat → UInt8} {fd : Ptr} (rounds : Nat)
    {data : List UInt8} (short : data.length < 2 ^ 31) (possible : data.length ≤ kMaxLength) :
    Async.wp (faulty stored False) (FileTask.readOpened kMaxLength chance (rounds + 1) (some utf8) fd)
      (fun result _ store => Resolves stored.opened.ino stored.opened.inode data result ∧
        store.openFlags = some reading) () ⟨some data, 0, some reading⟩ := by
  rw [FileTask.readOpened, Async.wp_bind]
  apply call_wp (.fstat fd) nofun
  have answered : stored.serve (.fstat fd) ⟨some data, 0, some reading⟩ =
      (fstatResult fd { ino := stored.opened.ino, inode := sized stored.opened.inode data }
        (blockSize stored.scale), ⟨some data, 0, some reading⟩) := rfl
  rw [answered]
  have accepts : Accepted stored.opened.ino (sized stored.opened.inode data) ↔
      Accepted stored.opened.ino stored.opened.inode :=
    ⟨fun accepted => ⟨accepted.1, accepted.2, accepted.3, accepted.4, accepted.5⟩,
      fun accepted => ⟨accepted.1, accepted.2, accepted.3, accepted.4, accepted.5⟩⟩
  by_cases accepted : Accepted stored.opened.ino stored.opened.inode
  · have resolved := (@fstatResult_eq_ok_iff fd _ _ _).mpr
      ⟨(accepted_iff stored.scale).mpr (accepts.mpr accepted), rfl⟩
    rw [resolved, Async.andThen_ok]
    have file : (returnedStats
        { ino := stored.opened.ino, inode := sized stored.opened.inode data }
        (blockSize stored.scale)).isFile = true := isFile_returned stored.regular
    have length := @size_returned stored.scale stored.opened.ino stored.opened.inode data short
    generalize returnedStats { ino := stored.opened.ino, inode := sized stored.opened.inode data }
      (blockSize stored.scale) = stats at file length
    dsimp only
    rw [file, length, if_neg (by decide), if_neg (Int.not_lt.mpr possible)]
    have done {result : Except Failure (List Char)} (same : result = .ok (decodeUtf8 data)) :
        Resolves stored.opened.ino stored.opened.inode data result := .inl ⟨same, accepted⟩
    by_cases empty : data = []
    · subst empty
      rw [if_pos (by rfl)]
      apply Async.wp_mono (readRounds_empty rounds)
      intro result _ store' settled
      exact ⟨done settled.1, settled.2⟩
    · have positive := List.length_pos_iff.mpr empty
      rw [if_neg (by omega), Int.toNat_natCast, Async.wp_bind]
      apply read_whole empty short
      intro buffer' copied
      rw [Async.andThen_ok, if_neg (by decide), Int.toNat_natCast, copied]
      exact ⟨done rfl, rfl⟩
  · cases failed : fstatResult fd
        { ino := stored.opened.ino, inode := sized stored.opened.inode data } (blockSize stored.scale) with
    | error failure => exact ⟨.inr ⟨⟨failure, rfl⟩, accepted⟩, rfl⟩
    | ok stats =>
        have all := (fstatResult_eq_ok_iff stats).mp failed
        exact absurd (accepts.mp ((accepted_iff stored.scale).mp all.1)) accepted

/-- `readFile` resolves with the data if `fstat` accepts the inode, and rejects otherwise. -/
theorem readFile_wp {kMaxLength : Int} {chance : Nat → UInt8} {raw path : List UInt8}
    (used : usePath raw = some path) (rounds : Nat) {data : List UInt8}
    (short : data.length < 2 ^ 31) (possible : data.length ≤ kMaxLength) :
    Async.wp (faulty stored False) (FileTask.readFile kMaxLength chance (rounds + 1) raw .missing)
      (fun result _ _ => Resolves stored.opened.ino stored.opened.inode data result) ()
      (written data) := by
  have clean : 0 ∉ raw := by
    intro null
    rw [usePath, if_pos null] at used
    cases used
  have unfolded : FileTask.readFile kMaxLength chance (rounds + 1) raw .missing =
      (FileTask.openPath raw (.text "r") (some 0o666) >>= fun fd =>
        awaitFinally (FileTask.readOpened kMaxLength chance (rounds + 1) (some utf8) fd)
          (FileTask.close fd)) := if_neg clean
  rw [unfolded, Async.wp_bind]
  apply call_wp (.openPath raw (.text "r") (some 0o666)) nofun
  have opened : stored.serve (.openPath raw (.text "r") (some 0o666)) (written data) =
      (.ok stored.handle, ⟨some data, 0, some reading⟩) := openPath_reads used data data.length
  rw [opened, Async.andThen_ok]
  apply awaitFinally_wp
  apply Async.wp_mono (readOpened_wp rounds short possible)
  rintro result ⟨⟩ ⟨file, position, flags⟩ ⟨settled, stillOpen⟩
  refine ⟨fun _ => settled, fun _ => ?_⟩
  apply call_wp (.close stored.handle) nofun
  rw [show flags = some reading from stillOpen]
  exact settled

end Reading

theorem serve_honours (stored : StoredFile) (faults : Prop) :
    (faulty stored faults).Honoured stored.serve id := fun _ _ => .inr rfl

/-- When `writeFile` resolves, whatever may fail, the file has exactly the data, and a `readFile` for
which nothing fails resolves with the data in UTF-8. -/
def WritesThenReads (stored : StoredFile) (kMaxLength : Int) (chance : Nat → UInt8) (rounds : Nat)
    (raw data : List UInt8) (file : Option (List UInt8)) : Prop :=
  Async.wp (faulty stored True) (FileTask.writeFile rounds raw data .missing)
    (fun result _ store => result = .ok () →
      store.file = some data ∧
      (((FileTask.readFile kMaxLength chance rounds raw .missing).start ()).run stored.serve
        store).1.1 = .ok (decodeUtf8 data)) () (.closed file)

/-- What was written can be read again exactly if `fstat` accepts the inode. Data that is too long is
never written. -/
theorem writesThenReads_iff (stored : StoredFile) {kMaxLength : Int} (chance : Nat → UInt8)
    (rounds : Nat) {raw path data : List UInt8} (used : usePath raw = some path)
    (possible : data.length ≤ kMaxLength) (file : Option (List UInt8)) :
    WritesThenReads stored kMaxLength chance (rounds + 1) raw data file ↔
      2 ^ 31 ≤ data.length ∨ Accepted stored.opened.ino stored.opened.inode := by
  have reads (short : data.length < 2 ^ 31) : Resolves stored.opened.ino stored.opened.inode data
      (((FileTask.readFile kMaxLength chance (rounds + 1) raw .missing).start ()).run stored.serve
        (written data)).1.1 :=
    Async.run_of_wp (serve_honours stored False) (readFile_wp used rounds short possible)
  apply Iff.intro
  · intro trips
    have settled : Settles False data
        (((FileTask.writeFile (rounds + 1) raw data .missing).start ()).run stored.serve
          (.closed file)).1.1
        (((FileTask.writeFile (rounds + 1) raw data .missing).start ()).run stored.serve
          (.closed file)).2 :=
      Async.run_of_wp (serve_honours stored False) (writeFile_wp used rounds data file)
    have tripped := @Async.run_of_wp _ _ _ _ _ _ _ _ _ _ _ _ (serve_honours stored True) _
      (Store.closed file) trips
    obtain ⟨resolved, short, same⟩ | ⟨_, impossible | tooLong⟩ := settled
    · have read := (tripped resolved).2
      rw [id, same] at read
      obtain ⟨_, accepted⟩ | ⟨⟨failure, rejected⟩, _⟩ := reads short
      · exact .inr accepted
      · cases rejected.symm.trans read
    · exact impossible.elim
    · exact .inl tooLong
  · intro met
    apply Async.wp_mono (writeFile_wp used rounds data file)
    rintro result ⟨⟩ store' (⟨_, short, rfl⟩ | ⟨⟨failure, rfl⟩, _⟩) resolved
    · refine ⟨rfl, ?_⟩
      obtain ⟨same, _⟩ | ⟨_, refused⟩ := reads short
      · exact same
      · exact absurd (met.resolve_left (Nat.not_le.mpr short)) refused
    · cases resolved

/-- A file that was last accessed at the given time. -/
def lastAccessed (seconds : BitVec 32) : StoredFile where
  handle := 4
  allocation := ⟨8, fun _ => 0⟩
  opened := accessedAt seconds
  regular := show linuxSIsreg (LINUX_S_IFREG ||| 0o644#16) = true by decide
  scale := 0

theorem accepted_lastAccessed_iff (seconds : BitVec 32) :
    Accepted (lastAccessed seconds).opened.ino (lastAccessed seconds).opened.inode ↔
      IsInt seconds.toNat := by
  apply Iff.intro
  · intro accepted
    exact accepted.atime
  · intro small
    have zero : IsInt (0#32).toNat := by
      rw [IsInt]
      decide
    exact ⟨show 0 ≤ (BitVec.ofNat 32 12).toInt by decide, zero, small, zero, zero⟩

/-- A new file with two bytes, in the year 2023. -/
theorem writesThenReads_new :
    WritesThenReads (lastAccessed 1700000000) 0x7fffffff (fun _ => 0) 1 [slash, 97] [104, 105] none :=
  (writesThenReads_iff (lastAccessed 1700000000) (fun _ => 0) 0
    (show usePath [slash, 97] = some [slash, 97] by decide) (by decide) none).mpr
    (.inr ((accepted_lastAccessed_iff _).mpr (by rw [IsInt]; decide)))

/-- A file that was last accessed after the year 2038 is written, and cannot be read. -/
theorem readFile_rejects :
    ¬∀ (stored : StoredFile) (kMaxLength : Int) (chance : Nat → UInt8) (rounds : Nat)
      (raw path data : List UInt8) (file : Option (List UInt8)), usePath raw = some path →
        data.length ≤ kMaxLength →
          WritesThenReads stored kMaxLength chance (rounds + 1) raw data file := by
  intro all
  have trips := all (lastAccessed 0x80000000) 0x7fffffff (fun _ => 0) 0 [slash, 97] [slash, 97]
    [104, 105] (some []) (by decide) (by decide)
  rcases (@writesThenReads_iff _ _ _ 0 [slash, 97] [slash, 97] _ (by decide) (by decide) _).mp trips
    with long | accepted
  · exact absurd long (by decide)
  · have small := (accepted_lastAccessed_iff _).mp accepted
    rw [IsInt] at small
    exact absurd small (by decide)

end NodeExt2fs.Whole
