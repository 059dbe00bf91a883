import NodeExt2fs.Construction.Js.Promises
import NodeExt2fs.Construction.Library.Reference

/-!
This file says which inodes `fstat` reports as they are.
-/

namespace NodeExt2fs.Inspection
open Programs Glue Js Library Structures

/-- What an open file promises while nothing writes to it: its fields and the block size are read
from memory. -/
def stating (fd : Ptr) (file : Ext2File) (blocksize : BitVec 32) : Contract Call Answer Unit where
  permits _ _ := True
  allows _ call answer _ :=
    match call, answer with
    | .loadFile target, answer => target = fd → answer = file
    | .loadBlocksize, answer => answer = blocksize
    | _, _ => True

variable {fd : Ptr} {file : Ext2File} {blocksize : BitVec 32} {locals : OpenFiles}

/-- What the promise of one accessor settles with. -/
def fieldResult (fd : Ptr) (file : Ext2File) (blocksize : BitVec 32) (field : InodeStat) :
    Except Failure Int :=
  (ccallThrowAsync field.name [fd] (field.read file blocksize)).mapError .errno

theorem statCall_stating (field : InodeStat) {post : Except Failure Int → OpenFiles → Unit → Prop}
    (rest : post (fieldResult fd file blocksize field) locals ()) :
    Async.wp (stating fd file blocksize) (statCall fd field) post locals () := by
  rw [statCall, binding, Async.wp_lift, Program.wp_bind, InodeStat.routine, Program.wp_bind]
  apply And.intro trivial
  intro opened _ loaded
  apply And.intro trivial
  intro size _ sized
  rw [show opened = file from loaded rfl, show size = blocksize from sized]
  exact rest

section Calls

variable {State : Type} {contract : Contract Call Answer State} {state : State}
  (each : ∀ (field : InodeStat) (post : Except Failure Int → OpenFiles → State → Prop),
    post (fieldResult fd file blocksize field) locals state →
      Async.wp contract (statCall fd field) post locals state)
include each

theorem statCalls_wp (fields : List InodeStat)
    {post : Except Failure (List (InodeStat × Except Failure Int)) → OpenFiles → State → Prop}
    (rest : post (.ok (fields.map fun field => (field, fieldResult fd file blocksize field))) locals
      state) :
    Async.wp contract (statCalls fd fields) post locals state := by
  induction fields generalizing post with
  | nil => exact rest
  | cons field fields ih =>
      rw [statCalls, Async.wp_bind, Async.wp_attempt]
      apply each
      rw [Async.andThen_ok, Async.wp_bind]
      exact ih rest

end Calls

/-- What `fstat` settles with. -/
def fstatResult (fd : Ptr) (file : Ext2File) (blocksize : BitVec 32) : Except Failure Stats := do
  let ctime ← fieldResult fd file blocksize .iCtime
  Stats.ofResults (ctime * 1000) (fieldResult fd file blocksize)

/-- Accessors that keep the state settle `fstat`. -/
theorem fstat_wp {State : Type} {contract : Contract Call Answer State} {state : State}
    (each : ∀ (field : InodeStat) (post : Except Failure Int → OpenFiles → State → Prop),
      post (fieldResult fd file blocksize field) locals state →
        Async.wp contract (statCall fd field) post locals state)
    (opened : locals.has fd = true) {post : Except Failure Stats → OpenFiles → State → Prop}
    (rest : post (fstatResult fd file blocksize) locals state) :
    Async.wp contract (fstat fd) post locals state := by
  rw [fstatResult] at rest
  rw [fstat, Async.wp_bind, checkFd, Async.wp_bind, Async.wp_get]
  rw [Async.andThen_ok, if_pos opened, Async.wp_pure, Async.andThen_ok, Async.wp_bind]
  apply each
  cases result : fieldResult fd file blocksize .iCtime with
  | error failure =>
      rw [result] at rest
      exact rest
  | ok ctime =>
      rw [result] at rest
      rw [Async.andThen_ok, Async.wp_bind]
      exact statCalls_wp each allFields rest

/-- An accessor's promise resolves with the result unless that is negative. -/
theorem fieldResult_eq_ok_iff (field : InodeStat) (value : Int) :
    fieldResult fd file blocksize field = .ok value ↔
      field.read file blocksize = value ∧ 0 ≤ value := by
  rw [fieldResult, ccallThrowAsync]
  by_cases negative : field.read file blocksize < 0
  · rw [if_pos negative]
    apply iff_of_false
    · intro resolved
      cases resolved
    · intro same
      omega
  · rw [if_neg negative]
    apply Iff.intro
    · intro resolved
      have same := Except.ok.inj resolved
      omega
    · intro same
      rw [same.1]
      rfl

theorem bind_eq_ok_iff {A B : Type} {first : Except Failure A} {next : A → Except Failure B}
    {result : B} : (first >>= next) = .ok result ↔ ∃ value, first = .ok value ∧ next value = .ok result := by
  cases first with
  | error failure =>
      apply iff_of_false
      · intro resolved
        cases resolved
      · intro some
        cases some.choose_spec.1
  | ok value =>
      apply Iff.intro
      · intro resolved
        exact ⟨value, rfl, resolved⟩
      · intro some
        obtain ⟨value', same, resolved⟩ := some
        cases same
        exact resolved

/-- The size of the file, which is in two fields. -/
def fileSize (file : Ext2File) : Nat := file.inode.iSizeHigh.toNat * 2 ^ 32 + file.inode.iSize.toNat

/-- The block sizes of the format. -/
def blockSize (scale : Fin 7) : BitVec 32 := BitVec.ofNat 32 (1024 * 2 ^ (scale : Nat))

/-- The inode by its unsigned fields, with signed seconds for the times. -/
def expectedStats (file : Ext2File) (blocksize : BitVec 32) : Stats where
  dev := 0
  mode := file.inode.iMode.toNat
  nlink := file.inode.iLinksCount.toNat
  uid := file.inode.iUid.toNat
  gid := file.inode.iGid.toNat
  rdev := 0
  blksize := blocksize.toNat
  ino := file.ino
  size := fileSize file
  blocks := file.inode.iBlocks.toNat
  atime := file.inode.iAtime.toInt * 1000
  mtime := file.inode.iMtime.toInt * 1000
  ctime := file.inode.iCtime.toInt * 1000
  birthtime := file.inode.iCtime.toInt * 1000

/-- A number that a C `int` can have. -/
def IsInt (value : Nat) : Prop := value < 2 ^ 31

/-- The fields that come as an `int` are such numbers, and the size is a `double`. -/
structure Reportable (file : Ext2File) : Prop where
  ino : IsInt file.ino
  blocks : IsInt file.inode.iBlocks.toNat
  atime : IsInt file.inode.iAtime.toNat
  mtime : IsInt file.inode.iMtime.toNat
  ctime : IsInt file.inode.iCtime.toNat
  size : fileSize file % 2 ^ ((fileSize file).log2 - 52) = 0

/-- A number is a `double` when the bits below its 53 significant ones are zero. -/
theorem toDouble_eq_iff (value : Nat) :
    toDouble value = value ↔ value % 2 ^ (value.log2 - 52) = 0 := by
  have positive : 0 < 2 ^ (value.log2 - 52) := Nat.two_pow_pos _
  rw [toDouble]
  generalize 2 ^ (value.log2 - 52) = unit at positive
  have parts := Nat.div_add_mod' value unit
  by_cases exact : value % unit = 0
  · rw [exact, if_neg (by omega)]
    exact iff_of_true (by omega) rfl
  · apply iff_of_false _ exact
    intro same
    apply exact
    by_cases up : unit < 2 * (value % unit) ∨ 2 * (value % unit) = unit ∧ value / unit % 2 = 1
    · rw [if_pos up] at same
      rw [← same]
      exact Nat.mul_mod_left _ _
    · rw [if_neg up] at same
      rw [← same]
      exact Nat.mul_mod_left _ _

theorem getUInt64Number_eq (hi lo : BitVec 32) :
    getUInt64Number hi lo = toDouble (hi.toNat * 2 ^ 32 + lo.toNat) := by
  have joined : ((hi.setWidth 64 <<< 32) ||| lo.setWidth 64).toNat =
      hi.toNat * 2 ^ 32 + lo.toNat := by
    have below := lo.isLt
    have small := hi.isLt
    rw [BitVec.toNat_or, BitVec.toNat_shiftLeft, BitVec.toNat_setWidth, BitVec.toNat_setWidth,
      Nat.shiftLeft_eq, Nat.mod_eq_of_lt (by omega), Nat.mod_eq_of_lt (by omega),
      Nat.mod_eq_of_lt (by omega), ← Nat.shiftLeft_eq]
    exact (Nat.shiftLeft_add_eq_or_of_lt below hi.toNat).symm
  rw [getUInt64Number, joined]

/-- A 16-bit field is reported as it is. -/
theorem toInt_half (field : BitVec 16) : (field.setWidth 32).toInt = field.toNat := by
  have below := field.isLt
  rw [BitVec.toInt_eq_toNat_of_lt (by rw [BitVec.toNat_setWidth]; omega), BitVec.toNat_setWidth]
  omega

theorem half_nonneg (field : BitVec 16) : 0 ≤ (field.setWidth 32).toInt := by
  rw [toInt_half]
  exact Int.natCast_nonneg _

theorem toInt_nonneg_iff (field : BitVec 32) : 0 ≤ field.toInt ↔ IsInt field.toNat := by
  rw [IsInt, BitVec.toInt_eq_toNat_cond]
  have below := field.isLt
  by_cases small : 2 * field.toNat < 2 ^ 32
  · rw [if_pos small]
    omega
  · rw [if_neg small]
    omega

/-- The statistics by what the accessors return. -/
def returnedStats (file : Ext2File) (blocksize : BitVec 32) : Stats where
  dev := 0
  mode := InodeStat.iMode.read file blocksize
  nlink := InodeStat.iLinksCount.read file blocksize
  uid := InodeStat.iUid.read file blocksize
  gid := InodeStat.iGid.read file blocksize
  rdev := 0
  blksize := InodeStat.blocksize.read file blocksize
  ino := InodeStat.ino.read file blocksize
  size := InodeStat.iSize.read file blocksize
  blocks := InodeStat.iBlocks.read file blocksize
  atime := InodeStat.iAtime.read file blocksize * 1000
  mtime := InodeStat.iMtime.read file blocksize * 1000
  ctime := InodeStat.iCtime.read file blocksize * 1000
  birthtime := InodeStat.iCtime.read file blocksize * 1000

/-- `fstat` resolves when no accessor returns a negative number. -/
theorem fstatResult_eq_ok_iff (stats : Stats) :
    fstatResult fd file blocksize = .ok stats ↔
      (∀ field : InodeStat, 0 ≤ field.read file blocksize) ∧ returnedStats file blocksize = stats := by
  rw [fstatResult]
  apply Iff.intro
  · intro resolved
    simp only [Stats.ofResults, bind_eq_ok_iff, fieldResult_eq_ok_iff] at resolved
    obtain ⟨ctime, ⟨rfl, ctime⟩, mode, ⟨rfl, mode⟩, nlink, ⟨rfl, nlink⟩, uid, ⟨rfl, uid⟩, gid,
      ⟨rfl, gid⟩, blksize, ⟨rfl, blksize⟩, ino, ⟨rfl, ino⟩, size, ⟨rfl, size⟩, blocks, ⟨rfl, blocks⟩,
      atime, ⟨rfl, atime⟩, mtime, ⟨rfl, mtime⟩, whole⟩ := resolved
    apply And.intro
    · intro field
      cases field <;> assumption
    · exact Except.ok.inj whole
  · intro all
    obtain ⟨nonneg, rfl⟩ := all
    have each (field : InodeStat) :
        fieldResult fd file blocksize field = .ok (field.read file blocksize) :=
      (fieldResult_eq_ok_iff field _).mpr ⟨rfl, nonneg field⟩
    simp only [Stats.ofResults, each]
    rfl

/-- An inode number is returned as it is when it is an `int`. -/
theorem toInt_number_iff (value : Nat) : (BitVec.ofNat 32 value).toInt = value ↔ IsInt value := by
  rw [IsInt]
  apply Iff.intro
  · intro same
    have word : (BitVec.ofNat 32 value).toInt < 2 ^ 31 := BitVec.toInt_lt
    omega
  · intro small
    rw [BitVec.toInt_eq_toNat_of_lt (by rw [BitVec.toNat_ofNat]; omega), BitVec.toNat_ofNat]
    omega

/-- `fstat` is right about an inode when each of its fields comes through, and about no other. -/
theorem fstatResult_iff (fd : Ptr) (file : Ext2File) (scale : Fin 7) :
    fstatResult fd file (blockSize scale) = .ok (expectedStats file (blockSize scale)) ↔
      Reportable file := by
  have block : (blockSize scale).toInt = (blockSize scale).toNat := by
    revert scale
    decide
  rw [fstatResult_eq_ok_iff]
  apply Iff.intro
  · intro all
    obtain ⟨nonneg, same⟩ := all
    have ino : (BitVec.ofNat 32 file.ino).toInt = file.ino := congrArg Stats.ino same
    have size : getUInt64Number file.inode.iSizeHigh file.inode.iSize = fileSize file :=
      congrArg Stats.size same
    rw [getUInt64Number_eq] at size
    exact ⟨(toInt_number_iff _).mp ino, (toInt_nonneg_iff _).mp (nonneg .iBlocks),
      (toInt_nonneg_iff _).mp (nonneg .iAtime), (toInt_nonneg_iff _).mp (nonneg .iMtime),
      (toInt_nonneg_iff _).mp (nonneg .iCtime),
      (toDouble_eq_iff _).mp (Int.ofNat.inj size)⟩
  · intro reportable
    have ino : (BitVec.ofNat 32 file.ino).toInt = file.ino :=
      (toInt_number_iff file.ino).mpr reportable.ino
    have size : getUInt64Number file.inode.iSizeHigh file.inode.iSize = fileSize file := by
      rw [getUInt64Number_eq]
      exact congrArg Int.ofNat ((toDouble_eq_iff _).mpr reportable.size)
    have blocks : file.inode.iBlocks.toInt = file.inode.iBlocks.toNat :=
      BitVec.toInt_eq_toNat_of_lt (by have := reportable.blocks; rw [IsInt] at this; omega)
    apply And.intro
    · intro field
      cases field with
      | ino => exact le_of_le_of_eq (Int.natCast_nonneg _) ino.symm
      | iMode => exact half_nonneg _
      | iLinksCount => exact half_nonneg _
      | iUid => exact half_nonneg _
      | iGid => exact half_nonneg _
      | iSize => exact Int.natCast_nonneg _
      | iBlocks => exact (toInt_nonneg_iff _).mpr reportable.blocks
      | iAtime => exact (toInt_nonneg_iff _).mpr reportable.atime
      | iMtime => exact (toInt_nonneg_iff _).mpr reportable.mtime
      | iCtime => exact (toInt_nonneg_iff _).mpr reportable.ctime
      | blocksize => exact le_of_le_of_eq (Int.natCast_nonneg _) block.symm
    · simp only [returnedStats, expectedStats, InodeStat.read, nodeExt2fsStatIMode,
        nodeExt2fsStatILinksCount, nodeExt2fsStatIUid, nodeExt2fsStatIGid, nodeExt2fsStatISize,
        nodeExt2fsStatIno, nodeExt2fsStatIBlocks, nodeExt2fsStatIAtime, nodeExt2fsStatIMtime,
        nodeExt2fsStatICtime, toInt_half, ino, size, blocks, block]

/-- The promise of `fstat` through an open descriptor. -/
theorem fstat_settles {Hidden : Type} {library : Handler Call Answer Hidden} {fd : Ptr}
    {file : Ext2File} {blocksize : BitVec 32}
    (honoured : (stating fd file blocksize).Honoured library fun _ => ())
    {locals : OpenFiles} (opened : locals.has fd = true) (hidden : Hidden) :
    (((fstat fd).start locals).run library hidden).1.1 = fstatResult fd file blocksize :=
  @Async.run_of_wp _ _ _ _ _ _ _ (fun result _ _ => result = fstatResult fd file blocksize)
    locals _ _ _ honoured _ hidden (fstat_wp (fun field _ rest => statCall_stating field rest) opened rfl)

/-- `fstat` through an open descriptor resolves with the fields of the inode exactly when they come
through. -/
theorem fstat_reports_iff {Hidden : Type} {library : Handler Call Answer Hidden} {fd : Ptr}
    {file : Ext2File} {scale : Fin 7}
    (honoured : (stating fd file (blockSize scale)).Honoured library fun _ => ())
    {locals : OpenFiles} (opened : locals.has fd = true) (hidden : Hidden) :
    (((fstat fd).start locals).run library hidden).1.1 =
        .ok (expectedStats file (blockSize scale)) ↔ Reportable file := by
  rw [fstat_settles honoured opened]
  exact fstatResult_iff fd file scale

/-- The reference library with the given open file. -/
def showing (file : Ext2File) : Handler Call Answer Volume := fun call volume =>
  match call with
  | .loadFile _ => (file, volume)
  | call => reference call volume

theorem showing_honours (fd : Ptr) (file : Ext2File) :
    (stating fd file (blockSize 0)).Honoured (showing file) fun _ => () := by
  intro call volume
  cases call with
  | loadFile target => exact fun _ => rfl
  | loadBlocksize => rfl
  | _ => trivial

/-- An inode with the given time of its last access. -/
def accessedAt (seconds : BitVec 32) : Ext2File where
  ino := 12
  inode := { Inode.zero with iMode := LINUX_S_IFREG ||| 0o644#16, iSize := 5, iAtime := seconds }

theorem reportable_accessedAt_iff (seconds : BitVec 32) :
    Reportable (accessedAt seconds) ↔ IsInt seconds.toNat := by
  have small (value : Nat) (below : value < 20) : IsInt value := by
    rw [IsInt]
    omega
  apply Iff.intro
  · intro reportable
    exact reportable.atime
  · intro access
    exact ⟨small 12 (by decide), small 0 (by decide), access, small 0 (by decide), small 0 (by decide),
      show fileSize (accessedAt 0) % 2 ^ ((fileSize (accessedAt 0)).log2 - 52) = 0 by decide⟩

/-- The last second that an `int` can hold. -/
theorem fstat_reports_2038 :
    (((fstat 1).start (InsertionMap.empty.set 1 0)).run
      (showing (accessedAt (BitVec.intMax 32))) (Volume.holding [])).1.1 =
      .ok (expectedStats (accessedAt (BitVec.intMax 32)) (blockSize 0)) :=
  (fstat_reports_iff (showing_honours 1 _) rfl _).mpr
    ((reportable_accessedAt_iff _).mpr (by unfold IsInt; decide))

/-- One second later the time is taken for an error. -/
theorem fstat_rejects_2038 :
    ¬∀ (library : Handler Call Answer Volume) (fd : Ptr) (file : Ext2File) (scale : Fin 7)
      (locals : OpenFiles) (volume : Volume),
      ((stating fd file (blockSize scale)).Honoured library fun _ => ()) → locals.has fd = true →
        (((fstat fd).start locals).run library volume).1.1 =
          .ok (expectedStats file (blockSize scale)) := by
  intro reports
  have late := reports _ 1 (accessedAt (BitVec.intMin 32)) 0 (InsertionMap.empty.set 1 0)
    (Volume.holding []) (showing_honours 1 _) rfl
  rw [fstat_settles (showing_honours 1 _) rfl, fstatResult_iff, reportable_accessedAt_iff] at late
  exact absurd late (by unfold IsInt; decide)

end NodeExt2fs.Inspection
