import NodeExt2fs.Proof.Library.Requests
import NodeExt2fs.Proof.Rejections.Translating

/-!
This file follows the codes that the operations negate as they are, and settles which rejections have a
known code.
-/

namespace NodeExt2fs.Rejections
open Programs Glue Js Library
open Program (wp wp_pure wp_bind wp_ite wp_mono)

variable {operation : BindingCall} {verdict : Verdict}

/-- A library code that is negated has no name. -/
theorem Raised.told {err : Errcode} (raised : Raised operation err verdict)
    (negates : operation.translates = false) :
    Told operation (-(err : Int)) verdict := by
  by_cases success : err = 0
  · apply (raised.fine success).told
    intro negative
    exact absurd success (neg_errcode_lt_zero.mp negative)
  · obtain ⟨large, last⟩ := raised.last success
    apply iff_of_false
    · intro known
      rw [Int.neg_neg] at known
      exact unknown_code large (known (neg_errcode_lt_zero.mpr success))
    · intro fine
      apply fine err last
      intro translates
      rw [negates] at translates
      cases translates

/-- A negated code that is nonzero is returned. -/
theorem wp_orNegate {err : Errcode} {next : Routine Int} (told : Told operation (-(err : Int)) verdict)
    (rest : Fine operation verdict → wp (judged operation) next (Told operation) verdict) :
    wp (judged operation) (if err ≠ 0 then pure (-(err : Int)) else next) (Told operation) verdict := by
  rw [wp_ite]
  refine ⟨fun _ => told, fun success => rest (told.fine ?_)⟩
  rw [not_not.mp success]
  rfl

/-- A part of which the nonzero code is raised. -/
theorem wp_orRaise {A : Type} {err : Errcode} {shown : A} {next : Routine A} {code : A → Errcode}
    (raised : Raised operation err verdict) (same : code shown = err)
    (rest : Fine operation verdict →
      wp (judged operation) next (fun answer => Raised operation (code answer)) verdict) :
    wp (judged operation) (if err ≠ 0 then pure shown else next)
      (fun answer => Raised operation (code answer)) verdict := by
  rw [wp_ite]
  constructor
  · intro failed
    show Raised operation (code shown) verdict
    rw [same]
    exact raised
  · intro success
    exact rest (raised.fine (not_not.mp success))

section Transfer

variable (negates : operation.translates = false)

theorem updateXtime_wp (file : Ptr) (a c m : Bool) (fine : Fine operation verdict) :
    wp (judged operation) (updateXtime file a c m) (Raised operation) verdict := by
  unfold updateXtime
  rw [wp_bind]
  apply wp_silent (.loadFile file) rfl (fun _ => rfl) rfl
  intro handle verdict' last _
  have fine := fine.kept last
  rw [wp_bind]
  apply wp_raised (.readInode handle.ino) rfl fine
  rintro ⟨err, inode⟩ verdict raised
  apply @wp_orRaise operation verdict Errcode err err _ id raised rfl
  intro fine
  rw [wp_bind]
  apply wp_mono (getNow_wp fine)
  intro now verdict fine
  rw [wp_bind]
  apply wp_silent (.storeFileInode file _) rfl (fun _ => rfl) rfl
  intro _ verdict' last _
  exact wp_raised (.writeInode handle.ino _) rfl (fine.kept last) fun _ _ raised => raised

theorem seekForRead_wp (file : Ptr) (position : BitVec 32) (fine : Fine operation verdict) :
    wp (judged operation) (seekForRead file position) (Raised operation) verdict := by
  unfold seekForRead
  rw [wp_ite]
  exact ⟨fun _ => wp_raised (.fileLlseek file _ EXT2_SEEK_SET) rfl fine fun _ _ raised => raised,
    fun _ => fine.raised⟩

theorem seekForWrite_wp (file : Ptr) (flags position : BitVec 32) (fine : Fine operation verdict) :
    wp (judged operation) (seekForWrite file flags position) (Raised operation) verdict := by
  unfold seekForWrite
  rw [wp_ite, wp_ite]
  refine ⟨fun _ => ?_, fun _ => ⟨fun _ => ?_, fun _ => fine.raised⟩⟩
  · exact wp_raised (.fileLlseek file 0 EXT2_SEEK_END) rfl fine fun _ _ raised => raised
  · exact wp_raised (.fileLlseek file _ EXT2_SEEK_SET) rfl fine fun _ _ raised => raised

theorem stampRead_wp (file : Ptr) (flags : BitVec 32) (fine : Fine operation verdict) :
    wp (judged operation) (stampRead file flags) (Raised operation) verdict := by
  unfold stampRead
  rw [wp_ite]
  exact ⟨fun _ => updateXtime_wp file true false false fine, fun _ => fine.raised⟩

theorem stampWritten_wp (file : Ptr) (flags : BitVec 32) (fine : Fine operation verdict) :
    wp (judged operation) (stampWritten file flags) (Raised operation) verdict := by
  unfold stampWritten
  rw [wp_ite]
  exact ⟨fun _ => updateXtime_wp file false true true fine, fun _ => fine.raised⟩

/-- A count within a buffer is no rejection. -/
theorem told_count {length count : BitVec 32} (fine : Fine operation verdict)
    (sized : length.toNat < 2 ^ 31) (inside : count.toNat ≤ length.toNat) :
    Told operation count.toInt verdict := by
  apply fine.told
  intro negative
  rw [BitVec.toInt_eq_toNat_of_lt (by omega)] at negative
  omega

/-- The code of a failed flush only costs a flush of the filesystem. -/
theorem flushWritten_wp (file : Ptr) (written : BitVec 32)
    (told : Told operation written.toInt verdict) :
    wp (judged operation) (flushWritten file written) (Told operation) verdict := by
  have translated (err : Errcode) (verdict : Verdict) :
      wp (judged operation) (translateError err) (fun _ verdict' => verdict'.last = verdict.last)
        verdict := by
    unfold translateError
    simp only [wp_ite, wp_bind, wp_pure]
    refine ⟨fun _ => trivial, fun _ => ⟨fun _ => ?_, fun _ => trivial⟩⟩
    apply wp_silent .markSuperDirty rfl (fun _ => rfl) rfl
    intro _ verdict' marked _
    apply wp_ignored .flush rfl
    intro _ verdict'' flushed _
    exact flushed.trans marked
  unfold flushWritten
  rw [wp_bind]
  apply wp_ignored (.fileFlush file) rfl
  intro err verdict' kept _
  have told := told.kept kept
  rw [wp_ite]
  refine ⟨fun _ => ?_, fun _ => told⟩
  rw [wp_bind]
  apply wp_mono (translated err verdict')
  intro _ verdict'' kept
  exact told.kept kept

include negates

theorem nodeExt2fsRead_wp (file : Ptr) (flags : BitVec 32) (buffer : Ptr) (length position : BitVec 32)
    (sized : length.toNat < 2 ^ 31) (fine : Fine operation verdict) :
    wp (judged operation) (nodeExt2fsRead file flags buffer length position) (Told operation) verdict := by
  unfold nodeExt2fsRead
  rw [wp_ite]
  refine ⟨fun _ => fine.told (fun _ => by decide), fun _ => ?_⟩
  rw [wp_bind]
  apply wp_mono (seekForRead_wp file position fine)
  intro ret verdict raised
  apply wp_orNegate (raised.told negates)
  intro fine
  rw [wp_bind]
  apply wp_looked (.fileRead file buffer length) rfl
  · rintro ⟨ret, got⟩ verdict' documented success _ last
    have fine := fine.kept last
    rw [wp_ite]
    refine ⟨fun failed => absurd success failed, fun _ => ?_⟩
    rw [wp_bind]
    apply wp_mono (stampRead_wp file flags fine)
    intro ret verdict raised
    apply wp_orNegate (raised.told negates)
    intro fine
    exact told_count fine sized documented.2
  · rintro ⟨ret, got⟩ verdict' failed raised
    rw [wp_ite]
    exact ⟨fun _ => raised.told negates, fun success => absurd failed success⟩

theorem nodeExt2fsWrite_wp (file : Ptr) (flags : BitVec 32) (buffer : Ptr) (length position : BitVec 32)
    (sized : length.toNat < 2 ^ 31) (fine : Fine operation verdict) :
    wp (judged operation) (nodeExt2fsWrite file flags buffer length position) (Told operation) verdict := by
  unfold nodeExt2fsWrite
  rw [wp_ite]
  refine ⟨fun _ => fine.told (fun _ => by decide), fun _ => ?_⟩
  rw [wp_bind]
  apply wp_mono (seekForWrite_wp file flags position fine)
  intro ret verdict raised
  apply wp_orNegate (raised.told negates)
  intro fine
  rw [wp_bind]
  apply wp_looked (.fileWrite file buffer length) rfl
  · rintro ⟨ret, written⟩ verdict' documented success _ last
    have fine := fine.kept last
    rw [wp_ite]
    refine ⟨fun failed => absurd success failed, fun _ => ?_⟩
    rw [wp_bind]
    apply wp_mono (stampWritten_wp file flags fine)
    intro ret verdict raised
    apply wp_orNegate (raised.told negates)
    intro fine
    exact flushWritten_wp file written (told_count fine sized documented.2)
  · rintro ⟨ret, written⟩ verdict' failed raised
    rw [wp_ite]
    exact ⟨fun _ => raised.told negates, fun success => absurd failed success⟩

end Transfer

section Creation

theorem stringToInode_wp (str : Path) (follow : Bool)
    (drops : ∀ index path, ignores operation index (.namei path) = true) (fine : Fine operation verdict) :
    wp (judged operation) (stringToInode str follow) (fun _ verdict => Fine operation verdict) verdict := by
  unfold stringToInode
  cases follow with
  | true =>
      simp only [if_true, wp_bind]
      apply wp_ignored (.nameiFollow str) rfl
      rintro ⟨retval, ino⟩ verdict' last _
      rw [wp_ite]
      exact ⟨fun _ => fine.kept last, fun _ => fine.kept last⟩
  | false =>
      simp only [Bool.false_eq_true, if_false, wp_bind]
      apply wp_ignored (.namei str) (drops _ _)
      rintro ⟨retval, ino⟩ verdict' last _
      rw [wp_ite]
      exact ⟨fun _ => fine.kept last, fun _ => fine.kept last⟩

theorem getParentDirIno_wp (path : Path)
    (drops : ∀ index path, ignores operation index (.namei path) = true) (fine : Fine operation verdict) :
    wp (judged operation) (getParentDirIno path) (fun _ verdict => Fine operation verdict) verdict := by
  unfold getParentDirIno
  cases strrchr path with
  | none => exact fine
  | some split => exact stringToInode_wp _ true drops fine

theorem chooseLayout_wp (ino : Ino) (inode : Inode) (fine : Fine operation verdict) :
    wp (judged operation) (chooseLayout ino inode) (fun answer => Raised operation answer.1) verdict := by
  unfold chooseLayout
  rw [wp_bind]
  apply wp_silent .hasFeatureInlineData rfl (fun _ => rfl) rfl
  intro inline verdict' last _
  have fine := fine.kept last
  rw [wp_ite]
  refine ⟨fun _ => fine.raised, fun _ => ?_⟩
  rw [wp_bind]
  apply wp_silent .hasFeatureExtents rfl (fun _ => rfl) rfl
  intro extents verdict' last _
  have fine := fine.kept last
  rw [wp_ite]
  refine ⟨fun _ => ?_, fun _ => fine.raised⟩
  rw [wp_bind]
  apply wp_raised (.extentOpen ino _) rfl fine
  rintro ⟨ret, inode⟩ verdict raised
  apply wp_orRaise raised rfl
  intro fine
  rw [wp_bind]
  apply wp_silent .extentFree rfl (fun _ => rfl) rfl
  intro _ verdict' last _
  exact (fine.kept last).raised

theorem fillFile_wp (ino : Ino) (mode : BitVec 32) (fine : Fine operation verdict) :
    wp (judged operation) (fillFile ino mode) (Raised operation) verdict := by
  unfold fillFile
  rw [wp_bind]
  apply wp_silent (.testInodeBitmap ino) rfl (fun _ => rfl) rfl
  intro taken verdict' last _
  have fine := fine.kept last
  rw [wp_bind]
  apply wp_silent (.inodeAllocStats ino 1 false) rfl (fun _ => rfl) rfl
  intro _ verdict' last _
  have fine := fine.kept last
  rw [wp_bind]
  apply wp_silent .time rfl (fun _ => rfl) rfl
  intro now verdict' last _
  have fine := fine.kept last
  rw [wp_bind]
  apply wp_raised (.inodeSizeSet _ 0) rfl fine
  rintro ⟨ret, inode⟩ verdict raised
  apply @wp_orRaise operation verdict Errcode _ _ _ id raised rfl
  intro fine
  rw [wp_bind]
  apply wp_mono (chooseLayout_wp ino inode fine)
  rintro ⟨ret, inode⟩ verdict raised
  apply @wp_orRaise operation verdict Errcode _ _ _ id raised rfl
  intro fine
  rw [wp_bind]
  apply wp_raised (.writeNewInode ino inode) rfl fine
  intro ret verdict raised
  apply @wp_orRaise operation verdict Errcode _ _ _ id raised rfl
  intro fine
  rw [wp_ite]
  exact ⟨fun _ => wp_raised (.inlineDataInit ino) rfl fine fun _ _ raised => raised, fun _ => fine.raised⟩

/-- An operation that negates its codes and drops those of its lookups. -/
structure Negating (operation : BindingCall) : Prop where
  negates : operation.translates = false
  drops : ∀ index path, ignores operation index (.namei path) = true

variable (negating : Negating operation)

include negating

/-- The code of a failed creation is told when it is negated. -/
theorem createFile_wp (path : Path) (mode : BitVec 32) (fine : Fine operation verdict) :
    wp (judged operation) (createFile path mode)
      (fun answer verdict => Told operation (-(answer.1 : Int)) verdict) verdict := by
  unfold createFile
  rw [wp_bind]
  apply wp_mono (getParentDirIno_wp path negating.drops fine)
  intro parentIno verdict fine
  rw [wp_ite]
  refine ⟨fun _ => fine.told (fun _ => by decide), fun _ => ?_⟩
  rw [wp_bind]
  apply wp_raised (.newInode parentIno mode) rfl fine
  rintro ⟨ret, ino⟩ verdict raised
  rw [wp_ite]
  refine ⟨fun _ => raised.told negating.negates, fun success => ?_⟩
  have fine := raised.fine (not_not.mp success)
  cases getFilename path with
  | none => exact @Fine.told _ _ fine (-(EISDIR : Int)) (fun _ => by decide)
  | some filename =>
      rw [wp_bind]
      apply wp_mono (expanding_wp parentIno (fun _ fine => link_wp _ _ _ _ fine) fine)
      intro ret verdict raised
      rw [wp_ite]
      refine ⟨fun _ => raised.told negating.negates, fun success => ?_⟩
      rw [wp_bind]
      apply wp_mono (fillFile_wp ino mode (raised.fine (not_not.mp success)))
      intro ret verdict raised
      exact raised.told negating.negates

theorem findOrCreate_wp (path : Path) (flags mode : BitVec 32) (fine : Fine operation verdict) :
    wp (judged operation) (findOrCreate path flags mode)
      (fun answer => Told operation answer.1) verdict := by
  unfold findOrCreate
  rw [wp_bind]
  apply wp_mono (stringToInode_wp path _ negating.drops fine)
  intro ino verdict fine
  rw [wp_ite, wp_ite, wp_ite]
  refine ⟨fun _ => ⟨fun _ => fine.told (fun _ => by decide), fun _ => ?_⟩,
    fun _ => ⟨fun _ => fine.told (fun _ => by decide), fun _ => fine.told (by simp)⟩⟩
  rw [wp_bind]
  apply wp_mono (createFile_wp negating path mode fine)
  rintro ⟨ret, ino⟩ verdict told
  rw [wp_ite]
  refine ⟨fun _ => told, fun success => ?_⟩
  rw [not_not.mp success] at told
  exact told

theorem openInode_wp (flags : BitVec 32) (ino : Ino) (fine : Fine operation verdict) :
    wp (judged operation) (openInode flags ino) (Told operation) verdict := by
  unfold openInode
  rw [wp_bind]
  apply wp_raised (.fileOpen ino _) rfl fine
  rintro ⟨ret, file⟩ verdict raised
  apply wp_orNegate (raised.told negating.negates)
  intro fine
  rw [wp_ite]
  refine ⟨fun _ => ?_, fun _ => fine.told (by simp)⟩
  rw [wp_bind]
  apply wp_raised (.fileSetSize file 0) rfl fine
  intro ret verdict raised
  apply wp_orNegate (raised.told negating.negates)
  intro fine
  exact fine.told (by simp)

theorem nodeExt2fsOpen_wp (path : Path) (flags mode : BitVec 32)
    (checks : ∀ index ino, ignores operation index (.checkDirectory ino) = true)
    (fine : Fine operation verdict) :
    wp (judged operation) (nodeExt2fsOpen path flags mode) (Told operation) verdict := by
  rw [nodeExt2fsOpen_eq, wp_bind]
  apply wp_mono (findOrCreate_wp negating path flags mode fine)
  rintro ⟨failed, ino⟩ verdict told
  unfold openFound
  rw [wp_ite]
  refine ⟨fun _ => told, fun success => ?_⟩
  have fine := told.fine (not_not.mp success)
  rw [wp_ite]
  refine ⟨fun _ => ?_, fun _ => openInode_wp negating flags ino fine⟩
  rw [wp_bind]
  apply wp_ignored (.checkDirectory ino) (checks _ _)
  intro code verdict' last _
  have fine := fine.kept last
  rw [wp_ite]
  exact ⟨fun _ => fine.told (fun _ => by decide), fun _ => openInode_wp negating flags ino fine⟩

theorem nodeExt2fsMkdir_wp (path : Path) (mode : BitVec 32) (fine : Fine operation verdict) :
    wp (judged operation) (nodeExt2fsMkdir path mode) (Told operation) verdict := by
  unfold nodeExt2fsMkdir
  rw [wp_bind]
  apply wp_mono (getParentDirIno_wp path negating.drops fine)
  intro parentIno verdict fine
  rw [wp_ite]
  refine ⟨fun _ => fine.told (fun _ => by decide), fun _ => ?_⟩
  cases getFilename path with
  | none => exact fine.told (fun _ => by decide)
  | some filename =>
      rw [wp_bind]
      apply wp_raised (.newInode parentIno _) rfl fine
      rintro ⟨ret, newdir⟩ verdict raised
      apply wp_orNegate (raised.told negating.negates)
      intro fine
      rw [wp_bind]
      apply wp_raised (.mkdir parentIno newdir filename) rfl fine
      intro ret verdict raised
      apply wp_orNegate (raised.told negating.negates)
      intro fine
      rw [wp_bind]
      apply wp_raised (.readInode newdir) rfl fine
      rintro ⟨ret, inode⟩ verdict raised
      apply wp_orNegate (raised.told negating.negates)
      intro fine
      rw [wp_bind]
      apply wp_raised (.writeInode newdir _) rfl fine
      intro ret verdict raised
      exact raised.told negating.negates

end Creation

section Inspection

theorem copyFilenames_wp (arrayId : Nat) (dirents : List DirEntry) (verdict : Verdict) :
    wp (judged operation) (copyFilenames arrayId dirents)
      (fun _ verdict' => verdict'.last = verdict.last) verdict := by
  induction dirents generalizing verdict with
  | nil => rfl
  | cons dirent rest ih =>
      rw [copyFilenames, wp_bind, copyFilenameToResult, wp_ite]
      refine ⟨fun _ => ?_, fun _ => ih verdict⟩
      apply wp_silent (.arrayPushBuffer arrayId dirent.name) rfl (fun _ => rfl) rfl
      intro _ verdict' pushed _
      apply wp_mono (ih verdict')
      intro _ verdict'' last
      exact last.trans pushed

/-- The name is pushed, and the result is zero. -/
theorem pushPathname_wp (arrayId : Nat) (pathname behind : List UInt8) {next : Routine Int}
    (fine : Fine operation verdict)
    (rest : ∀ verdict, Fine operation verdict → wp (judged operation) next (Told operation) verdict) :
    wp (judged operation) (pushPathname arrayId pathname behind >>= fun _ => next) (Told operation)
      verdict := by
  rw [wp_bind]
  apply wp_silent (.arrayPushBuffer arrayId _) rfl (fun _ => rfl) rfl
  intro _ verdict' last _
  exact rest verdict' (fine.kept last)

/-- The buffer is released before the result is returned. -/
theorem freeMem_wp {ret : Int} (told : Told operation ret verdict) :
    wp (judged operation) (ext2fsFreeMem >>= fun _ => pure ret) (Told operation) verdict := by
  rw [wp_bind]
  apply wp_silent .freeMem rfl (fun _ => rfl) rfl
  intro _ verdict' last _
  exact told.kept last

variable (negating : Negating operation)

include negating

theorem nodeExt2fsReaddir_wp (path : Path) (arrayId : Nat)
    (looks : ∀ index ino, ignores operation index (.checkDirectory ino) = false)
    (fine : Fine operation verdict) :
    wp (judged operation) (nodeExt2fsReaddir path arrayId) (Told operation) verdict := by
  unfold nodeExt2fsReaddir
  rw [wp_bind]
  apply wp_mono (stringToInode_wp path true negating.drops fine)
  intro ino verdict fine
  rw [wp_ite]
  refine ⟨fun _ => fine.told (fun _ => by decide), fun _ => ?_⟩
  rw [wp_bind]
  apply wp_raised (.fileOpen ino 0) rfl fine
  rintro ⟨ret, file⟩ verdict raised
  apply wp_orNegate (raised.told negating.negates)
  intro fine
  rw [wp_bind]
  apply wp_raised (.checkDirectory ino) (looks _ _) fine
  intro ret verdict raised
  apply wp_orNegate (raised.told negating.negates)
  intro fine
  rw [wp_bind]
  apply wp_raised (.dirIterate ino .copyFilenameToResult) rfl fine
  rintro ⟨ret, dirents⟩ verdict raised
  rw [wp_bind]
  apply wp_mono (copyFilenames_wp arrayId dirents verdict)
  intro _ verdict' last
  exact (raised.told negating.negates).kept last

/-- A buffer is filled and its name pushed; a failure releases the buffer. -/
theorem wp_filled (call : Call) (looked : ∀ index, ignores operation index call = false)
    (arrayId : Nat) (behind : List UInt8) (buffer : Answer call → List UInt8)
    (fine : Fine operation verdict) :
    wp (judged operation)
      (call.perform >>= fun answer =>
        if call.code answer ≠ 0 then ext2fsFreeMem >>= fun _ => pure (-(call.code answer : Int))
        else pushPathname arrayId (buffer answer) behind >>= fun _ =>
          ext2fsFreeMem >>= fun _ => pure 0)
      (Told operation) verdict := by
  rw [wp_bind]
  apply wp_raised call (looked _) fine
  intro answer verdict raised
  rw [wp_ite]
  constructor
  · intro failed
    exact freeMem_wp (raised.told negating.negates)
  · intro success
    apply pushPathname_wp arrayId _ behind (raised.fine (not_not.mp success))
    intro verdict fine
    exact freeMem_wp (fine.told (by simp))

theorem nodeExt2fsReadlink_wp (path : Path) (arrayId : Nat) (behind : List UInt8)
    (fine : Fine operation verdict) :
    wp (judged operation) (nodeExt2fsReadlink path arrayId behind) (Told operation) verdict := by
  unfold nodeExt2fsReadlink
  rw [wp_bind]
  apply wp_mono (stringToInode_wp path false negating.drops fine)
  intro ino verdict fine
  rw [wp_ite]
  refine ⟨fun _ => fine.told (fun _ => by decide), fun _ => ?_⟩
  rw [wp_bind]
  apply wp_raised (.readInode ino) rfl fine
  rintro ⟨ret, ei⟩ verdict raised
  apply wp_orNegate (raised.told negating.negates)
  intro fine
  rw [wp_ite]
  refine ⟨fun _ => fine.told (fun _ => by decide), fun _ => ?_⟩
  rw [wp_bind]
  apply wp_silent (.isFastSymlink ei) rfl (fun _ => rfl) rfl
  intro fast verdict' last _
  have fine := fine.kept last
  rw [wp_ite, wp_ite]
  refine ⟨fun _ => ?_, fun _ => ⟨fun _ => ?_, fun _ => ?_⟩⟩
  · apply pushPathname_wp arrayId _ behind fine
    intro verdict fine
    exact fine.told (by simp)
  · rw [wp_bind]
    apply wp_raised (.getMem ei.iSize) rfl fine
    intro ret verdict raised
    apply wp_orNegate (raised.told negating.negates)
    intro fine
    exact wp_filled negating (.inlineDataGet ino ei) (fun _ => rfl) arrayId behind Prod.snd fine
  · rw [wp_bind]
    apply wp_raised (.bmap ino ei 0) rfl fine
    rintro ⟨ret, blk⟩ verdict raised
    apply wp_orNegate (raised.told negating.negates)
    intro fine
    rw [wp_bind]
    apply wp_silent .loadBlocksize rfl (fun _ => rfl) rfl
    intro blocksize verdict' last _
    rw [wp_bind]
    apply wp_raised (.getMem blocksize) rfl (fine.kept last)
    intro ret verdict raised
    apply wp_orNegate (raised.told negating.negates)
    intro fine
    exact wp_filled negating (.ioChannelReadBlk blk) (fun _ => rfl) arrayId behind Prod.snd fine

end Inspection

/-- Before the first call nothing has failed. -/
def Verdict.start : Verdict where
  index := 0
  last := none

theorem fine_start (operation : BindingCall) : Fine operation .start := by
  intro code last
  cases last

/-- The result of every operation is told by its last failure. -/
theorem routine_wp (operation : BindingCall) (sized : operation.Sized) :
    wp (judged operation) operation.routine (Told operation) .start := by
  have fine := fine_start operation
  cases operation with
  | change operation =>
      cases operation with
      | unlink path => exact nodeExt2fsUnlink_wp ⟨rfl, fun _ _ => rfl, fun _ _ => rfl⟩ path fine
      | rmdir path => exact nodeExt2fsRmdir_wp ⟨rfl, fun _ _ => rfl, fun _ _ => rfl⟩ path fine
      | rename fromPath toPath =>
          exact nodeExt2fsRename_wp ⟨rfl, fun _ _ => rfl, fun _ _ => rfl⟩ fromPath toPath fine
      | link src dest => exact nodeExt2fsLink_wp src dest
      | symlink src dest => exact nodeExt2fsSymlink_wp rfl src dest (fun _ _ => rfl) fine
      | write file flags buffer length position =>
          exact nodeExt2fsWrite_wp rfl file flags buffer length position sized fine
  | «open» path flags mode =>
      exact nodeExt2fsOpen_wp ⟨rfl, fun _ _ => rfl⟩ path flags mode (fun _ _ => rfl) fine
  | mkdir path mode => exact nodeExt2fsMkdir_wp ⟨rfl, fun _ _ => rfl⟩ path mode fine
  | readdir path arrayId =>
      exact nodeExt2fsReaddir_wp ⟨rfl, fun _ _ => rfl⟩ path arrayId (fun _ _ => rfl) fine
  | readlink path arrayId behind =>
      exact nodeExt2fsReadlink_wp ⟨rfl, fun _ _ => rfl⟩ path arrayId behind fine
  | read file flags buffer length position =>
      exact nodeExt2fsRead_wp rfl file flags buffer length position sized fine

/-- A rejection of the call has an errno of the table, with its name. -/
def KnownCode (operation : BindingCall) (args : List Int) (ret : Int) : Prop :=
  ∀ exception, ccallThrowAsync operation.name args ret = .error exception →
    (exception.errno, exception.code) ∈ errnoToCode

theorem knownCode_iff_known (operation : BindingCall) (args : List Int) (ret : Int) :
    KnownCode operation args ret ↔ (ret < 0 → Known (-ret)) := by
  unfold KnownCode ccallThrowAsync
  constructor
  · intro every negative
    apply (errnoException_known (-ret) operation.name args).mp
    apply every
    rw [if_pos negative]
  · intro known exception raised
    by_cases negative : ret < 0
    · rw [if_pos negative] at raised
      cases raised
      exact (errnoException_known (-ret) operation.name args).mpr (known negative)
    · rw [if_neg negative] at raised
      cases raised

/-- A rejection has a known code exactly if the last failure that the operation looks at does not spoil
it. -/
theorem knownCode_iff (operation : BindingCall) (sized : operation.Sized) {history : List CallEvent}
    {ret : Int} (outcome : Program.Outcome operation.routine history ret)
    (documented : ∀ event ∈ history, Documented event) (args : List Int) :
    KnownCode operation args ret ↔ ∀ code, deciding operation history = some code → ¬Spoils operation code := by
  rw [knownCode_iff_known]
  exact Program.outcome_of_wp_watching (routine_wp operation sized) outcome documented

/-- The missing file of an `open` has a known code. -/
theorem knownCode_iff_missing :
    KnownCode (.open [0x2f, 0x61] 0#32 0#32) [] (-ENOENT) := by
  have outcome : Program.Outcome (BindingCall.open [0x2f, 0x61] 0#32 0#32).routine
      [⟨.nameiFollow [0x2f, 0x61], (EXT2_ET_FILE_NOT_FOUND, 0)⟩] (-ENOENT) :=
    @Program.Outcome.call Call Answer Int (.nameiFollow [0x2f, 0x61]) _ (EXT2_ET_FILE_NOT_FOUND, 0) _ _
      (.pure _)
  apply (knownCode_iff (.open [0x2f, 0x61] 0#32 0#32) trivial outcome _ []).mpr
  · rintro code ⟨⟩
  · intro event listed
    cases List.mem_singleton.mp listed
    exact ⟨.inr (by decide), trivial⟩

/-- The directory that exists already is reported with an unknown code. -/
theorem mkdir_existing :
    ¬∀ (operation : BindingCall) (history : List CallEvent) (ret : Int), operation.Sized →
      Program.Outcome operation.routine history ret → (∀ event ∈ history, Documented event) →
        KnownCode operation [] ret := by
  intro every
  have outcome : Program.Outcome (BindingCall.mkdir [0x2f, 0x61] 0#32).routine
      [⟨.nameiFollow [0x2f], ((0 : Errcode), 2)⟩,
        ⟨.newInode 2 (LINUX_S_IFDIR.setWidth 32), ((0 : Errcode), 12)⟩,
        ⟨.mkdir 2 12 [0x61], EXT2_ET_DIR_EXISTS⟩] (-EXT2_ET_DIR_EXISTS) :=
    @Program.Outcome.call Call Answer Int (.nameiFollow [0x2f]) _ ((0 : Errcode), 2) _ _
      (@Program.Outcome.call Call Answer Int (.newInode 2 (LINUX_S_IFDIR.setWidth 32)) _
        ((0 : Errcode), 12) _ _
        (@Program.Outcome.call Call Answer Int (.mkdir 2 12 [0x61]) _ EXT2_ET_DIR_EXISTS _ _ (.pure _)))
  have known := every (.mkdir [0x2f, 0x61] 0#32) _ _ trivial outcome (by
    intro event listed
    simp only [List.mem_cons, List.not_mem_nil, or_false] at listed
    rcases listed with rfl | rfl | rfl
    · exact ⟨.inl rfl, trivial⟩
    · exact ⟨.inl rfl, trivial⟩
    · exact ⟨.inr (by decide), trivial⟩)
  have large : EXT2_ET_BASE < EXT2_ET_DIR_EXISTS := by decide
  apply unknown_code large
  exact (knownCode_iff_known _ _ _).mp known (by decide)

end NodeExt2fs.Rejections
