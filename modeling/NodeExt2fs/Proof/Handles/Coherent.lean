import NodeExt2fs.Construction.Library.Copies
import NodeExt2fs.Programs.Transition

/-!
This file compares what `fstat` reports through the handles of one inode.
-/

namespace NodeExt2fs.Handles
open Programs Glue Library
open Program (wp wp_pure wp_bind wp_map wp_mono run_of_wp)

variable {ino : Ino} {now : BitVec 32}

theorem wp_copying {state : Copies} (call : Call) {post : Answer call → Copies → Prop}
    (rest : ∀ answer state', (copying ino now).allows state call answer state' →
      post answer state') : wp (copying ino now) call.perform post state :=
  ⟨trivial, rest⟩

/-- A routine that changes the inode stores it in its handle and on the disk. -/
theorem store_copying {A : Type} {state : Copies} {file : Ptr} {inode : Inode}
    {next : Errcode → Routine A} {post : A → Copies → Prop}
    (rest : wp (copying ino now) (next 0) post
      { stored := inode, copies := Function.update state.copies file (some inode) }) :
    wp (copying ino now)
      (storeFileInode file inode >>= fun _ => ext2fsWriteInode ino inode >>= next) post state := by
  rw [wp_bind]
  apply wp_copying (.storeFileInode file inode)
  intro _ stored allowed
  rw [wp_bind]
  apply wp_copying (.writeInode ino inode)
  intro code written after
  obtain ⟨success, same⟩ := after rfl
  rw [show code = 0 from success, show written = _ from same, show stored = _ from allowed]
  exact rest

/-- A routine that changes the inode reads it from the disk, whatever its handle has. -/
theorem read_copying {A : Type} {state : Copies} {file : Ptr} {copy : Inode}
    (opened : state.copies file = some copy) {next : Ext2File → Errcode × Inode → Routine A}
    {post : A → Copies → Prop}
    (rest : wp (copying ino now) (next { ino := ino, inode := copy } (0, state.stored)) post state) :
    wp (copying ino now) (loadFile file >>= fun handle => ext2fsReadInode handle.ino >>= next handle)
      post state := by
  rw [wp_bind]
  apply wp_copying (.loadFile file)
  intro handle state' allowed
  obtain ⟨same, loaded⟩ := allowed
  rw [show state' = state from same, show handle = _ from loaded copy opened, wp_bind]
  apply wp_copying (.readInode ino)
  intro answer state'' allowed
  obtain ⟨same, found⟩ := allowed
  rw [show state'' = state from same, show answer = _ from found rfl]
  exact rest

theorem getNow_copying {state : Copies} {post : Timespec → Copies → Prop}
    (rest : ∀ time : Timespec, time.tvSec.setWidth 32 = now → post time state) :
    wp (copying ino now) getNow post state := by
  rw [getNow, wp_bind]
  apply wp_copying .clockGettime
  intro answer state' allowed
  obtain ⟨same, reads⟩ := allowed
  rw [show state' = state from same]
  by_cases success : answer.1 = 0
  · dsimp only
    rw [if_pos success]
    exact rest answer.2 (reads success)
  · dsimp only
    rw [if_neg success, wp_bind]
    apply wp_copying .time
    intro seconds state'' allowed
    obtain ⟨same, reads⟩ := allowed
    rw [show state'' = state from same]
    exact rest _ reads

/-- Each operation changes the attributes on the disk, and copies them to its own handle only. -/
theorem routine_copying {state : Copies} {file : Ptr} {copy : Inode}
    (opened : state.copies file = some copy) (operation : AttributeOperation) :
    wp (copying ino now) (operation.routine file)
      (fun _ state' => ∃ inode,
        attributesOf inode = operation.stores now (attributesOf state.stored) ∧
        state' = { stored := inode, copies := Function.update state.copies file (some inode) })
      state := by
  cases operation with
  | chmod mode =>
      rw [AttributeOperation.routine, nodeExt2fsChmod]
      apply read_copying opened
      dsimp only
      rw [if_neg (not_not.mpr rfl)]
      apply store_copying
      exact ⟨_, rfl, rfl⟩
  | chown uid gid =>
      rw [AttributeOperation.routine, nodeExt2fsChown]
      apply read_copying opened
      dsimp only
      rw [if_neg (not_not.mpr rfl)]
      apply store_copying
      exact ⟨_, rfl, rfl⟩
  | updateXtime a c m =>
      rw [AttributeOperation.routine, wp_map, updateXtime]
      apply read_copying opened
      dsimp only
      rw [if_neg (not_not.mpr rfl), wp_bind]
      apply getNow_copying
      intro time reads
      rw [← bind_pure (ext2fsWriteInode ino _)]
      apply store_copying
      refine ⟨_, ?_, rfl⟩
      rw [← reads]
      rfl

/-- The accessors report what their handle has. -/
theorem accessor_copying {state : Copies} {file : Ptr} {copy : Inode}
    (opened : state.copies file = some copy) {field : InodeStat} {value : Int}
    (reported : (attributesOf copy).reported field = some value) :
    wp (copying ino now) (field.routine file) (fun result _ => result = value) state := by
  rw [InodeStat.routine, wp_bind]
  apply wp_copying (.loadFile file)
  intro handle state' allowed
  rw [show handle = _ from allowed.2 copy opened, wp_bind]
  apply wp_copying .loadBlocksize
  intro blocksize state'' _
  show field.read { ino := ino, inode := copy } blocksize = value
  cases field with
  | iMode => exact Option.some.inj reported
  | iUid => exact Option.some.inj reported
  | iGid => exact Option.some.inj reported
  | iAtime => exact Option.some.inj reported
  | iCtime => exact Option.some.inj reported
  | iMtime => exact Option.some.inj reported
  | _ => cases reported

/-- Attributes that are reported alike are the same. -/
theorem attributes_ext {attributes attributes' : Attributes}
    (same : ∀ field, attributes.reported field = attributes'.reported field) :
    attributes = attributes' := by
  have half {first second : BitVec 16}
      (same : some (first.setWidth 32).toInt = some (second.setWidth 32).toInt) : first = second := by
    have widened := BitVec.eq_of_toInt_eq (Option.some.inj same)
    apply BitVec.eq_of_toNat_eq
    have number := congrArg BitVec.toNat widened
    simp only [BitVec.toNat_setWidth] at number
    omega
  have word {first second : BitVec 32} (same : some first.toInt = some second.toInt) :
      first = second := BitVec.eq_of_toInt_eq (Option.some.inj same)
  obtain ⟨mode, uid, gid, atime, ctime, mtime⟩ := attributes
  obtain ⟨mode', uid', gid', atime', ctime', mtime'⟩ := attributes'
  rw [show mode = mode' from half (same .iMode), show uid = uid' from half (same .iUid),
    show gid = gid' from half (same .iGid), show atime = atime' from word (same .iAtime),
    show ctime = ctime' from word (same .iCtime), show mtime = mtime' from word (same .iMtime)]

/-- Which fields are reported does not depend on the attributes. -/
theorem reported_none {attributes : Attributes} {field : InodeStat}
    (none : attributes.reported field = none) (attributes' : Attributes) :
    attributes'.reported field = Option.none := by
  cases field with
  | ino => rfl
  | iLinksCount => rfl
  | iSize => rfl
  | iBlocks => rfl
  | blocksize => rfl
  | _ => cases none

/-- No operation stores another type of file. -/
theorem stores_format (attributes : Attributes) (operation : AttributeOperation) :
    (operation.stores now attributes).mode &&& LINUX_S_IFMT = attributes.mode &&& LINUX_S_IFMT := by
  cases operation with
  | chmod mode => exact permissions_format attributes.mode mode
  | chown uid gid => rfl
  | updateXtime a c m => rfl

variable {Hidden : Type} {library : BitVec 32 → Handler Call Answer Hidden} {view : Hidden → Copies}

/-- The accessors report the attributes through every open handle, whatever the clock reads. The
disk has them too, and the type of the file is the given one. -/
def Agrees (library : BitVec 32 → Handler Call Answer Hidden) (view : Hidden → Copies)
    (format : BitVec 16) (run : AttributeRun Hidden) : Prop :=
  (∀ file, (view run.hidden).copies file ≠ none → ∀ field value,
    run.attributes.reported field = some value →
    ∀ now, ((field.routine file).run (library now) run.hidden).1 = value) ∧
  attributesOf (view run.hidden).stored = run.attributes ∧
  run.attributes.mode &&& LINUX_S_IFMT = format

/-- The operation stores what is stored already, or no other handle is open. -/
def Unshared (view : Hidden → Copies) (run : AttributeRun Hidden) (call : AttributeCall) : Prop :=
  call.operation.stores call.now run.attributes = run.attributes ∨
    ∀ file, file ≠ call.file → (view run.hidden).copies file = none

/-- The disk and the open handles have the attributes. -/
structure Current (view : Hidden → Copies) (format : BitVec 16) (run : AttributeRun Hidden) :
    Prop where
  stored : attributesOf (view run.hidden).stored = run.attributes
  copied : ∀ file copy, (view run.hidden).copies file = some copy →
    attributesOf copy = run.attributes
  typed : run.attributes.mode &&& LINUX_S_IFMT = format

variable {format : BitVec 16} {run run' : AttributeRun Hidden} {call : AttributeCall}

theorem agrees_of_current (honoured : ∀ now, (copying ino now).Honoured (library now) view)
    (current : Current view format run) : Agrees library view format run := by
  refine ⟨?_, current.stored, current.typed⟩
  intro file isOpen field value reported now
  obtain ⟨copy, opened⟩ := Option.ne_none_iff_exists'.mp isOpen
  rw [← current.copied file copy opened] at reported
  exact run_of_wp (honoured now) (accessor_copying opened reported)

theorem step_spec (honoured : ∀ now, (copying ino now).Honoured (library now) view)
    (taken : run.step library view call = some run') :
    run'.attributes = call.operation.stores call.now run.attributes ∧
      ∃ inode, attributesOf inode =
          call.operation.stores call.now (attributesOf (view run.hidden).stored) ∧
        view run'.hidden = { stored := inode
                             copies := Function.update (view run.hidden).copies call.file
                               (some inode) } := by
  rw [AttributeRun.step] at taken
  cases opened : (view run.hidden).copies call.file with
  | none =>
      rw [opened] at taken
      cases taken
  | some copy =>
      rw [opened] at taken
      rw [← Option.some.inj taken]
      exact ⟨rfl, run_of_wp (honoured call.now) (routine_copying opened call.operation)⟩

/-- A call that shares nothing new leaves all handles current. -/
theorem current_step (honoured : ∀ now, (copying ino now).Honoured (library now) view)
    (current : Current view format run) (unshared : Unshared view run call)
    (taken : run.step library view call = some run') : Current view format run' := by
  obtain ⟨attributes, inode, changed, after⟩ := step_spec honoured taken
  rw [current.stored, ← attributes] at changed
  refine ⟨?_, ?_, ?_⟩
  · rw [after]
    exact changed
  · intro file copy opened
    rw [after] at opened
    dsimp only at opened
    by_cases here : file = call.file
    · rw [here, Function.update_self] at opened
      rw [← Option.some.inj opened]
      exact changed
    · have before : (view run.hidden).copies file = some copy := by
        rw [← opened]
        exact (@Function.update_of_ne _ _ _ _ _ here _ _).symm
      obtain same | alone := unshared
      · rw [attributes, same]
        exact current.copied file copy before
      · rw [alone file here] at before
        cases before
  · rw [attributes, stores_format]
    exact current.typed

/-- Any other call leaves a handle behind. -/
theorem stale_step (honoured : ∀ now, (copying ino now).Honoured (library now) view)
    (current : Current view format run) (shared : ¬Unshared view run call)
    (taken : run.step library view call = some run') : ¬Agrees library view format run' := by
  intro agrees
  obtain ⟨attributes, inode, changed, after⟩ := step_spec honoured taken
  rw [Unshared, not_or, not_forall] at shared
  obtain ⟨differs, file, others⟩ := shared
  rw [Classical.not_imp] at others
  obtain ⟨other, isOpen⟩ := others
  obtain ⟨copy, opened⟩ := Option.ne_none_iff_exists'.mp isOpen
  have kept : (view run'.hidden).copies file = some copy := by
    rw [after]
    exact (Function.update_of_ne other _ _).trans opened
  apply differs
  rw [← attributes, ← current.copied file copy opened]
  apply attributes_ext
  intro field
  have still : (view run'.hidden).copies file ≠ none := by
    rw [kept]
    exact Option.some_ne_none copy
  cases here : (attributesOf copy).reported field with
  | none => exact reported_none here run'.attributes
  | some held =>
      cases reported : run'.attributes.reported field with
      | none => exact (reported_none reported (attributesOf copy)).symm.trans here
      | some value =>
          have first := agrees.1 file still field value reported 0
          have second : ((field.routine file).run (library 0) run'.hidden).1 = held :=
            run_of_wp (honoured 0) (accessor_copying kept here)
          rw [← first, second]

/-- The handles agree in every state of exactly the runs whose calls share nothing new. -/
theorem handles_agree_iff (honoured : ∀ now, (copying ino now).Honoured (library now) view)
    (hidden : Hidden) (fresh : (view hidden).Fresh) {calls : List AttributeCall}
    {last : AttributeRun Hidden}
    (followed : follow (AttributeRun.step library view)
      { hidden := hidden, attributes := attributesOf (view hidden).stored } calls = some last) :
    Throughout (AttributeRun.step library view)
        (Agrees library view ((view hidden).stored.iMode &&& LINUX_S_IFMT))
        { hidden := hidden, attributes := attributesOf (view hidden).stored } calls ↔
      Along (AttributeRun.step library view) (Unshared view)
        { hidden := hidden, attributes := attributesOf (view hidden).stored } calls := by
  have initial : Current view ((view hidden).stored.iMode &&& LINUX_S_IFMT)
      { hidden := hidden, attributes := attributesOf (view hidden).stored } := by
    refine ⟨rfl, ?_, rfl⟩
    intro file copy opened
    exact congrArg attributesOf (fresh file copy opened)
  exact throughout_iff_along (fun _ current => agrees_of_current honoured current)
    (fun _ _ _ current unshared taken => current_step honoured current unshared taken)
    (fun _ _ _ current shared taken => stale_step honoured current shared taken) initial followed

/-- The library in memory does what libext2fs does with one inode. -/
theorem oneInode_honours (ino : Ino) (now : BitVec 32) :
    (copying ino now).Honoured (oneInode ino now) id := by
  intro call state
  have narrow : (now.setWidth 64).setWidth 32 = now := by
    rw [BitVec.setWidth_setWidth_of_le now (by decide), BitVec.setWidth_eq]
  cases call with
  | loadFile file =>
      refine ⟨rfl, ?_⟩
      intro copy opened
      show ({ ino := ino, inode := (state.copies file).getD Inode.zero } : Ext2File) = _
      rw [show state.copies file = some copy from opened]
      rfl
  | storeFileInode file inode => rfl
  | readInode target =>
      refine ⟨rfl, ?_⟩
      intro same
      exact if_pos same
  | writeInode target inode =>
      intro same
      show (oneInode ino now (.writeInode target inode) state).1 = 0 ∧
        (oneInode ino now (.writeInode target inode) state).2 = _
      rw [oneInode, if_pos same]
      exact ⟨rfl, rfl⟩
  | clockGettime => exact ⟨rfl, fun _ => narrow⟩
  | time => exact ⟨rfl, narrow⟩
  | _ => trivial

/-- An inode of a regular file that is open through some handles. -/
def openThrough (files : List Ptr) : Copies where
  stored := Volume.record (LINUX_S_IFREG ||| 0o644#16) 1
  copies file := if file ∈ files then some (Volume.record (LINUX_S_IFREG ||| 0o644#16) 1) else none

theorem openThrough_fresh (files : List Ptr) : (openThrough files).Fresh := by
  intro file copy opened
  rw [openThrough] at opened
  dsimp only at opened
  by_cases listed : file ∈ files
  · rw [if_pos listed] at opened
    exact (Option.some.inj opened).symm
  · rw [if_neg listed] at opened
    cases opened

/-- The only handle stores a mode and an access time. -/
theorem handles_agree_alone :
    Throughout (AttributeRun.step (oneInode 12) id)
      (Agrees (oneInode 12) id ((openThrough [1]).stored.iMode &&& LINUX_S_IFMT))
      { hidden := openThrough [1], attributes := attributesOf (openThrough [1]).stored }
      [⟨1, .chmod 0o600, 0⟩, ⟨1, .updateXtime true false false, 7⟩] := by
  apply (handles_agree_iff (oneInode_honours 12) (openThrough [1]) (openThrough_fresh [1]) rfl).mpr
  have alone (file : Ptr) (other : file ≠ 1) : (openThrough [1]).copies file = none := by
    exact if_neg (by simpa using other)
  refine ⟨.inr alone, ?_⟩
  intro run taken
  refine ⟨.inr ?_, fun _ _ => trivial⟩
  intro file other
  rw [← Option.some.inj taken]
  exact (@Function.update_of_ne _ _ _ _ _ other _ _).trans (alone file other)

/-- A handle reports the mode from before another handle stored a new one. -/
theorem second_handle_stale :
    ¬∀ (hidden : Copies) (calls : List AttributeCall) (last : AttributeRun Copies),
      hidden.Fresh → follow (AttributeRun.step (oneInode 12) id)
        { hidden := hidden, attributes := attributesOf hidden.stored } calls = some last →
      Throughout (AttributeRun.step (oneInode 12) id)
        (Agrees (oneInode 12) id (hidden.stored.iMode &&& LINUX_S_IFMT))
        { hidden := hidden, attributes := attributesOf hidden.stored } calls := by
  intro agree
  have throughout := agree (openThrough [1, 2]) [⟨1, .chmod 0o600, 0⟩] _
    (openThrough_fresh [1, 2]) rfl
  have reported := (throughout.2 _ rfl).1 2 (by decide) .iMode _ rfl 0
  exact absurd reported (by decide)

end NodeExt2fs.Handles
