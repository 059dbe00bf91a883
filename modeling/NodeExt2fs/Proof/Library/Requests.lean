import NodeExt2fs.Construction.Glue.Links
import NodeExt2fs.Construction.Glue.Rename

/-!
This file says which calls the parts of the operations can make.
-/

namespace NodeExt2fs.Library
open Programs Glue
open Program (Only only_pure only_perform only_bind only_ite wp wp_bind wp_ite wp_mono may may_bind may_mono)

/-- The calls that look up, read and write inodes, and those that touch no name, no inode bitmap and
no open file. -/
def upkeep : Call → Bool
  | .link _ _ _ _ | .unlink _ _ | .mkdir _ _ _ | .symlink _ _ _ | .expandDir _ | .dirIterate _ _
  | .inodeAllocStats _ _ _ | .freeExtAttr _ _ | .punch _ _ | .fileOpen _ _ | .fileSetSize _ _
  | .fileWrite _ _ _ | .fileFlush _ | .fileClose _ | .storeFileInode _ _ => false
  | _ => true

/-- The lookups of paths. -/
def looksUp : Call → Bool
  | .namei _ | .nameiFollow _ => true
  | _ => false

/-- The calls of the upkeep that are no lookups. -/
def records (call : Call) : Bool := upkeep call && !looksUp call

theorem only_call {holds : Call → Prop} (call : Call) (listed : holds call) :
    call.perform.Only holds :=
  (only_perform call).mpr listed

/-- A translation may mark the filesystem as broken. -/
theorem translateError_marks {holds : Call → Prop} (marks : holds .markSuperDirty)
    (flushes : holds .flush) (err : Errcode) : (translateError err).Only holds := by
  unfold translateError
  apply only_ite
  · trivial
  · generalize translateCode err = translation
    obtain ⟨ret, isErr⟩ := translation
    apply only_ite
    · apply only_bind (only_call .markSuperDirty marks)
      intro _
      exact only_bind (only_call .flush flushes) fun _ => trivial
    · trivial

/-- A translated error is no success, and keeps what its calls keep. -/
theorem wp_translateError {State : Type} {contract : Contract Call Answer State} (kept : State → Prop)
    (calls : ∀ call, call = .markSuperDirty ∨ call = .flush → ∀ state, kept state →
      contract.permits state call ∧
        ∀ answer state', contract.allows state call answer state' → kept state')
    {err : Errcode} (failed : err ≠ 0) {state : State} (holds : kept state) :
    wp contract (translateError err) (fun ret after => ret ≠ 0 ∧ kept after) state := by
  unfold translateError
  rw [wp_ite]
  refine ⟨fun _ => ⟨Int.natCast_ne_zero.mpr failed, holds⟩, fun _ => ?_⟩
  have negative : (translateCode err).1 ≠ 0 := ne_of_lt (translateCode_neg err)
  generalize translateCode err = translation at negative
  obtain ⟨ret, isErr⟩ := translation
  rw [wp_ite]
  refine ⟨fun _ => ?_, fun _ => ⟨negative, holds⟩⟩
  obtain ⟨permitted, marked⟩ := calls .markSuperDirty (.inl rfl) state holds
  rw [wp_bind]
  refine ⟨permitted, fun _ state₁ allowed => ?_⟩
  obtain ⟨permitted, flushed⟩ := calls .flush (.inr rfl) state₁ (marked _ _ allowed)
  change wp contract (ext2fsFlush >>= fun _ => pure ret) _ state₁
  rw [wp_bind]
  exact ⟨permitted, fun _ state₂ allowed => ⟨negative, flushed _ _ allowed⟩⟩

theorem getNow_clocks {holds : Call → Prop} (clocks : holds .clockGettime) (times : holds .time) :
    getNow.Only holds := by
  unfold getNow
  apply only_bind (only_call .clockGettime clocks)
  intro answer
  apply only_ite
  · trivial
  · exact only_bind (only_call .time times) fun _ => trivial

/-- A retry makes the same calls after an expansion. -/
theorem expanding_only {holds : Call → Prop} {dir : Ino} (expands : holds (.expandDir dir))
    {attempt : Routine Errcode}
    (tries : attempt.Only holds) : (expanding dir attempt).Only holds := by
  rw [expanding]
  apply only_bind tries
  intro err
  apply only_ite
  · apply only_bind (only_call (.expandDir dir) expands)
    intro err
    apply only_ite
    · trivial
    · exact tries
  · trivial

/-- The end of `node_ext2fs_open` opens the inode, and empties the file when asked to. -/
def openInode (flags : BitVec 32) (ino : Ino) : Routine Int := do
  let (ret, file) ← ext2fsFileOpen ino (translateOpenFlags flags)
  if ret ≠ 0 then
    return -ret
  if hasFlag flags O_TRUNC then
    let ret ← ext2fsFileSetSize file 0
    if ret ≠ 0 then
      return -ret
  return file

/-- What `node_ext2fs_open` does with the inode that it found or created. -/
def openFound (flags : BitVec 32) (found : Int × Ino) : Routine Int := do
  if found.1 ≠ 0 then
    return found.1
  if hasFlag flags O_DIRECTORY then
    if (← ext2fsCheckDirectory found.2) ≠ 0 then
      return -ENOTDIR
  openInode flags found.2

theorem nodeExt2fsOpen_eq (path : Path) (flags mode : BitVec 32) :
    nodeExt2fsOpen path flags mode = findOrCreate path flags mode >>= openFound flags := rfl

/-- What `chmod` and `chown` do: the inode of an open file is read, changed and stored. -/
def changeInode (file : Ptr) (change : Inode → Inode) : Routine Int := do
  let handle ← loadFile file
  let (ret, inode) ← ext2fsReadInode handle.ino
  if ret ≠ 0 then
    return -ret
  storeFileInode file (change inode)
  let ret ← ext2fsWriteInode handle.ino (change inode)
  return -ret

theorem nodeExt2fsChmod_eq (file : Ptr) (mode : BitVec 32) :
    nodeExt2fsChmod file mode = changeInode file fun inode => incrementVersion
      { inode with
        iMode := inode.iMode &&& LINUX_S_IFMT ||| (mode.setWidth 16 &&& ~~~LINUX_S_IFMT) } := rfl

theorem nodeExt2fsChown_eq (file : Ptr) (uid gid : BitVec 32) :
    nodeExt2fsChown file uid gid = changeInode file fun inode => incrementVersion
      { inode with iUid := uid.setWidth 16, iGid := gid.setWidth 16 } := rfl

/-- A step that ends its routine where it fails. -/
def continuing (step next : Routine Int) : Routine Int := do
  let ret ← step
  if ret ≠ 0 then
    return ret
  next

theorem continuing_only {holds : Call → Prop} {step next : Routine Int} (first : step.Only holds)
    (rest : next.Only holds) : (continuing step next).Only holds := by
  rw [continuing]
  exact only_bind first fun _ => only_ite trivial rest

theorem wp_continuing {State : Type} {contract : Contract Call Answer State} {step next : Routine Int}
    {post : Int → State → Prop} {state : State}
    (steps : wp contract step (fun ret state' => (ret ≠ 0 → post ret state') ∧
      (ret = 0 → wp contract next post state')) state) :
    wp contract (continuing step next) post state := by
  rw [continuing, wp_bind]
  apply wp_mono steps
  intro ret state' outcome
  rw [wp_ite]
  exact ⟨outcome.1, fun fine => outcome.2 (not_not.mp fine)⟩

theorem may_continuing {State : Type} {contract : Contract Call Answer State}
    {step next : Routine Int} {post : Int → State → Prop} {state : State}
    (steps : may contract step (fun ret state' => ret = 0 ∧ may contract next post state') state) :
    may contract (continuing step next) post state := by
  rw [continuing, may_bind]
  apply may_mono steps
  intro ret state' outcome
  rw [if_neg (not_not.mpr outcome.1)]
  exact outcome.2

/-- "Directories have to be 'removed' twice." -/
def removeTwice (ino : Ino) (next : Routine Int) : Routine Int :=
  continuing (removeInode ino) (continuing (removeInode ino) next)

/-- What `rmdir` does with a directory that it found empty. -/
def removeEmptied (path : Path) (child parent : Ino) : Routine Int :=
  continuing (unlinkFileByName path)
    (removeTwice child (if parent ≠ 0 then dropParentLink parent else return 0))

/-- The calls that find an inode, or fill in a new one. -/
def makes : Call → Bool
  | .namei _ | .nameiFollow _ | .newInode _ _ | .checkDirectory _ | .testInodeBitmap _ | .time
  | .inodeSizeSet _ _ | .hasFeatureInlineData | .hasFeatureExtents | .extentOpen _ _ | .extentFree
  | .writeNewInode _ _ | .inlineDataInit _ => true
  | _ => false

section Making

variable {holds : Call → Prop} (basic : ∀ call, makes call = true → holds call)
include basic

theorem only_making (call : Call) (listed : makes call = true) : call.perform.Only holds :=
  only_call call (basic call listed)

theorem chooseLayout_only (ino : Ino) (inode : Inode) : (chooseLayout ino inode).Only holds := by
  unfold chooseLayout
  apply only_bind (only_making basic .hasFeatureInlineData rfl)
  intro inline
  apply only_ite
  · trivial
  · apply only_bind (only_making basic .hasFeatureExtents rfl)
    intro extents
    apply only_ite
    · apply only_bind (only_making basic (.extentOpen _ _) rfl)
      intro answer
      apply only_ite
      · trivial
      · exact only_bind (only_making basic .extentFree rfl) fun _ => trivial
    · trivial

theorem fillFile_only (ino : Ino) (mode : BitVec 32)
    (marks : holds (.inodeAllocStats ino 1 false)) : (fillFile ino mode).Only holds := by
  unfold fillFile
  apply only_bind (only_making basic (.testInodeBitmap ino) rfl)
  intro _
  apply only_bind (only_call (.inodeAllocStats ino 1 false) marks)
  intro _
  apply only_bind (only_making basic .time rfl)
  intro now
  apply only_bind (only_making basic (.inodeSizeSet _ _) rfl)
  intro sized
  apply only_ite
  · trivial
  · apply only_bind (chooseLayout_only basic _ _)
    intro layout
    apply only_ite
    · trivial
    · apply only_bind (only_making basic (.writeNewInode _ _) rfl)
      intro code
      apply only_ite
      · trivial
      · apply only_ite
        · exact only_making basic (.inlineDataInit _) rfl
        · trivial

theorem stringToInode_only (str : Path) (follow : Bool) : (stringToInode str follow).Only holds := by
  unfold stringToInode
  cases follow with
  | true =>
      apply only_bind (only_making basic (.nameiFollow str) rfl)
      exact fun answer => only_ite trivial trivial
  | false =>
      apply only_bind (only_making basic (.namei str) rfl)
      exact fun answer => only_ite trivial trivial

theorem getParentDirIno_only (path : Path) : (getParentDirIno path).Only holds := by
  unfold getParentDirIno
  cases strrchr path with
  | none => trivial
  | some split => exact stringToInode_only basic _ _

/-- The calls that add an inode and its name. -/
structure Adds (holds : Call → Prop) : Prop where
  expandDir : ∀ dir, holds (.expandDir dir)
  link : ∀ dir name ino fileType, holds (.link dir name ino fileType)
  allocStats : ∀ ino, holds (.inodeAllocStats ino 1 false)

theorem createFile_only (adds : Adds holds) (path : Path) (mode : BitVec 32) :
    (createFile path mode).Only holds := by
  rw [createFile]
  apply only_bind (getParentDirIno_only basic path)
  intro parentIno
  apply only_ite
  · trivial
  · apply only_bind (only_making basic (.newInode parentIno mode) rfl)
    intro new
    apply only_ite
    · trivial
    · cases getFilename path with
      | none => trivial
      | some filename =>
          have links : (ext2fsLink parentIno filename new.2 EXT2_FT_REG_FILE).Only holds :=
            only_call (.link _ _ _ _) (adds.link _ _ _ _)
          apply only_bind (expanding_only (adds.expandDir parentIno) links)
          intro ret
          apply only_ite
          · trivial
          · exact only_bind (fillFile_only basic new.2 mode (adds.allocStats new.2))
              fun _ => trivial

theorem findOrCreate_only (adds : Adds holds) (path : Path) (flags mode : BitVec 32) :
    (findOrCreate path flags mode).Only holds := by
  rw [findOrCreate]
  apply only_bind (stringToInode_only basic path _)
  intro ino
  apply only_ite
  · apply only_ite
    · trivial
    · apply only_bind (createFile_only basic adds path mode)
      intro created
      apply only_ite
      · trivial
      · trivial
  · apply only_ite
    · trivial
    · trivial

theorem openFound_only (opens : ∀ ino flags, holds (.fileOpen ino flags))
    (truncates : ∀ file, holds (.fileSetSize file 0)) (flags : BitVec 32) (found : Int × Ino) :
    (openFound flags found).Only holds := by
  have opened : (openInode flags found.2).Only holds := by
    rw [openInode]
    apply only_bind (only_call (.fileOpen found.2 _) (opens _ _))
    intro answer
    apply only_ite
    · trivial
    · apply only_ite
      · apply only_bind (only_call (.fileSetSize answer.2 0) (truncates _))
        exact fun code => only_ite trivial trivial
      · trivial
  rw [openFound]
  apply only_ite
  · trivial
  · apply only_ite
    · apply only_bind (only_making basic (.checkDirectory found.2) rfl)
      intro code
      apply only_ite
      · trivial
      · exact opened
    · exact opened

end Making

section Records

variable {holds : Call → Prop} (basic : ∀ call, records call = true → holds call)
include basic

theorem only_record (call : Call) (listed : records call = true) : call.perform.Only holds :=
  only_call call (basic call listed)

theorem translateError_only (err : Errcode) : (translateError err).Only holds :=
  translateError_marks (basic _ rfl) (basic _ rfl) err

theorem getNow_only : getNow.Only holds := getNow_clocks (basic _ rfl) (basic _ rfl)

/-- A routine may end with a translated code. -/
theorem failing_only {A : Type} (err : Errcode) (result : Int → A) :
    (translateError err >>= fun ret => pure (result ret) : Routine A).Only holds :=
  only_bind (translateError_only basic err) fun _ => trivial

theorem updateCtime_only (ino : Ino) (pinode : Option InodeLarge) :
    (updateCtime ino pinode).Only holds := by
  unfold updateCtime
  apply only_bind (getNow_only basic)
  intro now
  cases pinode with
  | some pinode => trivial
  | none =>
      apply only_bind (only_record basic (.readInodeFull ino) rfl)
      intro answer
      apply only_ite
      · exact failing_only basic _ _
      · apply only_bind (only_record basic (.writeInodeFull ino _) rfl)
        intro code
        apply only_ite
        · exact failing_only basic _ _
        · trivial

theorem updateMtime_only (ino : Ino) (pinode : Option InodeLarge) :
    (updateMtime ino pinode).Only holds := by
  unfold updateMtime
  cases pinode with
  | some pinode => exact only_bind (getNow_only basic) fun _ => trivial
  | none =>
      apply only_bind (only_record basic (.readInodeFull ino) rfl)
      intro answer
      apply only_ite
      · exact failing_only basic _ _
      · apply only_bind (getNow_only basic)
        intro now
        apply only_bind (only_record basic (.writeInodeFull ino _) rfl)
        intro code
        apply only_ite
        · exact failing_only basic _ _
        · trivial

theorem writeOut_only (ino : Ino) (inode : InodeLarge) (ret : Int) :
    (writeOut ino inode ret).Only holds := by
  unfold writeOut
  apply only_bind (only_record basic (.writeInodeFull ino inode) rfl)
  intro code
  apply only_ite
  · exact translateError_only basic _
  · trivial

theorem takeLink_only (inode : InodeLarge) : (takeLink inode).Only holds := by
  unfold takeLink
  apply only_ite
  · exact only_bind (only_record basic .time rfl) fun _ => trivial
  · trivial

theorem dropParentLink_only (parent : Ino) : (dropParentLink parent).Only holds := by
  unfold dropParentLink
  apply only_bind (only_record basic (.readInodeFull parent) rfl)
  intro answer
  apply only_ite
  · exact translateError_only basic _
  · apply only_bind (updateMtime_only basic _ _)
    intro updated
    apply only_ite
    · trivial
    · apply only_bind (only_record basic (.writeInodeFull parent _) rfl)
      intro code
      apply only_ite
      · exact translateError_only basic _
      · trivial

theorem renameCount_only (dirIno : Ino) (change : BitVec 16) :
    (renameCount dirIno change).Only holds := by
  unfold renameCount
  apply only_bind (only_record basic (.readInode dirIno) rfl)
  intro answer
  apply only_ite
  · exact translateError_only basic _
  · apply only_bind (only_record basic (.writeInode dirIno _) rfl)
    intro code
    apply only_ite
    · exact translateError_only basic _
    · trivial

theorem punchBlocks_only (ino : Ino) (punches : ∀ inode, holds (.punch ino inode))
    (inode : InodeLarge) :
    (punchBlocks ino inode).Only holds := by
  unfold punchBlocks
  apply only_bind (only_record basic (.inodeHasValidBlocks _) rfl)
  intro valid
  apply only_ite
  · apply only_bind (only_call (.punch ino _) (punches inode.toInode))
    exact fun _ => trivial
  · trivial

/-- The calls that free an inode. -/
structure Frees (holds : Call → Prop) (ino : Ino) : Prop where
  freeExtAttr : ∀ inode, holds (.freeExtAttr ino inode)
  punch : ∀ inode, holds (.punch ino inode)
  allocStats : ∀ isdir, holds (.inodeAllocStats ino (-1) isdir)

theorem freeInode_only (ino : Ino) (frees : Frees holds ino) (inode : InodeLarge) :
    (freeInode ino inode).Only holds := by
  unfold freeInode
  apply only_bind (only_call (.freeExtAttr ino _) (frees.freeExtAttr inode))
  intro freed
  apply only_ite
  · exact writeOut_only basic _ _ _
  · apply only_bind (punchBlocks_only basic ino frees.punch _)
    intro punched
    apply only_ite
    · apply only_bind (translateError_only basic _)
      exact fun ret => writeOut_only basic _ _ _
    · apply only_bind (only_call (.inodeAllocStats ino _ _) (frees.allocStats _))
      exact fun _ => writeOut_only basic _ _ _

theorem removeInode_only (ino : Ino) (frees : Frees holds ino) :
    (removeInode ino).Only holds := by
  unfold removeInode
  apply only_bind (only_record basic (.readInodeFull ino) rfl)
  intro answer
  apply only_ite
  · exact translateError_only basic _
  · apply only_ite
    · trivial
    · apply only_bind (takeLink_only basic _)
      intro inode
      apply only_bind (updateCtime_only basic ino _)
      intro updated
      apply only_ite
      · trivial
      · apply only_ite
        · exact writeOut_only basic _ _ _
        · exact freeInode_only basic ino frees _

theorem renameDotdot_only (iterates : ∀ dir proc, holds (.dirIterate dir proc))
    (fromIno fromDirIno toDirIno : Ino) :
    (renameDotdot fromIno fromDirIno toDirIno).Only holds := by
  unfold renameDotdot
  apply only_bind (only_record basic (.readInode fromIno) rfl)
  intro answer
  apply only_ite
  · exact translateError_only basic _
  · apply only_ite
    · apply only_bind (only_call (.dirIterate fromIno _) (iterates fromIno _))
      intro iterated
      apply only_ite
      · exact translateError_only basic _
      · apply only_bind (renameCount_only basic _ _)
        intro ret
        apply only_ite
        · trivial
        · exact renameCount_only basic _ _
    · trivial

theorem unlinkName_only (erases : ∀ dir name, holds (.unlink dir name)) (dir : Ino) (name : Name) :
    (unlinkName dir name).Only holds := by
  unfold unlinkName
  apply only_bind (only_call (.unlink dir name) (erases dir name))
  intro code
  apply only_ite
  · exact translateError_only basic _
  · exact only_bind (updateMtime_only basic dir none) fun _ => trivial

end Records

section Upkeep

variable {holds : Call → Prop} (basic : ∀ call, upkeep call = true → holds call)
include basic

theorem records_basic (call : Call) (listed : records call = true) : holds call :=
  basic call (Bool.and_eq_true_iff.mp listed).1

/-- What makes inodes is part of the upkeep. -/
theorem makes_basic (call : Call) (listed : makes call = true) : holds call := by
  apply basic
  cases call <;> first | rfl | cases listed

theorem only_upkeep (call : Call) (listed : upkeep call = true) : call.perform.Only holds :=
  only_call call (basic call listed)

theorem rewriteChild_only (dest : Path) : (rewriteChild dest).Only holds := by
  unfold rewriteChild
  apply only_bind (only_upkeep basic (.namei dest) rfl)
  intro found
  apply only_ite
  · exact translateError_only (records_basic basic) _
  · apply only_bind (only_upkeep basic (.readInodeFull _) rfl)
    intro answer
    apply only_ite
    · exact translateError_only (records_basic basic) _
    · apply only_bind (only_upkeep basic (.writeInodeFull _ _) rfl)
      intro code
      apply only_ite
      · exact translateError_only (records_basic basic) _
      · trivial

section Storing

variable {file : Ptr} (stores : ∀ inode, holds (.storeFileInode file inode))
include stores

theorem updateXtime_only (a c m : Bool) : (updateXtime file a c m).Only holds := by
  rw [updateXtime]
  apply only_bind (only_upkeep basic (.loadFile file) rfl)
  intro handle
  apply only_bind (only_upkeep basic (.readInode handle.ino) rfl)
  intro answer
  apply only_ite
  · trivial
  · apply only_bind (getNow_only (records_basic basic))
    intro now
    apply only_bind (only_call (.storeFileInode file _) (stores _))
    intro _
    exact only_upkeep basic (.writeInode handle.ino _) rfl

theorem changeInode_only (change : Inode → Inode) : (changeInode file change).Only holds := by
  rw [changeInode]
  apply only_bind (only_upkeep basic (.loadFile file) rfl)
  intro handle
  apply only_bind (only_upkeep basic (.readInode handle.ino) rfl)
  intro answer
  apply only_ite
  · trivial
  · apply only_bind (only_call (.storeFileInode file _) (stores _))
    intro _
    exact only_bind (only_upkeep basic (.writeInode handle.ino _) rfl) fun _ => trivial

theorem nodeExt2fsChmod_only (mode : BitVec 32) : (nodeExt2fsChmod file mode).Only holds := by
  rw [nodeExt2fsChmod_eq]
  exact changeInode_only basic stores _

theorem nodeExt2fsChown_only (uid gid : BitVec 32) : (nodeExt2fsChown file uid gid).Only holds := by
  rw [nodeExt2fsChown_eq]
  exact changeInode_only basic stores _

theorem nodeExt2fsRead_only (flags : BitVec 32) (buffer : Ptr) (length position : BitVec 32) :
    (nodeExt2fsRead file flags buffer length position).Only holds := by
  have sought : (seekForRead file position).Only holds := by
    rw [seekForRead]
    apply only_ite
    · exact only_upkeep basic (.fileLlseek file _ _) rfl
    · trivial
  have stamped : (stampRead file flags).Only holds := by
    rw [stampRead]
    apply only_ite
    · exact updateXtime_only basic stores true false false
    · trivial
  rw [nodeExt2fsRead]
  apply only_ite
  · trivial
  · apply only_bind sought
    intro ret
    apply only_ite
    · trivial
    · apply only_bind (only_upkeep basic (.fileRead file buffer length) rfl)
      intro answer
      apply only_ite
      · trivial
      · apply only_bind stamped
        intro ret
        apply only_ite
        · trivial
        · trivial

theorem nodeExt2fsWrite_only (flags : BitVec 32) (buffer : Ptr) (length position : BitVec 32)
    (writes : holds (.fileWrite file buffer length)) (flushes : holds (.fileFlush file)) :
    (nodeExt2fsWrite file flags buffer length position).Only holds := by
  have sought : (seekForWrite file flags position).Only holds := by
    rw [seekForWrite]
    apply only_ite
    · exact only_upkeep basic (.fileLlseek file _ _) rfl
    · apply only_ite
      · exact only_upkeep basic (.fileLlseek file _ _) rfl
      · trivial
  have stamped : (stampWritten file flags).Only holds := by
    rw [stampWritten]
    apply only_ite
    · exact updateXtime_only basic stores false true true
    · trivial
  have flushed (written : BitVec 32) : (flushWritten file written).Only holds := by
    rw [flushWritten]
    apply only_bind (only_call (.fileFlush file) flushes)
    intro ret
    apply only_ite
    · exact only_bind (translateError_only (records_basic basic) ret) fun _ => trivial
    · trivial
  rw [nodeExt2fsWrite]
  apply only_ite
  · trivial
  · apply only_bind sought
    intro ret
    apply only_ite
    · trivial
    · apply only_bind (only_call (.fileWrite file buffer length) writes)
      intro answer
      apply only_ite
      · trivial
      · apply only_bind stamped
        intro ret
        apply only_ite
        · trivial
        · exact flushed answer.2

end Storing

section Erasing

variable (erases : ∀ dir name, holds (.unlink dir name))
include erases

theorem unlinkFileByName_only (path : Path) :
    (unlinkFileByName path).Only holds := by
  unfold unlinkFileByName
  cases strrchr path with
  | none => exact unlinkName_only (records_basic basic) erases _ _
  | some split =>
      apply only_bind (only_upkeep basic (.namei split.1) rfl)
      intro answer
      apply only_ite
      · exact translateError_only (records_basic basic) _
      · exact unlinkName_only (records_basic basic) erases _ _

theorem renameFinish_only (fromIno toDirIno : Ino) (fromPath : Path) :
    (renameFinish fromIno toDirIno fromPath).Only holds := by
  unfold renameFinish
  apply only_bind (updateCtime_only (records_basic basic) fromIno none)
  intro stamped
  apply only_ite
  · trivial
  · apply only_bind (updateMtime_only (records_basic basic) toDirIno none)
    intro modified
    apply only_ite
    · trivial
    · apply only_bind (unlinkFileByName_only basic erases fromPath)
      intro ret
      apply only_ite
      · trivial
      · apply only_bind (only_upkeep basic .flush2 rfl)
        intro code
        apply only_ite
        · exact translateError_only (records_basic basic) _
        · trivial

end Erasing

end Upkeep

end NodeExt2fs.Library
