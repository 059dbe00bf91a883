import NodeExt2fs.Proof.Directories.Still
import NodeExt2fs.Proof.Library.Effects

/-!
This file says when the operations on files change no directory.
-/

namespace NodeExt2fs.Directories
open Programs Glue Library
open Program (wp wp_pure wp_bind wp_ite wp_mono Only only_bind only_ite)

variable {resolver : Resolver} {steady : Prop} {first : Volume} {owned : Ptr → Prop}
  {state : Buffered}

theorem getNow_idle : wp (buffering resolver steady) getNow (fun _ after => after = state) state := by
  rw [getNow, wp_bind]
  apply wp_buffering .clockGettime
  intro answer after volume dirty
  have same : after = state := Buffered.ext volume dirty
  rw [wp_ite]
  apply And.intro
  · intro _
    exact same
  · intro _
    rw [wp_bind]
    apply wp_buffering .time
    intro now last volume dirty
    exact (Buffered.ext volume dirty : last = after).trans same

/-- The inode of an open file is read, and what is stored is the same kind of file. -/
def Kind (first state : Volume) (file : Ptr) (ino : Ino) (inode : Inode) : Prop :=
  (∀ handle, state.files file = some handle → handle.ino = ino) ∧
    linuxSIsdir inode.iMode = first.isDir ino

/-- A handle gets a copy of the inode, and the inode is written. -/
theorem store_still (still : Still first owned state) {file : Ptr} {ino : Ino} {inode : Inode}
    (kind : Kind first state.volume file ino inode) :
    wp (buffering resolver steady) (storeFileInode file inode >>= fun _ => ext2fsWriteInode ino inode)
      (fun _ after => Still first owned after) state := by
  rw [wp_bind]
  apply wp_buffering (.storeFileInode file inode)
  intro _ stored volume dirty
  have opened {other : Ptr} {handle : Handle} (found : stored.volume.files other = some handle) :
      ∃ before, state.volume.files other = some before ∧ before.ino = handle.ino ∧
        (other = file → handle.mode = inode.iMode) ∧
        (other ≠ file → handle.mode = before.mode) := by
    rw [show stored.volume = _ from volume, Volume.setFile] at found
    by_cases same : other = file
    · rw [same] at found ⊢
      simp only [Function.update_self] at found
      obtain ⟨before, there, changed⟩ := Option.map_eq_some_iff.mp found
      rw [← changed]
      exact ⟨before, there, rfl, fun _ => rfl, fun other => absurd rfl other⟩
    · simp only [Function.update_of_ne same] at found
      exact ⟨handle, found, rfl, fun here => absurd here same, fun _ => rfl⟩
  have kept : Still first owned stored := by
    constructor
    · rw [show stored.volume = _ from volume]
      exact still.entries
    · rw [show stored.volume = _ from volume]
      exact still.kinds
    · intro other mine handle found
      obtain ⟨before, there, ino', here, elsewhere⟩ := opened found
      by_cases same : other = file
      · rw [here same, kind.2, ← ino', kind.1 before (same ▸ there)]
      · rw [elsewhere same, ← ino']
        exact still.copies other mine before there
    · intro other mine handle found directory
      obtain ⟨before, there, ino', _⟩ := opened found
      rw [show stored.dirty = _ from dirty]
      exact still.clean other mine before there (by rw [ino']; exact directory)
  apply wp_buffering (.writeInode ino inode)
  intro code after wrote dirty
  have kinds : linuxSIsdir inode.iMode = stored.volume.isDir ino := kind.2.trans (kept.kinds ino).symm
  have unchanged (same : after.volume = stored.volume.written ino inode.iMode inode.iLinksCount) :
      Still first owned after := by
    refine kept.congr (by rw [same]; rfl) ?_ (by rw [same]; rfl) dirty
    rw [same]
    exact isDir_written inode.iLinksCount kinds
  rcases wrote with ⟨_, same⟩ | ⟨_, _, same | same⟩
  · exact unchanged same
  · exact kept.same same dirty
  · exact unchanged same

/-- The routines that read the inode of an open file, change it and store it. -/
theorem stores_still (still : Still first owned state) (file : Ptr) {A : Type}
    {next : Ext2File → Errcode × Inode → Routine A}
    (rest : ∀ handle answer, (answer.1 = 0 → Kind first state.volume file handle.ino answer.2) →
      wp (buffering resolver steady) (next handle answer) (fun _ after => Still first owned after)
        state) :
    wp (buffering resolver steady)
      (loadFile file >>= fun handle => ext2fsReadInode handle.ino >>= fun answer => next handle answer)
      (fun _ after => Still first owned after) state := by
  rw [wp_bind]
  apply wp_buffering (.loadFile file)
  intro handle loaded allowed dirty
  obtain ⟨volume, record⟩ := allowed
  rw [show loaded = state from Buffered.ext volume dirty, wp_bind]
  apply wp_buffering (.readInode handle.ino)
  intro answer after allowed dirty
  obtain ⟨volume, read, _⟩ := allowed
  rw [show after = state from Buffered.ext volume dirty]
  apply rest
  intro fine
  refine ⟨fun opened found => (record opened found).1.symm, ?_⟩
  rw [(read fine).1]
  exact still.kinds handle.ino

theorem updateXtime_still (still : Still first owned state) (file : Ptr) (a c m : Bool) :
    wp (buffering resolver steady) (updateXtime file a c m) (fun _ after => Still first owned after)
      state := by
  rw [updateXtime]
  apply stores_still still file
  intro handle answer kind
  rw [wp_ite]
  apply And.intro
  · intro _
    exact still
  · intro fine
    rw [wp_bind]
    apply wp_mono getNow_idle
    intro now after same
    rw [same]
    exact store_still still (kind (not_not.mp fine))

/-- A change of an inode that leaves it the kind of file that it is changes no directory. -/
theorem changeInode_still (still : Still first owned state) (file : Ptr) {change : Inode → Inode}
    (keeps : ∀ inode, linuxSIsdir (change inode).iMode = linuxSIsdir inode.iMode) :
    wp (buffering resolver steady) (changeInode file change)
      (fun _ after => Still first owned after) state := by
  rw [changeInode]
  apply stores_still still file
  intro handle answer kind
  rw [wp_ite]
  apply And.intro
  · intro _
    exact still
  · intro fine
    obtain ⟨same, directory⟩ := kind (not_not.mp fine)
    have stored := @store_still resolver steady _ _ _ still file handle.ino (change answer.2)
      ⟨same, (keeps answer.2).trans directory⟩
    rw [wp_bind] at stored ⊢
    apply wp_mono stored
    intro _ after written
    rw [wp_bind]
    exact wp_mono written fun _ _ still => still

theorem nodeExt2fsChmod_still (still : Still first owned state) (file : Ptr) (mode : BitVec 32) :
    wp (buffering resolver steady) (nodeExt2fsChmod file mode)
      (fun _ after => Still first owned after) state := by
  rw [nodeExt2fsChmod_eq]
  apply changeInode_still still
  intro inode
  rw [linuxSIsdir, linuxSIsdir, incrementVersion, permissions_format]

theorem nodeExt2fsChown_still (still : Still first owned state) (file : Ptr) (uid gid : BitVec 32) :
    wp (buffering resolver steady) (nodeExt2fsChown file uid gid)
      (fun _ after => Still first owned after) state := by
  rw [nodeExt2fsChown_eq]
  exact changeInode_still still file fun _ => rfl

theorem nodeExt2fsRead_still (still : Still first owned state) (file : Ptr) (flags : BitVec 32)
    (buffer : Ptr) (length position : BitVec 32) :
    wp (buffering resolver steady) (nodeExt2fsRead file flags buffer length position)
      (fun _ after => Still first owned after) state := by
  rw [nodeExt2fsRead, wp_ite]
  refine ⟨fun _ => still, fun _ => ?_⟩
  have seeks : (seekForRead file position).Only (settling owned) := by
    rw [seekForRead]
    exact only_ite (only_call (.fileLlseek file _ _) trivial) trivial
  rw [wp_bind]
  apply wp_mono (wp_still seeks still)
  intro ret sought still
  rw [wp_ite]
  refine ⟨fun _ => still, fun _ => ?_⟩
  rw [wp_bind]
  apply wp_mono (wp_still (only_call (.fileRead file buffer length) trivial) still)
  intro answer got still
  rw [wp_ite]
  refine ⟨fun _ => still, fun _ => ?_⟩
  rw [stampRead, wp_bind, wp_ite]
  apply And.intro
  · intro _
    apply wp_mono (updateXtime_still still file true false false)
    intro err stamped still
    rw [wp_ite]
    exact ⟨fun _ => still, fun _ => still⟩
  · intro _
    rw [wp_pure, wp_ite]
    exact ⟨fun _ => still, fun _ => still⟩

/-- The current position is not kept in the volume. -/
theorem seekForWrite_idle (file : Ptr) (flags position : BitVec 32) :
    wp (buffering resolver steady) (seekForWrite file flags position) (fun _ after => after = state)
      state := by
  have seeks (offset : BitVec 64) (whence : Nat) : wp (buffering resolver steady)
      (ext2fsFileLlseek file offset whence) (fun _ after => after = state) state := by
    apply wp_buffering (.fileLlseek file offset whence)
    intro _ after volume dirty
    exact Buffered.ext volume dirty
  rw [seekForWrite, wp_ite]
  refine ⟨fun _ => seeks _ _, fun _ => ?_⟩
  rw [wp_ite]
  exact ⟨fun _ => seeks _ _, fun _ => rfl⟩

/-- A write to a directory has nothing to write, or a descriptor that is not open for writing. -/
theorem nodeExt2fsWrite_still (still : Still first owned state) {file : Ptr} (mine : owned file)
    (flags : BitVec 32) (buffer : Ptr) (length position : BitVec 32)
    (refused : hasFlag flags (O_WRONLY ||| O_RDWR) = true → ∀ handle,
      state.volume.files file = some handle → first.isDir handle.ino = true → length = 0) :
    wp (buffering resolver steady) (nodeExt2fsWrite file flags buffer length position)
      (fun _ after => Still first owned after) state := by
  rw [nodeExt2fsWrite, wp_ite]
  refine ⟨fun _ => still, fun writes => ?_⟩
  rw [wp_bind]
  apply wp_mono (seekForWrite_idle file flags position)
  intro ret sought same
  rw [same, wp_ite]
  refine ⟨fun _ => still, fun _ => ?_⟩
  rw [wp_bind]
  apply wp_buffering (.fileWrite file buffer length)
  intro answer after wrote buffered
  have written : Still first owned after := by
    refine @Still.wrote _ _ _ _ still file mine (fun _ _ => True) wrote buffered.1 ?_
    intro handle found directory
    have flagged : hasFlag flags (O_WRONLY ||| O_RDWR) = true := by
      simpa using writes
    obtain ⟨dirty, entries⟩ := buffered.2 (refused flagged handle found directory)
    rw [dirty]
    exact ⟨still.clean file mine handle found directory, entries⟩
  have flushed {last : Buffered} (still : Still first owned last) : wp (buffering resolver steady)
      (flushWritten file answer.2) (fun _ after => Still first owned after) last := by
    refine wp_still ?_ still
    rw [flushWritten]
    apply only_bind (only_call (.fileFlush file) mine)
    intro ret
    apply only_ite
    · exact only_bind (translateError_marks trivial trivial ret) fun _ => trivial
    · trivial
  rw [wp_ite]
  refine ⟨fun _ => written, fun _ => ?_⟩
  rw [stampWritten, wp_bind, wp_ite]
  apply And.intro
  · intro _
    apply wp_mono (updateXtime_still written file false true true)
    intro err stamped still
    rw [wp_ite]
    exact ⟨fun _ => still, fun _ => flushed still⟩
  · intro _
    rw [wp_pure, wp_ite]
    exact ⟨fun _ => written, fun _ => flushed written⟩

theorem found_of_resolved {result : Except Errcode Ino} {answer : Errcode × Ino}
    (resolved : Resolved steady result answer) (ino : Ino)
    (found : ino = if answer.1 ≠ 0 then 0 else answer.2) :
    (ino ≠ 0 → result = .ok ino) ∧ (steady → ∀ target, result = .ok target → ino = target) := by
  by_cases failed : answer.1 ≠ 0
  · rw [if_pos failed] at found
    refine ⟨fun bad => absurd found bad, ?_⟩
    intro holds target same
    rw [same] at resolved
    rcases resolved with ⟨fine, _⟩ | ⟨zero, _⟩
    · exact absurd fine failed
    · exact found.trans (zero holds).symm
  · rw [if_neg failed] at found
    have walked := (walk_of_resolved resolved (not_not.mp failed)).1
    rw [found]
    refine ⟨fun _ => walked, ?_⟩
    intro _ target same
    exact Except.ok.inj (walked.symm.trans same)

/-- A lookup reports what the path leads to, or zero. -/
theorem stringToInode_looks (path : Path) (flags : BitVec 32) :
    wp (buffering resolver steady) (stringToInode path (!hasFlag flags O_NOFOLLOW))
      (fun ino after => after = state ∧
        (ino ≠ 0 → resolver.lookedUp state.volume path flags = .ok ino) ∧
        (steady → ∀ target, resolver.lookedUp state.volume path flags = .ok target → ino = target))
      state := by
  rw [stringToInode, Resolver.lookedUp]
  cases !hasFlag flags O_NOFOLLOW with
  | true =>
      simp only [if_true, wp_bind]
      apply wp_buffering (.nameiFollow path)
      intro answer after looked dirty
      rw [wp_ite]
      exact ⟨fun failed => ⟨Buffered.ext looked.1 dirty,
          found_of_resolved looked.2 0 (if_pos failed).symm⟩,
        fun fine => ⟨Buffered.ext looked.1 dirty,
          found_of_resolved looked.2 answer.2 (if_neg fine).symm⟩⟩
  | false =>
      simp only [if_false, wp_bind, Bool.false_eq_true]
      apply wp_buffering (.namei path)
      intro answer after looked dirty
      rw [wp_ite]
      exact ⟨fun failed => ⟨Buffered.ext looked.1 dirty,
          found_of_resolved looked.2 0 (if_pos failed).symm⟩,
        fun fine => ⟨Buffered.ext looked.1 dirty,
          found_of_resolved looked.2 answer.2 (if_neg fine).symm⟩⟩

/-- No file is created for a path that leads somewhere when its lookup does not fail. -/
theorem findOrCreate_finds (path : Path) (flags mode : BitVec 32)
    (existing : hasFlag flags O_CREAT = true → steady ∧ ∃ ino, ino ≠ 0 ∧
      resolver.lookedUp state.volume path flags = .ok ino) :
    wp (buffering resolver steady) (findOrCreate path flags mode)
      (fun found after => after = state ∧ found.1 ≤ 0 ∧ (found.1 = 0 →
        hasFlag flags O_EXCL = false ∧ resolver.lookedUp state.volume path flags = .ok found.2))
      state := by
  rw [findOrCreate, wp_bind]
  apply wp_mono (stringToInode_looks path flags)
  intro ino after looked
  obtain ⟨same, found, steadily⟩ := looked
  rw [same, wp_ite]
  apply And.intro
  · intro missing
    rw [wp_ite]
    apply And.intro
    · intro _
      exact ⟨rfl, by decide, fun bad => absurd bad (by decide)⟩
    · intro creates
      obtain ⟨holds, target, positive, walked⟩ := existing (by simpa using creates)
      rw [← steadily holds target walked] at positive
      exact absurd missing positive
  · intro there
    rw [wp_ite]
    apply And.intro
    · intro _
      exact ⟨rfl, by decide, fun bad => absurd bad (by decide)⟩
    · intro shared
      exact ⟨rfl, le_rfl, fun _ => ⟨Bool.eq_false_iff.mpr shared, found there⟩⟩

/-- A new handle has a copy of its inode, and a clean buffer. -/
theorem Still.opened (still : Still first owned state) {file : Ptr} {handle : Handle}
    (kind : handle.mode = state.volume.mode handle.ino) :
    Still first (fun other => owned other ∨ other = file)
      ⟨state.volume.setFile file (some handle), Function.update state.dirty file false⟩ := by
  have opened {other : Ptr} {handle' : Handle} (different : other ≠ file)
      (found : (state.volume.setFile file (some handle)).files other = some handle') :
      state.volume.files other = some handle' := by
    simpa only [Volume.setFile, Function.update_of_ne different] using found
  constructor
  · exact still.entries
  · exact still.kinds
  · intro other mine handle' found
    by_cases same : other = file
    · rw [same] at found
      simp only [Volume.setFile, Function.update_self] at found
      rw [← Option.some.inj found, kind]
      exact still.kinds handle.ino
    · exact still.copies other (mine.resolve_right same) handle' (opened same found)
  · intro other mine handle' found directory
    by_cases same : other = file
    · rw [same]
      exact Function.update_self file false state.dirty
    · exact (Function.update_of_ne same false state.dirty).trans
        (still.clean other (mine.resolve_right same) handle' (opened same found) directory)

/-- What `node_ext2fs_open` leaves. A result that is not negative is the pointer to the new file. -/
def Opened (first : Volume) (owned : Ptr → Prop) (ret : Int) (after : Buffered) : Prop :=
  Still first owned after ∧
    (0 ≤ ret → Still first (fun file => owned file ∨ file = ret.toNat) after)

theorem opened_failed (still : Still first owned state) {ret : Int} (negative : ret < 0) :
    Opened first owned ret state :=
  ⟨still, fun fine => absurd fine (not_le.mpr negative)⟩

/-- An open of something that exists truncates at most a file. -/
theorem nodeExt2fsOpen_still (still : Still first owned state) (path : Path) (flags mode : BitVec 32)
    (existing : hasFlag flags O_CREAT = true → steady ∧ ∃ ino, ino ≠ 0 ∧
      resolver.lookedUp state.volume path flags = .ok ino)
    (kept : hasFlag flags O_TRUNC = true → hasFlag flags O_EXCL = false → ∀ ino,
      resolver.lookedUp state.volume path flags = .ok ino → first.isDir ino = false) :
    wp (buffering resolver steady) (nodeExt2fsOpen path flags mode) (Opened first owned) state := by
  rw [nodeExt2fsOpen_eq, wp_bind]
  apply wp_mono (findOrCreate_finds path flags mode existing)
  intro found after finds
  obtain ⟨same, negative, finds⟩ := finds
  rw [same, openFound, wp_ite]
  refine ⟨fun bad => opened_failed still (lt_of_le_of_ne negative bad), fun fine => ?_⟩
  obtain ⟨shared, walked⟩ := finds (not_not.mp fine)
  have opens : wp (buffering resolver steady) (openInode flags found.2) (Opened first owned)
      state := by
    rw [openInode, wp_bind]
    apply wp_buffering (.fileOpen found.2 _)
    intro answer opened allowed buffered
    rw [wp_ite]
    apply And.intro
    · intro bad
      rcases allowed with ⟨fine, _⟩ | ⟨_, volume⟩
      · exact absurd fine bad
      · exact opened_failed (still.same volume (buffered.2 bad)) (neg_errcode_lt_zero.mpr bad)
    · intro fine
      rcases allowed with ⟨_, _, _, volume⟩ | ⟨bad, _⟩
      · have fresh := @Still.opened first owned state still answer.2
          { ino := found.2
            mode := state.volume.mode found.2
            links := state.volume.links found.2
            wasInUse := state.volume.inUse found.2
            intact := true } rfl
        rw [← volume, ← buffered.1 (not_not.mp fine)] at fresh
        rw [wp_ite]
        apply And.intro
        · intro truncates
          rw [wp_bind]
          apply wp_buffering (.fileSetSize answer.2 0)
          intro code after resized dirty
          obtain ⟨files, itself, copies, wrote⟩ := FileResized.written resized
          have kept : Still first (fun file => owned file ∨ file = answer.2) after := by
            refine @Still.wrote _ _ _ _ (fresh.reopened copies) answer.2 (.inr rfl)
              (fun entries entries' => entries'.Sublist entries) wrote
              (fun other _ => congrFun dirty other) ?_
            intro handle there directory
            have there := itself.symm.trans there
            rw [volume] at there
            simp only [Volume.setFile, Function.update_self] at there
            rw [← Option.some.inj there, kept truncates shared found.2 walked] at directory
            cases directory
          rw [wp_ite]
          exact ⟨fun bad => opened_failed (kept.mono fun _ => .inl) (neg_errcode_lt_zero.mpr bad),
            fun _ => ⟨kept.mono fun _ => .inl, fun _ => kept⟩⟩
        · intro _
          exact ⟨fresh.mono fun _ => .inl, fun _ => fresh⟩
      · exact absurd bad fine
  rw [wp_ite]
  refine ⟨fun _ => ?_, fun _ => opens⟩
  rw [wp_bind]
  apply wp_buffering (.checkDirectory found.2)
  intro code checked allowed dirty
  rw [show checked = state from Buffered.ext allowed.1 dirty, wp_ite]
  exact ⟨fun _ => opened_failed still (by decide), fun _ => opens⟩

theorem nodeExt2fsClose_still (still : Still first owned state) {file : Ptr} (mine : owned file) :
    wp (buffering resolver steady) (nodeExt2fsClose file) (fun _ after => Still first owned after)
      state := by
  refine wp_still ?_ still
  rw [nodeExt2fsClose]
  exact only_bind (only_call (.fileClose file) mine) fun _ => trivial

end NodeExt2fs.Directories
