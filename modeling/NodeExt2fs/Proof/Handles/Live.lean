import NodeExt2fs.Construction.Js.PathOperations
import NodeExt2fs.Construction.Library.Reference
import NodeExt2fs.Proof.Library.Requests
import NodeExt2fs.Proof.Stats.Fields
import Mathlib.Data.Finset.Lattice.Fold
import Mathlib.Order.Lattice.Nat
import NodeExt2fs.Proof.Library.Finally

/-!
This file follows the live handles through the calls on paths.
-/

namespace NodeExt2fs.Handles
open Programs Structures Glue Js Library
open Program (Only only_bind only_ite only_perform wp_pure wp_ite wp_mono)

/-- After the other answers a handle is out of reach: a truncation fails in `open`, or `readdir` has
opened a file. -/
def Spares (lists : Bool) : CallEvent → Prop
  | ⟨.fileSetSize _ _, code⟩ => code = 0
  | ⟨.fileOpen _ _, answer⟩ => lists = true → answer.1 ≠ 0
  | _ => True

/-- The contract of the handles, along with whether all answers so far spare them. -/
abbrev sparing (lists : Bool) : Contract Call Answer (Handles × Prop) :=
  handling.tracking (Spares lists)

variable {lists : Bool} {state : Handles × Prop} {locals : OpenFiles}

/-- The same handles are live, and the answers were the same to them. -/
def Same (state state' : Handles × Prop) : Prop :=
  state'.1.live = state.1.live ∧ state'.2 = state.2

/-- The calls that open, truncate and close no file. -/
def idle : Call → Bool
  | .fileOpen _ _ | .fileSetSize _ _ | .fileClose _ => false
  | _ => true

theorem basic_idle (call : Call) (listed : upkeep call = true) : idle call = true := by
  cases call <;> first | rfl | cases listed

/-- An inode may be added. -/
theorem adds_idle : Adds fun call => idle call = true :=
  ⟨fun _ => rfl, fun _ _ _ _ => rfl, fun _ => rfl⟩

theorem stores_idle {file : Ptr} (inode : Inode) : idle (.storeFileInode file inode) = true := rfl

/-- A routine of such calls keeps the handles. -/
theorem wp_idle {A : Type} {routine : Routine A}
    (only : routine.Only fun call => idle call = true) :
    Program.wp (sparing lists) routine (fun _ state' => Same state state') state := by
  have each (state : Handles × Prop) (call : Call) (listed : idle call = true) :
      (sparing lists).permits state call ∧ ∀ answer state',
        (sparing lists).allows state call answer state' → Same state state' := by
    refine ⟨trivial, ?_⟩
    intro answer state' allowed
    cases call with
    | fileOpen ino flags => cases listed
    | fileSetSize file size => cases listed
    | fileClose file => cases listed
    | loadFile file =>
        exact ⟨congrArg Handles.live allowed.1.1, allowed.2.trans (and_true _)⟩
    | loadBlocksize => exact ⟨congrArg Handles.live allowed.1.1, allowed.2.trans (and_true _)⟩
    | _ => exact ⟨allowed.1, allowed.2.trans (and_true _)⟩
  exact Program.wp_of_only (fun _ => ⟨rfl, rfl⟩)
    (fun _ _ _ before after => ⟨after.1.trans before.1, after.2.trans before.2⟩) each only state

theorem wp_sparing (call : Call) {post : Answer call → Handles × Prop → Prop}
    (rest : ∀ answer state', (sparing lists).allows state call answer state' → post answer state') :
    Program.wp (sparing lists) call.perform post state :=
  ⟨trivial, rest⟩

/-- Before what follows, a routine of such calls leaves the same handles. -/
theorem bind_idle {A B : Type} {routine : Routine A}
    (only : routine.Only fun call => idle call = true) {next : A → Routine B}
    {post : B → Handles × Prop → Prop}
    (rest : ∀ value state', Same state state' → Program.wp (sparing lists) (next value) post state') :
    Program.wp (sparing lists) (routine >>= next) post state := by
  rw [Program.wp_bind]
  exact wp_mono (wp_idle only) rest

/-- The first part of `open` keeps the handles, and has no positive code. -/
theorem findOrCreate_idle (path : Path) (flags mode : BitVec 32) :
    Program.wp (sparing lists) (findOrCreate path flags mode)
      (fun result state' => result.1 ≤ 0 ∧ Same state state') state := by
  rw [findOrCreate]
  apply bind_idle (stringToInode_only (makes_basic basic_idle) path _)
  intro ino state' same
  rw [wp_ite]
  apply And.intro
  · intro _
    rw [wp_ite]
    apply And.intro
    · intro _
      exact ⟨by decide, same⟩
    · intro _
      apply bind_idle (createFile_only (makes_basic basic_idle) adds_idle path mode)
      intro created state'' same'
      have both : Same state state'' := ⟨same'.1.trans same.1, same'.2.trans same.2⟩
      dsimp only
      rw [wp_ite]
      apply And.intro
      · intro _
        exact ⟨by dsimp only; omega, both⟩
      · intro _
        exact ⟨le_refl 0, both⟩
  · intro _
    rw [wp_ite]
    apply And.intro
    · intro _
      exact ⟨by decide, same⟩
    · intro _
      exact ⟨le_refl 0, same⟩

/-- What `node_ext2fs_open` leaves: no handle more, a handle that it does not return, or the handle
that it returns. -/
def OpenedFile (state : Handles × Prop) (result : Int) (state' : Handles × Prop) : Prop :=
  result < 0 ∧ Same state state' ∨
    result < 0 ∧ state'.1.live ≠ state.1.live ∧ ¬state'.2 ∨
    ∃ file : Ptr, result = file ∧ file ∉ state.1.live ∧
      state'.1.live = insert file state.1.live ∧ state'.2 = state.2

theorem nodeExt2fsOpen_sparing (path : Path) (flags mode : BitVec 32) :
    Program.wp (sparing false) (nodeExt2fsOpen path flags mode) (OpenedFile state) state := by
  rw [nodeExt2fsOpen_eq, Program.wp_bind]
  apply wp_mono (findOrCreate_idle path flags mode)
  intro found between located
  obtain ⟨nonpos, same⟩ := located
  rw [openFound, wp_ite]
  apply And.intro
  · intro failed
    exact .inl ⟨lt_of_le_of_ne nonpos failed, same⟩
  · intro _
    have opens {between : Handles × Prop} (same : Same state between) :
        Program.wp (sparing false) (openInode flags found.2) (OpenedFile state) between := by
      rw [openInode, Program.wp_bind]
      apply wp_sparing (.fileOpen found.2 (translateOpenFlags flags))
      intro answer opened allowed
      obtain ⟨live, spared⟩ := allowed
      have kept : opened.2 = between.2 := by
        rw [spared]
        exact propext (and_iff_left fun bad => absurd bad Bool.false_ne_true)
      rw [wp_ite]
      apply And.intro
      · intro failed
        have negative := neg_errcode_lt_zero.mpr failed
        have unchanged : opened.1.live = between.1.live := (if_neg failed).mp live
        exact .inl ⟨negative, unchanged.trans same.1, kept.trans same.2⟩
      · intro success
        have fresh : answer.2 ∉ between.1.live ∧
            opened.1.live = insert answer.2 between.1.live := (if_pos (not_not.mp success)).mp live
        rw [same.1] at fresh
        have returned {after : Handles × Prop} (unchanged : Same opened after) :
            OpenedFile state answer.2 after :=
          .inr (.inr ⟨answer.2, rfl, fresh.1, unchanged.1.trans fresh.2,
            unchanged.2.trans (kept.trans same.2)⟩)
        rw [wp_ite]
        apply And.intro
        · intro _
          rw [Program.wp_bind]
          apply wp_sparing (.fileSetSize answer.2 0)
          intro code emptied allowed
          obtain ⟨live, spared⟩ := allowed
          rw [wp_ite]
          apply And.intro
          · intro failed
            have negative := neg_errcode_lt_zero.mpr failed
            have grown : emptied.1.live ≠ state.1.live := by
              rw [show emptied.1.live = opened.1.live from live, fresh.2]
              exact Finset.insert_ne_self.mpr fresh.1
            refine .inr (.inl ⟨negative, grown, ?_⟩)
            rw [spared]
            exact fun all => failed all.2
          · intro success
            apply returned
            refine ⟨live, ?_⟩
            rw [spared]
            exact propext (and_iff_left (not_not.mp success))
        · intro _
          exact returned ⟨rfl, rfl⟩
    rw [wp_ite]
    apply And.intro
    · intro _
      apply bind_idle (only_upkeep basic_idle (.checkDirectory found.2) rfl)
      intro code checked unchanged
      rw [wp_ite]
      apply And.intro
      · intro _
        exact .inl ⟨by decide, unchanged.1.trans same.1, unchanged.2.trans same.2⟩
      · intro _
        exact opens ⟨unchanged.1.trans same.1, unchanged.2.trans same.2⟩
    · intro _
      exact opens same

/-- What `open` leaves: no handle more, a handle out of reach, or the handle of the descriptor. -/
def Opened (state : Handles × Prop) :
    Except Failure Ptr → OpenFiles → Handles × Prop → Prop
  | .error _, _, state' => Same state state' ∨ state'.1.live ≠ state.1.live ∧ ¬state'.2
  | .ok fd, locals', state' => fd ∉ state.1.live ∧ state'.1.live = insert fd state.1.live ∧
      state'.2 = state.2 ∧ locals'.has fd = true

theorem openPath_sparing (raw : List UInt8) (flag : Flag) (mode : Option (BitVec 32)) :
    Async.wp (sparing false) (openPath raw flag mode) (Opened state) locals state := by
  rw [openPath, Async.wp_bind, Async.wp_lift]
  change Async.andThen _ _ _ (stringToFlags flag) locals state
  cases stringToFlags flag with
  | error failure => exact .inl ⟨rfl, rfl⟩
  | ok flags =>
      rw [Async.andThen_ok, Async.wp_bind, acceptPath, Async.wp_lift]
      cases usePath raw with
      | none => exact .inl ⟨rfl, rfl⟩
      | some path =>
          rw [Program.wp_pure]
          dsimp only
          rw [Async.andThen_ok, Async.wp_bind, binding, Async.wp_lift, Program.wp_bind]
          apply wp_mono (nodeExt2fsOpen_sparing path flags (mode.getD 0o666))
          intro result state' opened
          rw [Program.wp_pure, ccallThrowAsync]
          obtain ⟨negative, same⟩ | ⟨negative, grown, spoiled⟩ | ⟨file, same, fresh, live, kept⟩ :=
            opened
          · rw [if_pos negative]
            exact .inl same
          · rw [if_pos negative]
            exact .inr ⟨grown, spoiled⟩
          · rw [if_neg (by omega)]
            change Async.wp _ (modify _ >>= fun _ => pure result.toNat) _ _ _
            rw [Async.wp_bind, Async.wp_modify, Async.andThen_ok, Async.wp_pure, same]
            refine ⟨fresh, live, kept, ?_⟩
            rw [InsertionMap.has_iff, InsertionMap.mem_keys_set]
            exact .inl rfl

/-- A file that is closed is not live, whether `close` resolves or rejects. -/
theorem closeFd_sparing {fd : Ptr} (opened : locals.has fd = true) :
    Async.wp (sparing lists) (closeFd fd)
      (fun _ _ state' => state'.1.live = state.1.live.erase fd ∧ state'.2 = state.2) locals state := by
  rw [closeFd, Async.wp_bind, checkFd, Async.wp_bind, Async.wp_get, Async.andThen_ok, if_pos opened,
    Async.wp_pure, Async.andThen_ok, Async.wp_bind, binding, Async.wp_lift, Program.wp_bind,
    nodeExt2fsClose, Program.wp_bind]
  apply wp_sparing (.fileClose fd)
  intro code state' allowed
  rw [Program.wp_pure, Program.wp_pure]
  have closed : state'.1.live = state.1.live.erase fd ∧ state'.2 = state.2 :=
    ⟨allowed.1, allowed.2.trans (and_true _)⟩
  cases ccallThrowAsync "node_ext2fs_close" [fd] (-(code : Int)) with
  | error exception => exact closed
  | ok value => exact closed

/-- A promise that changes neither the live handles nor `openFiles`. -/
def Quiet (lists : Bool) {A : Type} (promise : Promise A) : Prop :=
  ∀ (locals : OpenFiles) (state : Handles × Prop), Async.wp (sparing lists) promise
    (fun _ locals' state' => locals' = locals ∧ Same state state') locals state

theorem Quiet.pure {A : Type} (value : A) : Quiet lists (Pure.pure value : Promise A) :=
  fun _ _ => ⟨rfl, rfl, rfl⟩

theorem Quiet.throw {A : Type} (failure : Failure) : Quiet lists (MonadExcept.throw failure : Promise A) :=
  fun _ _ => ⟨rfl, rfl, rfl⟩

theorem Quiet.throw_bind {A B : Type} (failure : Failure) (next : A → Promise B) :
    Quiet lists (MonadExcept.throw failure >>= next) :=
  fun _ _ => ⟨rfl, rfl, rfl⟩

theorem Quiet.lift {A : Type} (result : Except Failure A) :
    Quiet lists (Async.lift (Pure.pure result) : Promise A) :=
  fun _ _ => (Async.wp_lift _).mpr ⟨rfl, rfl, rfl⟩

theorem Quiet.get : Quiet lists (MonadState.get : Promise OpenFiles) := fun _ _ => ⟨rfl, rfl, rfl⟩

/-- What follows a quiet promise starts from the same handles. -/
theorem Quiet.wp_bind {A B : Type} {first : Promise A} (quiet : Quiet lists first)
    {next : A → Promise B} {post : Except Failure B → OpenFiles → Handles × Prop → Prop}
    (resolved : ∀ value state', Same state state' →
      Async.wp (sparing lists) (next value) post locals state')
    (rejected : ∀ failure state', Same state state' → post (.error failure) locals state') :
    Async.wp (sparing lists) (first >>= next) post locals state := by
  rw [Async.wp_bind]
  apply Async.wp_mono (quiet locals state)
  intro result locals' state' kept
  rw [kept.1]
  cases result with
  | ok value => exact resolved value state' kept.2
  | error failure => exact rejected failure state' kept.2

theorem Quiet.bind {A B : Type} {first : Promise A} (quiet : Quiet lists first)
    {next : A → Promise B} (after : ∀ value, Quiet lists (next value)) :
    Quiet lists (first >>= next) := by
  intro locals state
  apply quiet.wp_bind
  · intro value state' same
    apply Async.wp_mono (after value locals state')
    intro result locals' state'' kept
    exact ⟨kept.1, kept.2.1.trans same.1, kept.2.2.trans same.2⟩
  · intro failure state' same
    exact ⟨rfl, same⟩

theorem Quiet.ite {A : Type} {condition : Prop} [Decidable condition] {yes no : Promise A}
    (first : Quiet lists yes) (second : Quiet lists no) :
    Quiet lists (if condition then yes else no) := by
  by_cases chosen : condition
  · rwa [if_pos chosen]
  · rwa [if_neg chosen]

theorem quiet_checkFd (fd : Ptr) (syscall : String) (args : List Int) :
    Quiet lists (checkFd fd syscall args) :=
  Quiet.get.bind fun _ => Quiet.ite (Quiet.pure _) (Quiet.throw _)

/-- A call of a routine that opens, truncates and closes no file is quiet. -/
theorem quiet_binding (name : String) (args : List Int) {routine : Routine Int}
    (only : routine.Only fun call => idle call = true) : Quiet lists (binding name args routine) := by
  intro locals state
  rw [binding, Async.wp_lift]
  apply bind_idle only
  intro value state' same
  exact ⟨rfl, same⟩

theorem quiet_fchmod (fd : Ptr) (mode : BitVec 32) : Quiet lists (fchmod fd mode) :=
  (quiet_checkFd _ _ _).bind fun _ =>
    (quiet_binding _ _ (nodeExt2fsChmod_only basic_idle stores_idle mode)).bind fun _ => Quiet.pure _

theorem quiet_fchown (fd : Ptr) (uid gid : BitVec 32) : Quiet lists (fchown fd uid gid) :=
  (quiet_checkFd _ _ _).bind fun _ =>
    (quiet_binding _ _ (nodeExt2fsChown_only basic_idle stores_idle uid gid)).bind fun _ => Quiet.pure _

theorem quiet_readFd (fd buffer : Ptr) (length : Nat) (position : JsValue) :
    Quiet lists (readFd fd buffer length position) :=
  Quiet.ite (Quiet.pure _) ((quiet_checkFd _ _ _).bind fun _ => Quiet.get.bind fun _ =>
    quiet_binding _ _ (nodeExt2fsRead_only basic_idle stores_idle _ buffer _ _))

theorem quiet_writeFd (fd : Ptr) (allocation : Allocation) (buffer : List UInt8)
    (offsetOrOptions length position : JsValue) :
    Quiet lists (writeFd fd allocation buffer offsetOrOptions length position) :=
  (quiet_checkFd _ _ _).bind fun _ => Quiet.get.bind fun _ =>
    quiet_binding _ _ (nodeExt2fsWrite_only basic_idle stores_idle _ _ _ _ rfl rfl)

theorem quiet_statCall (fd : Ptr) (field : InodeStat) : Quiet lists (statCall fd field) := by
  apply quiet_binding
  unfold InodeStat.routine
  apply only_bind (only_upkeep basic_idle (.loadFile fd) rfl)
  intro file
  exact only_bind (only_upkeep basic_idle .loadBlocksize rfl) fun _ => trivial

theorem Quiet.attempt {A : Type} {promise : Promise A} (quiet : Quiet lists promise) :
    Quiet lists promise.attempt :=
  fun locals state => (Async.wp_attempt promise).mpr (quiet locals state)

theorem quiet_statCalls (fd : Ptr) (fields : List InodeStat) :
    Quiet lists (statCalls fd fields) := by
  induction fields with
  | nil => exact Quiet.pure _
  | cons field rest ih =>
      exact (quiet_statCall fd field).attempt.bind fun _ => ih.bind fun _ => Quiet.pure _

theorem quiet_fstat (fd : Ptr) : Quiet lists (fstat fd) :=
  (quiet_checkFd _ _ _).bind fun _ => (quiet_statCall fd _).bind fun _ =>
    (quiet_statCalls fd _).bind fun _ => Quiet.lift _

/-- Each round of reads is quiet, however many there are. -/
theorem quiet_readRounds (fd buffer : Ptr) (rounds : Nat) :
    Quiet lists (readRounds fd buffer rounds) := by
  induction rounds with
  | zero => exact Quiet.throw _
  | succ rounds ih =>
      exact (quiet_readFd fd buffer _ _).bind fun _ => Quiet.ite ih (Quiet.pure _)

theorem quiet_readOpened (kMaxLength : Int) (buffer : Ptr) (rounds : Nat)
    (encoding : Option Encoding) (fd : Ptr) :
    Quiet lists (readOpened kMaxLength buffer rounds encoding fd) := by
  rw [readOpened]
  apply (quiet_fstat fd).bind
  intro stats
  apply Quiet.ite
  · exact Quiet.throw_bind _ _
  · apply Quiet.ite
    · exact Quiet.throw_bind _ _
    · apply Quiet.ite
      · exact quiet_readRounds fd buffer rounds
      · apply (quiet_readFd fd buffer _ _).bind
        intro bytesRead
        exact Quiet.ite (Quiet.throw _) (Quiet.pure _)

/-- Each round of writes is quiet, however many there are. -/
theorem quiet_writeAll (allocation : Allocation) (fd : Ptr) (buffer : List UInt8) (rounds : Nat)
    (offset length : Int) (position : Option Int) :
    Quiet lists (writeAll (promiseCalls allocation) fd buffer rounds offset length position :
      Promise Unit) := by
  induction rounds generalizing offset length position with
  | zero => exact Quiet.throw _
  | succ rounds ih =>
      exact (quiet_writeFd fd allocation buffer _ _ _).bind fun bytesWritten =>
        Quiet.ite (Quiet.pure _) (ih _ _ _)

theorem quiet_pathCheck (path : PathArgument) : Quiet lists (pathCheck path) := by
  cases path with
  | fd fd => exact Quiet.pure _
  | path raw => exact Quiet.ite (Quiet.throw _) (Quiet.pure _)

theorem Quiet.awaitFinally {body last : Promise Unit} (first : Quiet lists body)
    (second : Quiet lists last) : Quiet lists (awaitFinally body last) := by
  intro locals state
  apply awaitFinally_wp
  apply Async.wp_mono (first locals state)
  intro result locals' state' kept
  refine ⟨fun _ => kept, ?_⟩
  intro _
  rw [kept.1]
  apply Async.wp_mono (second locals state')
  intro closing locals'' state'' still
  exact ⟨still.1, still.2.1.trans kept.2.1, still.2.2.trans kept.2.2⟩

/-- Once a call has settled, the given handles are live exactly when all answers spared them. -/
def Settled (live : Finset Ptr) {A : Type} (result : Except Failure A) (_ : OpenFiles)
    (state' : Handles × Prop) : Prop :=
  result ≠ .error .unsettled → (state'.1.live = live ↔ state'.2)

variable {live : Finset Ptr}

theorem settled_of_same {A : Type} {result : Except Failure A} {state' : Handles × Prop}
    (same : state.1.live = live) (spared : state.2) (kept : Same state state') :
    Settled live result locals state' :=
  fun _ => iff_of_true (kept.1.trans same) (kept.2 ▸ spared)

/-- A file that is opened for a quiet promise is closed after it. -/
theorem opened_closed (same : state.1.live = live) (spared : state.2) {body : Ptr → Promise Unit}
    (quiet : ∀ fd, Quiet false (body fd)) (raw : List UInt8) (flag : Flag)
    (mode : Option (BitVec 32)) :
    Async.wp (sparing false)
      (openPath raw flag mode >>= fun fd => awaitFinally (body fd) (closeFd fd)) (Settled live)
      locals state := by
  rw [Async.wp_bind]
  apply Async.wp_mono (openPath_sparing raw flag mode)
  intro result locals' opened leaves
  cases result with
  | error failure =>
      obtain kept | ⟨grown, spoiled⟩ := leaves
      · exact @settled_of_same _ locals' _ _ _ _ same spared kept
      · rw [same] at grown
        exact fun _ => iff_of_false grown spoiled
  | ok fd =>
      obtain ⟨fresh, inserted, kept, has⟩ := leaves
      rw [Async.andThen_ok]
      apply awaitFinally_wp
      apply Async.wp_mono (quiet fd locals' opened)
      intro result locals'' between still
      obtain ⟨unchanged, still⟩ := still
      refine ⟨fun unsettled settled => absurd unsettled settled, ?_⟩
      intro _
      rw [unchanged]
      apply Async.wp_mono (closeFd_sparing has)
      intro closing afterwards closed leaves _
      apply iff_of_true
      · rw [leaves.1, still.1, inserted, Finset.erase_insert fresh, same]
      · rw [leaves.2, still.2, kept]
        exact spared

theorem copyFilenames_idle (arrayId : Nat) (dirents : List DirEntry) :
    (copyFilenames arrayId dirents).Only fun call => idle call = true := by
  induction dirents with
  | nil => trivial
  | cons dirent rest ih =>
      unfold copyFilenames copyFilenameToResult
      apply only_bind
      · apply only_ite
        · exact only_upkeep basic_idle (.arrayPushBuffer _ _) rfl
        · trivial
      · intro _
        exact ih

/-- The file that `readdir` opens stays open. -/
theorem nodeExt2fsReaddir_sparing (same : state.1.live = live) (spared : state.2) (path : Path)
    (arrayId : Nat) :
    Program.wp (sparing true) (nodeExt2fsReaddir path arrayId)
      (fun _ state' => state'.1.live = live ↔ state'.2) state := by
  rw [nodeExt2fsReaddir]
  apply bind_idle (stringToInode_only (makes_basic basic_idle) path true)
  intro ino found kept
  have still : found.1.live = live := kept.1.trans same
  have clean : found.2 := kept.2 ▸ spared
  rw [wp_ite]
  apply And.intro
  · intro _
    exact iff_of_true still clean
  · intro _
    rw [Program.wp_bind]
    apply wp_sparing (.fileOpen ino 0)
    intro answer opened allowed
    obtain ⟨handles, answered⟩ := allowed
    dsimp only
    rw [wp_ite]
    apply And.intro
    · intro failed
      have unchanged : opened.1.live = found.1.live := (if_neg failed).mp handles
      apply iff_of_true (unchanged.trans still)
      rw [answered]
      exact ⟨clean, fun _ => failed⟩
    · intro success
      have zero := not_not.mp success
      have fresh : answer.2 ∉ found.1.live ∧ opened.1.live = insert answer.2 found.1.live :=
        (if_pos zero).mp handles
      have grown : opened.1.live ≠ live := by
        rw [fresh.2, ← still]
        exact Finset.insert_ne_self.mpr fresh.1
      have spoiled : ¬opened.2 := by
        rw [answered]
        exact fun all => all.2 rfl zero
      apply bind_idle (only_upkeep basic_idle (.checkDirectory ino) rfl)
      intro ret checked kept
      rw [wp_ite]
      have lost {after : Handles × Prop} (kept : Same opened after) :
          after.1.live = live ↔ after.2 := by
        rw [kept.1, kept.2]
        exact iff_of_false grown spoiled
      apply And.intro
      · intro _
        exact lost kept
      · intro _
        apply bind_idle (only_call (.dirIterate ino .copyFilenameToResult) rfl)
        intro visited iterated kept'
        apply bind_idle (copyFilenames_idle arrayId visited.2)
        intro _ copied kept''
        exact lost ⟨kept''.1.trans (kept'.1.trans kept.1), kept''.2.trans (kept'.2.trans kept.2)⟩

/-- The calls that do not run `fstat` outside of `try`. -/
theorem operation_sparing (around : Surroundings) {operation : PathOperation}
    (uninspected : operation.inspects = none) (spared : state.2) :
    Async.wp (sparing operation.lists) (operation.promise around)
      (fun result locals' state' => result ≠ .error .unsettled →
        (operation.Keeps state.1 state'.1 locals locals' result ↔ state'.2)) locals state := by
  cases operation with
  | «open» path flag mode =>
      change Async.wp (sparing false) (openPath path flag mode >>= fun _ => pure ()) _ locals state
      rw [Async.wp_bind]
      apply Async.wp_mono (openPath_sparing path flag mode)
      intro result locals' opened leaves
      cases result with
      | error failure =>
          intro _
          have rejects : (Except.error failure : Except Failure Unit) ≠ .ok () := fun bad => nomatch bad
          obtain kept | ⟨grown, spoiled⟩ := leaves
          · exact iff_of_true (fun _ => kept.1) (kept.2 ▸ spared)
          · exact iff_of_false (fun keeps => grown (keeps rejects)) spoiled
      | ok fd =>
          obtain ⟨_, _, kept, _⟩ := leaves
          exact fun _ => iff_of_true (fun rejected => absurd rfl rejected) (kept ▸ spared)
  | stat path => cases uninspected
  | lstat path => cases uninspected
  | access path mode => cases uninspected
  | chmod path mode => exact opened_closed rfl spared (fun fd => quiet_fchmod fd mode) _ _ _
  | lchmod path mode => exact opened_closed rfl spared (fun fd => quiet_fchmod fd mode) _ _ _
  | chown path uid gid => exact opened_closed rfl spared (fun fd => quiet_fchown fd uid gid) _ _ _
  | lchown path uid gid => exact opened_closed rfl spared (fun fd => quiet_fchown fd uid gid) _ _ _
  | readdir path options =>
      apply (Quiet.lift _).wp_bind
      · intro _ state' same
        apply (Quiet.lift _).wp_bind
        · intro used state'' same'
          rw [Async.wp_bind, binding, Async.wp_lift, Program.wp_bind]
          apply wp_mono (nodeExt2fsReaddir_sparing (same'.1.trans same.1)
            (same'.2 ▸ same.2 ▸ spared) used around.arrayId)
          intro result after keeps
          cases ccallThrowAsync "node_ext2fs_readdir" [around.arrayId] result with
          | error exception => exact fun _ => keeps
          | ok value => exact fun _ => keeps
        · intro failure state'' same' _
          exact iff_of_true (same'.1.trans same.1) (same'.2 ▸ same.2 ▸ spared)
      · intro failure state' same _
        exact iff_of_true same.1 (same.2 ▸ spared)
  | readFile path options =>
      cases path with
      | fd fd =>
          have quiet : Quiet false
              (Js.readFile around.kMaxLength around.buffer around.rounds (.fd fd) options) :=
            (Quiet.lift _).bind fun _ => (quiet_pathCheck _).bind fun _ =>
              (quiet_readOpened _ _ _ _ fd).awaitFinally (Quiet.pure ())
          apply Async.wp_mono (quiet locals state)
          intro result locals' state' kept _
          exact iff_of_true ⟨kept.2.1, kept.1⟩ (kept.2.2 ▸ spared)
      | path raw =>
          apply (Quiet.lift _).wp_bind
          · intro options state' same
            apply (quiet_pathCheck _).wp_bind
            · intro _ state'' same'
              exact opened_closed (same'.1.trans same.1) (same'.2 ▸ same.2 ▸ spared)
                (fun fd => quiet_readOpened _ _ _ _ fd) _ _ _
            · intro failure state'' same' _
              exact iff_of_true (same'.1.trans same.1) (same'.2 ▸ same.2 ▸ spared)
          · intro failure state' same _
            exact iff_of_true same.1 (same.2 ▸ spared)
  | writeFile path data options =>
      cases path with
      | fd fd =>
          have quiet : Quiet false (Js.writeFile (promiseCalls around.allocation) around.rounds
              (.fd fd) data options : Promise Unit) :=
            (Quiet.lift _).bind fun _ => Quiet.throw_bind _ _
          apply Async.wp_mono (quiet locals state)
          intro result locals' state' kept _
          exact iff_of_true ⟨kept.2.1, kept.1⟩ (kept.2.2 ▸ spared)
      | path raw =>
          apply (Quiet.lift _).wp_bind
          · intro options state' same
            exact opened_closed same.1 (same.2 ▸ spared)
              (fun fd => quiet_writeAll around.allocation fd data around.rounds _ _ _) _ _ _
          · intro failure state' same _
            exact iff_of_true same.1 (same.2 ▸ spared)

/-- No accessor takes the file for an error. -/
def Nonnegative (state : Handles) (fd : Ptr) : Prop :=
  ∀ field : InodeStat, 0 ≤ field.read (state.record fd) state.blocksize

theorem statCall_sparing {fd : Ptr} (field : InodeStat)
    {post : Except Failure Int → OpenFiles → Handles × Prop → Prop}
    (rest : post (Inspection.fieldResult fd (state.1.record fd) state.1.blocksize field) locals
      state) :
    Async.wp (sparing lists) (statCall fd field) post locals state := by
  rw [statCall, binding, Async.wp_lift, Program.wp_bind, InodeStat.routine, Program.wp_bind]
  apply wp_sparing (.loadFile fd)
  intro file loaded allowed
  obtain ⟨⟨unchanged, read⟩, kept⟩ := allowed
  have same : loaded = state := Prod.ext unchanged (kept.trans (and_true _))
  rw [same, show file = _ from read, Program.wp_bind]
  apply wp_sparing .loadBlocksize
  intro blocksize sized allowed
  obtain ⟨⟨unchanged, read⟩, kept⟩ := allowed
  have same : sized = state := Prod.ext unchanged (kept.trans (and_true _))
  rw [same, show blocksize = _ from read]
  exact rest

/-- The file is closed after `fstat` unless that rejects. -/
theorem fstat_closed {fd : Ptr} (opened : locals.has fd = true) {check : Stats → Promise Unit}
    (quiet : ∀ stats, Quiet lists (check stats)) :
    Async.wp (sparing lists)
      (fstat fd >>= fun stats => closeFd fd >>= fun _ => check stats)
      (fun _ _ state' => state'.2 = state.2 ∧
        (Nonnegative state.1 fd → state'.1.live = state.1.live.erase fd) ∧
        (¬Nonnegative state.1 fd → state'.1.live = state.1.live)) locals state := by
  rw [Async.wp_bind]
  apply Inspection.fstat_wp (fun field _ rest => statCall_sparing field rest) opened
  cases result : Inspection.fstatResult fd (state.1.record fd) state.1.blocksize with
  | error failure =>
      refine ⟨rfl, ?_, fun _ => rfl⟩
      intro nonnegative
      have resolved := (@Inspection.fstatResult_eq_ok_iff fd (state.1.record fd)
        state.1.blocksize _).mpr ⟨nonnegative, rfl⟩
      cases resolved.symm.trans result
  | ok stats =>
      have nonnegative : Nonnegative state.1 fd :=
        ((Inspection.fstatResult_eq_ok_iff stats).mp result).1
      rw [Async.andThen_ok, Async.wp_bind]
      apply Async.wp_mono (closeFd_sparing opened)
      intro closing locals' closed leaves
      cases closing with
      | error failure =>
          exact ⟨leaves.2, fun _ => leaves.1, fun negative => absurd nonnegative negative⟩
      | ok value =>
          rw [Async.andThen_ok]
          apply Async.wp_mono (quiet stats locals' closed)
          intro result locals'' state'' kept
          exact ⟨kept.2.2.trans leaves.2, fun _ => kept.2.1.trans leaves.1,
            fun negative => absurd nonnegative negative⟩

/-- The calls that run `fstat` outside of `try` have one shape. -/
theorem promise_of_inspects {around : Surroundings} {operation : PathOperation}
    {opening : Promise Ptr} (inspected : operation.inspects = some opening) :
    (∃ raw flag mode, opening = openPath raw flag mode) ∧
      (∀ before after locals locals' result, operation.Keeps before after locals locals' result ↔
        after.live = before.live) ∧
      operation.lists = false ∧
      ∃ check : Stats → Promise Unit, (∀ stats, Quiet false (check stats)) ∧
        operation.promise around = opening >>= fun fd =>
          fstat fd >>= fun stats => closeFd fd >>= fun _ => check stats := by
  cases operation with
  | stat path =>
      rw [← Option.some.inj inspected]
      refine ⟨⟨_, _, _, rfl⟩, fun _ _ _ _ _ => Iff.rfl, rfl, fun _ => pure (), fun _ => .pure _, ?_⟩
      simp only [PathOperation.promise, Js.stat, bind_assoc, pure_bind]
  | lstat path =>
      rw [← Option.some.inj inspected]
      refine ⟨⟨_, _, _, rfl⟩, fun _ _ _ _ _ => Iff.rfl, rfl, fun _ => pure (), fun _ => .pure _, ?_⟩
      simp only [PathOperation.promise, Js.lstat, bind_assoc, pure_bind]
  | access path mode =>
      rw [← Option.some.inj inspected]
      refine ⟨⟨_, _, _, rfl⟩, fun _ _ _ _ _ => Iff.rfl, rfl, fun stats =>
        if hasFlag mode X_OK && !hasFlag (BitVec.ofInt 32 stats.mode) EXECUTE_ABILITY then
          throw (.errno (errnoException EACCES "access" [mode.toNat])) else pure (), ?_, ?_⟩
      · exact fun stats => Quiet.ite (Quiet.throw _) (Quiet.pure _)
      · simp only [PathOperation.promise, Js.access, Js.stat, bind_assoc, pure_bind]
  | _ => cases inspected

variable {Hidden : Type} {library : Handler Call Answer Hidden} {view : Hidden → Handles}

/-- All answers of the library spare the handles, and a file that is opened for `fstat` outside of
`try` has no field that an accessor takes for an error. -/
def Spared (library : Handler Call Answer Hidden) (view : Hidden → Handles) (around : Surroundings)
    (locals : OpenFiles) (hidden : Hidden) (operation : PathOperation) : Prop :=
  (∀ event ∈ ((operation.promise around).start locals).events library hidden,
    Spares operation.lists event) ∧
  ∀ opening, operation.inspects = some opening → ∀ fd,
    ((opening.start locals).run library hidden).1.1 = .ok fd →
      Nonnegative (view ((opening.start locals).run library hidden).2) fd

/-- A call that settles leaves the handles as they were exactly when they were spared. -/
theorem keeps_handles_iff (honoured : handling.Honoured library view) (around : Surroundings)
    (operation : PathOperation) (locals : OpenFiles) (hidden : Hidden)
    (settles : (((operation.promise around).start locals).run library hidden).1.1 ≠
      .error .unsettled) :
    operation.Keeps (view hidden)
        (view (((operation.promise around).start locals).run library hidden).2) locals
        (((operation.promise around).start locals).run library hidden).1.2
        (((operation.promise around).start locals).run library hidden).1.1 ↔
      Spared library view around locals hidden operation := by
  rw [Spared]
  cases inspected : operation.inspects with
  | none =>
      have kept := Program.run_of_wp_tracking honoured (@operation_sparing (view hidden, True) locals
        around operation inspected trivial)
      rw [kept settles, true_and]
      exact (and_iff_left fun _ impossible => nomatch impossible).symm
  | some opening =>
      obtain ⟨⟨raw, flag, mode, opens⟩, keeps, unlisted, check, quiet, shape⟩ :=
        @promise_of_inspects around operation opening inspected
      rw [keeps, unlisted, shape, Async.start_bind, Program.run_bind, Program.events_bind]
      have leaves := Program.run_of_wp_tracking honoured
        (@openPath_sparing (view hidden, True) locals raw flag mode)
      rw [← opens] at leaves
      have alone : (∀ opening', some opening = some opening' → ∀ fd,
          ((opening'.start locals).run library hidden).1.1 = .ok fd →
            Nonnegative (view ((opening'.start locals).run library hidden).2) fd) ↔
          ∀ fd, ((opening.start locals).run library hidden).1.1 = .ok fd →
            Nonnegative (view ((opening.start locals).run library hidden).2) fd :=
        ⟨fun all => all opening rfl, fun nonnegative _ same => Option.some.inj same ▸ nonnegative⟩
      rw [alone]
      generalize (opening.start locals).events library hidden = events at leaves ⊢
      generalize (opening.start locals).run library hidden = opened at leaves ⊢
      obtain ⟨⟨result, locals'⟩, hidden'⟩ := opened
      cases result with
      | error failure =>
          change (view hidden').live = (view hidden).live ↔
            (∀ event ∈ events ++ [], Spares false event) ∧ _
          have vacuous (fd : Ptr) (impossible : (Except.error failure : Except Failure Ptr) = .ok fd) :
              Nonnegative (view hidden') fd := nomatch impossible
          rw [List.append_nil]
          obtain kept | ⟨grown, spoiled⟩ := leaves
          · exact iff_of_true kept.1 ⟨(of_eq_true kept.2).2, vacuous⟩
          · exact iff_of_false grown fun all => spoiled ⟨trivial, all.1⟩
      | ok fd =>
          obtain ⟨fresh, inserted, kept, has⟩ := leaves
          have closes := Program.run_of_wp_tracking honoured (@fstat_closed false
            (view hidden', True ∧ ∀ event ∈ events, Spares false event) locals' fd has check quiet)
          obtain ⟨still, closed, stays⟩ := closes
          have spared := of_eq_true (still.trans kept)
          have all := List.forall_mem_append.mpr ⟨spared.1.2, spared.2⟩
          have here : (∀ fd', (Except.ok fd : Except Failure Ptr) = .ok fd' →
              Nonnegative (view hidden') fd') ↔ Nonnegative (view hidden') fd :=
            ⟨fun each => each fd rfl, fun nonnegative _ same => Except.ok.inj same ▸ nonnegative⟩
          rw [here]
          apply Iff.trans _ (and_iff_right all).symm
          by_cases nonnegative : Nonnegative (view hidden') fd
          · apply iff_of_true _ nonnegative
            exact (closed nonnegative).trans (by rw [inserted, Finset.erase_insert fresh])
          · apply iff_of_false _ nonnegative
            have grown := (stays nonnegative).trans inserted
            exact fun same => Finset.insert_ne_self.mpr fresh (grown.symm.trans same)

/-- A library in memory that finds every path. -/
def finding : Handler Call Answer Handles
  | .namei _, state | .nameiFollow _, state => ((0, 12), state)
  | .fileOpen _ _, state => ((0, state.live.sup id + 1),
      { state with live := insert (state.live.sup id + 1) state.live })
  | .fileClose file, state => (0, { state with live := state.live.erase file })
  | .loadFile file, state => (state.record file, state)
  | .loadBlocksize, state => (state.blocksize, state)
  | call, state => ((reference call (Volume.holding [])).1, state)

theorem finding_honours : handling.Honoured finding id := by
  intro call state
  cases call with
  | fileOpen ino flags =>
      have above : state.live.sup id + 1 ∉ state.live := by
        intro member
        have below : state.live.sup id + 1 ≤ state.live.sup id :=
          @Finset.le_sup _ _ _ _ state.live id _ member
        exact absurd below (Nat.not_succ_le_self _)
      exact ⟨above, rfl⟩
  | fileClose file => rfl
  | loadFile file => exact ⟨rfl, rfl⟩
  | loadBlocksize => exact ⟨rfl, rfl⟩
  | _ => rfl

/-- No file is open, and the next one is a regular file. -/
def closed : Handles where
  live := ∅
  record _ := { ino := 12, inode := Volume.record (LINUX_S_IFREG ||| 0o644#16) 1 }
  blocksize := 1024
  sized := by decide

def surroundings : Surroundings where
  kMaxLength := 2 ^ 31 - 1
  buffer := 0
  allocation := { pointer := 0, byte := fun _ => 0 }
  arrayId := 0
  rounds := 1

/-- A change of the mode through a path. -/
theorem keeps_handles_chmod :
    Spared finding id surroundings .empty closed (.chmod [0x2f, 0x61] 0o600) := by
  apply (keeps_handles_iff finding_honours surroundings _ _ _ ?_).mp
  · show _ = _
    decide
  · intro bad
    cases bad

/-- The handle of a directory that is listed stays live. -/
theorem readdir_keeps_handle :
    ¬∀ (library : Handler Call Answer Handles) (around : Surroundings) (operation : PathOperation)
      (locals : OpenFiles) (state : Handles), handling.Honoured library id →
      (((operation.promise around).start locals).run library state).1.1 ≠ .error .unsettled →
      operation.Keeps state (((operation.promise around).start locals).run library state).2 locals
        (((operation.promise around).start locals).run library state).1.2
        (((operation.promise around).start locals).run library state).1.1 := by
  intro keeps
  have kept := keeps finding surroundings (.readdir [0x2f] .missing) .empty closed finding_honours
    (fun bad => by cases bad)
  change ({1} : Finset Ptr) = ∅ at kept
  exact absurd kept (by decide)

end NodeExt2fs.Handles
