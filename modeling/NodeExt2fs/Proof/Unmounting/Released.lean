import NodeExt2fs.Construction.Js.Unmounting
import NodeExt2fs.Construction.Library.Closing
import NodeExt2fs.Proof.Library.Finally

/-!
This file finds out what an unmount releases.
-/

namespace NodeExt2fs.Unmounting
open Programs Structures Glue Js Library
open Program (wp wp_pure wp_bind wp_mono)

variable {codes : List Call → Ptr → Errcode} {last : List Call → Errcode} {log : List Call}
  {Object A : Type}

section Closing

/-- The two ends of a function of the binding that negates the code of its call. -/
theorem wp_negating {call : Call} {toCode : Answer call → Errcode} {code : Errcode}
    (answered : ∀ answer log', (closing codes last).allows log call answer log' →
      log' = log ++ [call] ∧ toCode answer = code) (name : String) (args : List Int)
    {locals : OpenFiles} {post : Except Failure Int → OpenFiles → List Call → Prop}
    (fine : code = 0 → post (.ok 0) locals (log ++ [call]))
    (failed : code ≠ 0 → ∀ failure, post (.error failure) locals (log ++ [call])) :
    Async.wp (closing codes last) (binding name args
      (call.perform >>= fun answer => pure (-(toCode answer : Int)))) post locals log := by
  rw [binding, Async.wp_lift, wp_bind, wp_bind]
  refine ⟨trivial, ?_⟩
  intro answer log' allowed
  obtain ⟨logged, same⟩ := answered answer log' allowed
  show post _ locals log'
  rw [same, logged, ccallThrowAsync]
  by_cases zero : code = 0
  · rw [zero, if_neg (by decide)]
    exact fine zero
  · have positive := Nat.pos_of_ne_zero zero
    rw [if_pos (by omega)]
    exact failed zero _

theorem wp_closeFd {fd : Ptr} {locals : OpenFiles} (listed : locals.has fd = true)
    {post : Except Failure Unit → OpenFiles → List Call → Prop}
    (fine : codes log fd = 0 → post (.ok ()) (locals.delete fd) (log ++ [.fileClose fd]))
    (failed : codes log fd ≠ 0 → ∀ failure, post (.error failure) locals (log ++ [.fileClose fd])) :
    Async.wp (closing codes last) (closeFd fd) post locals log := by
  rw [closeFd, Async.wp_bind, checkFd, Async.wp_bind, Async.wp_get, Async.andThen_ok, if_pos listed,
    Async.wp_pure, Async.andThen_ok, Async.wp_bind]
  apply @wp_negating codes last log (.fileClose fd) id (codes log fd)
  · exact fun answer log' allowed => allowed
  · exact fine
  · exact failed

/-- Every file is closed and forgotten, or one is left because a close has failed. -/
theorem closeKeys_closing {files : List Ptr} {locals : OpenFiles} (keys : locals.keys = files) :
    Async.wp (closing codes last) (closeKeys files)
      (fun result locals' log' =>
        result = .ok () ∧ locals'.keys = [] ∧ log' = log ++ files.map .fileClose ∧
          (Closable codes last log files ↔ last log' = 0) ∨
        (∃ failure, result = .error failure) ∧ locals'.keys ≠ [] ∧ ¬Closable codes last log files)
      locals log := by
  induction files generalizing locals log with
  | nil => exact .inl ⟨rfl, keys, (List.append_nil log).symm, Iff.rfl⟩
  | cons fd rest ih =>
      have listed : locals.has fd = true := by
        rw [InsertionMap.has_iff, keys]
        exact List.mem_cons_self
      rw [closeKeys, Async.wp_bind, Async.wp_get, Async.andThen_ok, if_pos listed, Async.wp_bind]
      apply wp_closeFd listed
      · intro fine
        rw [Async.andThen_ok]
        apply Async.wp_mono (ih (InsertionMap.keys_delete_first keys))
        rintro result locals' log' (⟨ok, empty, logged, closable⟩ | ⟨failed, some, closable⟩)
        · refine .inl ⟨ok, empty, ?_, ?_⟩
          · rw [logged, List.append_assoc, List.map_cons]
            rfl
          · rw [Closable, closable]
            exact and_iff_right fine
        · exact .inr ⟨failed, some, fun both => closable both.2⟩
      · intro failed failure
        refine .inr ⟨⟨failure, rfl⟩, ?_, fun both => failed both.1⟩
        rw [keys]
        exact List.cons_ne_nil fd rest

end Closing

section Module

variable {locals : ModuleLocals Object} {diskId : Nat}

theorem wp_onOpenFiles {State : Type} {contract : Contract Call Answer State} {promise : Promise A}
    {post : Except Failure A → ModuleLocals Object → State → Prop} {state : State} :
    Async.wp contract (onOpenFiles promise) post locals state ↔
      Async.wp contract promise (fun result openFiles => post result { locals with openFiles := openFiles })
        locals.openFiles state := by
  have unfolded : (onOpenFiles promise).start locals = promise.start locals.openFiles >>=
      fun result => pure (result.1, { locals with openFiles := result.2 }) := rfl
  rw [Async.wp, unfolded, wp_bind]
  rfl

/-- Each file has been closed once and then the filesystem, no file is left open, and the number of
the disk is free again. -/
def Released (diskId : Nat) (log : List Call) (files : List Ptr) (locals' : ModuleLocals Object)
    (log' : List Call) : Prop :=
  log' = log ++ files.map .fileClose ++ [.close] ∧ locals'.openFiles.keys = [] ∧
    locals'.table.objects.has diskId = false ∧ ¬locals'.table.ids.Used diskId

/-- An unmount releases everything exactly if no close fails. -/
theorem umount_closing (used : locals.table.ids.Used diskId) :
    Async.wp (closing codes last) (umount diskId)
      (fun _ locals' log' => Released diskId log locals.openFiles.keys locals' log' ↔
        Closable codes last log locals.openFiles.keys) locals log := by
  rw [umount, Async.wp_bind, wp_onOpenFiles, closeAllFileDescriptors, Async.wp_bind, Async.wp_get,
    Async.andThen_ok]
  apply Async.wp_mono (closeKeys_closing rfl)
  rintro result openFiles log' (⟨rfl, empty, logged, closable⟩ | ⟨⟨failure, rfl⟩, some, closable⟩)
  · rw [Async.andThen_ok, Async.wp_bind, wp_onOpenFiles]
    apply @wp_negating codes last log' .close id (last log')
    · exact fun answer log' allowed => allowed
    · intro fine
      rw [Async.andThen_ok, Async.wp_modify, closable]
      refine iff_of_true ⟨by rw [logged], empty, ?_, ?_⟩ fine
      · rw [← Bool.not_eq_true, InsertionMap.has_iff]
        exact fun there => ((InsertionMap.mem_keys_delete _ _ _).mp there).2 rfl
      · exact fun still => ((IdPool.used_releaseId_iff _ _ _).mp still).2 rfl
    · intro failed failure
      rw [closable]
      exact iff_of_false (fun released => released.2.2.2 used) failed
  · exact iff_of_false (fun released => some released.2.1) closable

/-- What is open at its end decides about the whole of `withMountedDisk`, however `fn` settles. -/
theorem withMountedDisk_closing {openFiles : OpenFiles} {table : ObjectTable Object}
    (used : table.ids.Used diskId) {mount : ModulePromise Object Nat}
    {fn : Nat → ModulePromise Object A} {log₀ : List Call}
    (settles : Async.wp (closing codes last) mount (fun mounted locals₁ log₁ =>
      mounted = .ok diskId ∧ Async.wp (closing codes last) (fn diskId) (fun result locals₂ log₂ =>
        result ≠ .error .unsettled ∧ locals₂ = ⟨openFiles, table⟩ ∧ log₂ = log) locals₁ log₁)
      locals log₀) :
    Async.wp (closing codes last) (withMountedDisk mount fn)
      (fun _ locals' log' => Released diskId log openFiles.keys locals' log' ↔
        Closable codes last log openFiles.keys) locals log₀ := by
  rw [withMountedDisk, Async.wp_bind]
  apply Async.wp_mono settles
  rintro mounted locals₁ log₁ ⟨rfl, runs⟩
  rw [Async.andThen_ok]
  apply awaitFinally_wp
  apply Async.wp_mono runs
  rintro result locals₂ log₂ ⟨settled, rfl, rfl⟩
  exact ⟨fun bad => absurd bad settled, fun _ => umount_closing used⟩

end Module

/-- An unmount releases everything, and so does `withMountedDisk` whenever its `fn` settles and leaves
these files open. -/
def ReleasesAll (codes : List Call → Ptr → Errcode) (last : List Call → Errcode) (log : List Call)
    (openFiles : OpenFiles) : Prop :=
  ∀ (Object : Type) (diskId : Nat) (table : ObjectTable Object), table.ids.Used diskId →
    Async.wp (closing codes last) (umount diskId)
      (fun _ locals' log' => Released diskId log openFiles.keys locals' log') ⟨openFiles, table⟩ log ∧
    ∀ (A : Type) (mount : ModulePromise Object Nat) (fn : Nat → ModulePromise Object A)
      (locals : ModuleLocals Object) (log₀ : List Call),
      Async.wp (closing codes last) mount (fun mounted locals₁ log₁ =>
        mounted = .ok diskId ∧ Async.wp (closing codes last) (fn diskId) (fun result locals₂ log₂ =>
          result ≠ .error .unsettled ∧ locals₂ = ⟨openFiles, table⟩ ∧ log₂ = log) locals₁ log₁)
        locals log₀ →
      Async.wp (closing codes last) (withMountedDisk mount fn)
        (fun _ locals' log' => Released diskId log openFiles.keys locals' log') locals log₀

theorem closingLibrary_honours (codes : List Call → Ptr → Errcode) (last : List Call → Errcode) :
    (closing codes last).Honoured (closingLibrary codes last) id := by
  intro call log
  cases call with
  | fileClose file => exact ⟨rfl, rfl⟩
  | close => exact ⟨rfl, rfl⟩
  | _ => exact ⟨rfl, trivial⟩

/-- A module in which the disk has the first number. -/
def oneDisk : ObjectTable Unit where
  objects := InsertionMap.empty.set 1 ()
  ids := { next := 2, released := [] }

theorem closable_of_releasesAll {openFiles : OpenFiles}
    (releases : ReleasesAll codes last log openFiles) : Closable codes last log openFiles.keys := by
  have used : oneDisk.ids.Used 1 := by
    refine ⟨by decide, List.not_mem_nil⟩
  have both := Program.run_of_wp (closingLibrary_honours codes last)
    (Program.wp_and (releases Unit 1 oneDisk used).1 (umount_closing used))
  exact both.2.mp both.1

/-- Everything is released exactly if no close fails. -/
theorem releasesAll_iff (codes : List Call → Ptr → Errcode) (last : List Call → Errcode)
    (log : List Call) (openFiles : OpenFiles) :
    ReleasesAll codes last log openFiles ↔ Closable codes last log openFiles.keys := by
  apply Iff.intro
  · exact closable_of_releasesAll
  · intro closable Object diskId table used
    apply And.intro
    · apply Async.wp_mono (umount_closing used)
      exact fun _ _ _ released => released.mpr closable
    · intro A mount fn locals log₀ settles
      apply Async.wp_mono (withMountedDisk_closing used settles)
      exact fun _ _ _ released => released.mpr closable

/-- The first of two closes fails: the second file is not closed, nor is the filesystem. -/
theorem failed_close_keeps :
    ¬ReleasesAll (fun _ file => if file = 1 then EIO else 0) (fun _ => 0) []
      ((InsertionMap.empty.set 1 0).set 2 0) := by
  intro releases
  have closable := closable_of_releasesAll releases
  exact absurd closable.1 (by decide)

end NodeExt2fs.Unmounting
