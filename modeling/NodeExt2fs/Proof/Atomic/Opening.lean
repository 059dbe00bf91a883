import NodeExt2fs.Construction.Library.Failures
import NodeExt2fs.Proof.Library.Reference
import NodeExt2fs.Proof.Library.Requests
import NodeExt2fs.Proof.Trees.Adding

/-!
This file says when `open` fails without a trace, whatever call fails on its way.
-/

namespace NodeExt2fs.Atomic
open Programs Structures Glue Library
open Program (wp wp_pure wp_bind wp_ite wp_mono may may_bind may_mono not_wp_of_may)

variable {resolver : Resolver} {before after : Sized}

/-- No entry was added, no inode came into use, and no inode in use became shorter. -/
structure Clean (before after : Sized) : Prop where
  entries : ∀ dir, (after.volume.entries dir).Sublist (before.volume.entries dir)
  inUse : ∀ ino, after.volume.inUse ino = true → before.volume.inUse ino = true
  sizes : ∀ ino, before.volume.inUse ino = true → before.sizes ino ≤ after.sizes ino

theorem Clean.refl (state : Sized) : Clean state state :=
  ⟨fun _ => List.Sublist.refl _, fun _ used => used, fun _ _ => Nat.le_refl _⟩

/-- A file can be created: its directory is found and takes the name, and an inode is free. -/
structure CanCreate (resolver : Resolver) (volume : Volume) (path : Path) (flags : BitVec 32)
    (dir : Path) (name : Name) (parent free : Ino) : Prop where
  creates : hasFlag flags O_CREAT = true
  split : strrchr path = some (dir, name)
  named : name ≠ []
  found : resolver.walkFollow volume (dir ++ [slash]) = .ok parent
  nonzero : parent ≠ 0
  directory : volume.isDir parent = true
  room : volume.fits parent name = true ∨ volume.grows parent = true
  positive : free ≠ 0
  bounded : free ≤ volume.inodesCount
  unused : volume.inUse free = false

/-- A file that is not empty can be opened and truncated, with memory for its handle. -/
structure CanTruncate (resolver : Resolver) (state : Sized) (path : Path) (flags : BitVec 32)
    (ino : Ino) (file : Ptr) : Prop where
  truncates : hasFlag flags O_TRUNC = true
  found : resolver.lookedUp state.volume path flags = .ok ino
  nonzero : ino ≠ 0
  shared : hasFlag flags O_EXCL = false
  directory : hasFlag flags O_DIRECTORY = true → state.volume.isDir ino = true
  used : state.volume.inUse ino = true
  nonempty : state.sizes ino ≠ 0
  valid : file ≠ 0
  closed : state.volume.files file = none

/-- A call that opens a file may have each of the effects of a library that fails. -/
theorem wp_failing {state : Sized} {call : Call} {post : Answer call → Sized → Prop}
    (permitted : opening call = true)
    (rest : ∀ answer after, (failing resolver).allows state call answer after → post answer after) :
    wp (failing resolver) call.perform post state :=
  ⟨permitted, rest⟩

theorem same_of_quiet {before after : Sized} (volume : after.volume = before.volume)
    (sizes : after.sizes = before.sizes) : after = before := by
  cases before
  cases after
  cases volume
  cases sizes
  rfl

/-- A lookup finds what the path leads to, or fails. -/
theorem stringToInode_kept (path : Path) (follow : Bool) (state : Sized) :
    wp (failing resolver) (stringToInode path follow)
      (fun ino after => after = state ∧ (ino ≠ 0 →
        (if follow then resolver.walkFollow state.volume path
          else resolver.walk state.volume path) = .ok ino)) state := by
  unfold stringToInode
  cases follow with
  | true =>
      simp only [if_true, wp_bind]
      apply wp_failing rfl
      intro answer after allowed
      have same := same_of_quiet allowed.1.1 allowed.2.2.2
      rw [wp_ite]
      refine ⟨fun _ => ⟨same, fun bad => absurd rfl bad⟩, fun fine => ⟨same, fun _ => ?_⟩⟩
      exact (walk_of_resolved allowed.1.2 (not_not.mp fine)).1
  | false =>
      simp only [Bool.false_eq_true, if_false, wp_bind]
      apply wp_failing rfl
      intro answer after allowed
      have same := same_of_quiet allowed.1.1 allowed.2.2.2
      rw [wp_ite]
      refine ⟨fun _ => ⟨same, fun bad => absurd rfl bad⟩, fun fine => ⟨same, fun _ => ?_⟩⟩
      exact (walk_of_resolved allowed.1.2 (not_not.mp fine)).1

/-- A directory that cannot take the name does not take it. -/
theorem expanding_kept {state : Sized} {dir : Ino} {name : Name}
    (stuck : state.volume.isDir dir = true →
      state.volume.fits dir name = false ∧ state.volume.grows dir = false)
    (ino : Ino) (fileType : Nat) :
    wp (failing resolver) (expanding dir (ext2fsLink dir name ino fileType))
      (fun code after => code ≠ 0 ∧ Clean state after) state := by
  have noLink {state : Sized} {code : Errcode} {after : Sized}
      (stuck : state.volume.isDir dir = true → state.volume.fits dir name = false)
      (allowed : (failing resolver).allows state (.link dir name ino fileType) code after) :
      code ≠ 0 ∧ after = state := by
    obtain ⟨linked, _, roomy, sizes⟩ := allowed
    rcases linked with ⟨fine, directory, _⟩ | ⟨bad, same, _⟩
    · exact absurd ((stuck directory).symm.trans (roomy fine)) Bool.noConfusion
    · exact ⟨bad, same_of_quiet same sizes⟩
  rw [expanding, wp_bind]
  apply wp_failing rfl
  intro code after allowed
  obtain ⟨bad, same⟩ := noLink (fun directory => (stuck directory).1) allowed
  rw [same, wp_ite]
  refine ⟨fun _ => ?_, fun _ => ⟨bad, .refl state⟩⟩
  rw [wp_bind]
  apply wp_failing rfl
  intro grown after allowed
  obtain ⟨expanded, _, roomy, sizes⟩ := allowed
  rw [wp_ite]
  rcases expanded with ⟨fine, like, _⟩ | ⟨bad', same, _⟩
  · refine ⟨fun bad => absurd fine bad, fun _ => ?_⟩
    -- Only what is no directory may have grown.
    have file : state.volume.isDir dir = false := by
      rcases directory : state.volume.isDir dir with _ | _
      · rfl
      · exact absurd ((stuck directory).2.symm.trans (roomy fine)) Bool.noConfusion
    obtain ⟨fits, grows, equal⟩ := like
    apply wp_failing rfl
    intro code' after' allowed
    have directory : after.volume.isDir dir = false := by
      rw [equal]
      exact file
    obtain ⟨bad', same⟩ :=
      noLink (fun isDir => absurd (directory.symm.trans isDir) Bool.noConfusion) allowed
    rw [same]
    refine ⟨bad', ?_, ?_, fun ino _ => sizes ino⟩
    · intro other
      rw [equal]
    · intro other used
      rw [equal] at used
      exact used
  · refine ⟨fun _ => ⟨bad', ?_, ?_, fun ino _ => sizes ino⟩, fun fine => absurd bad' fine⟩
    · intro other
      rw [same]
    · intro other used
      rwa [same] at used

/-- Where no file can be created, `create_file` fails without a trace. -/
theorem createFile_kept {state : Sized} {path : Path} {flags : BitVec 32}
    (creates : hasFlag flags O_CREAT = true)
    (unable : ∀ dir name parent free,
      ¬CanCreate resolver state.volume path flags dir name parent free) (mode : BitVec 32) :
    wp (failing resolver) (createFile path mode)
      (fun created after => created.1 ≠ 0 ∧ Clean state after) state := by
  rw [createFile, wp_bind, getParentDirIno]
  rcases split : strrchr path with _ | ⟨dir, name⟩
  · dsimp only
    rw [wp_pure, if_pos rfl]
    exact ⟨(by decide : ENOTDIR ≠ 0), .refl state⟩
  · apply wp_mono (stringToInode_kept (dir ++ [slash]) true state)
    intro parent after outcome
    obtain ⟨same, found⟩ := outcome
    rw [same, wp_ite]
    refine ⟨fun _ => ⟨(by decide : ENOTDIR ≠ 0), .refl state⟩, fun nonzero => ?_⟩
    rw [wp_bind]
    apply wp_failing rfl
    intro new after allowed
    have same := same_of_quiet allowed.1.1 allowed.2.2.2
    dsimp only
    rw [same, wp_ite]
    refine ⟨fun bad => ⟨bad, .refl state⟩, fun fine => ?_⟩
    obtain ⟨positive, bounded, unused⟩ := allowed.1.2 (not_not.mp fine)
    rcases given : getFilename path with _ | filename
    · exact ⟨(by decide : EISDIR ≠ 0), .refl state⟩
    · obtain ⟨equal, nonempty⟩ := getFilename_eq split given
      have named : name ≠ [] := equal ▸ nonempty
      have stuck : state.volume.isDir parent = true →
          state.volume.fits parent filename = false ∧ state.volume.grows parent = false := by
        intro directory
        rw [← Bool.not_eq_true, ← Bool.not_eq_true, ← not_or, equal]
        intro room
        exact unable dir name parent new.2 ⟨creates, split, named, found nonzero, nonzero, directory,
          room, positive, bounded, unused⟩
      dsimp only
      rw [wp_bind]
      apply wp_mono (expanding_kept stuck new.2 EXT2_FT_REG_FILE)
      intro code after failed
      rw [wp_ite]
      exact ⟨fun bad => ⟨bad, failed.2⟩, fun fine => absurd failed.1 fine⟩

/-- A code that is not zero is returned as a negative number. -/
theorem negative_of_code {code : Errcode} (bad : code ≠ 0) : -(code : Int) ≠ 0 :=
  fun zero => bad (Int.natCast_eq_zero.mp (Int.neg_eq_zero.mp zero))

/-- A file that is opened is not truncated when the call fails. -/
theorem openInode_kept {state : Sized} {path : Path} {flags : BitVec 32} {ino : Ino}
    (found : resolver.lookedUp state.volume path flags = .ok ino) (nonzero : ino ≠ 0)
    (shared : hasFlag flags O_EXCL = false)
    (directory : hasFlag flags O_DIRECTORY = true → state.volume.isDir ino = true)
    (unable : ∀ ino file, ¬CanTruncate resolver state path flags ino file) :
    wp (failing resolver) (openInode flags ino) (fun ret after => ret < 0 → Clean state after)
      state := by
  have valid (file : Ptr) {after : Sized} (bad : (file : Int) < 0) : Clean state after :=
    absurd bad (Int.not_lt.mpr (Int.natCast_nonneg file))
  rw [openInode, wp_bind]
  apply wp_failing rfl
  intro answer opened allowed
  obtain ⟨opens, _, _, sizes⟩ := allowed
  dsimp only
  rw [wp_ite]
  rcases opens with ⟨fine, positive, closed, same⟩ | ⟨bad, same⟩
  · refine ⟨fun bad => absurd fine bad, fun _ => ?_⟩
    rw [wp_ite]
    refine ⟨fun truncated => ?_, fun _ => valid answer.2⟩
    rw [wp_bind]
    apply wp_failing rfl
    intro code after allowed
    obtain ⟨wrote, _, _, resized⟩ := allowed
    have handle : opened.volume.files answer.2 = some
        { ino := ino
          mode := state.volume.mode ino
          links := state.volume.links ino
          wasInUse := state.volume.inUse ino
          intact := true } := by
      rw [same]
      exact Function.update_self _ _ _
    rw [wp_ite]
    refine ⟨fun _ _ => ?_, fun _ => valid answer.2⟩
    rw [Resizes, handle] at resized
    obtain ⟨files, itself, _, wrote⟩ := FileResized.written wrote
    rw [FileWritten, show ({ opened.volume with files := files } : Volume).files answer.2 = _ from
      itself.trans handle] at wrote
    obtain ⟨entries, target, fewer, _, _, like⟩ := wrote
    have shorter : ∀ other, state.volume.inUse other = true →
        state.sizes other ≤ Function.update opened.sizes ino 0 other := by
      intro other used
      rw [show opened.sizes = state.sizes from sizes]
      by_cases here : other = ino
      · rw [here] at used ⊢
        rw [Function.update_self]
        by_contra nonempty
        exact unable ino answer.2 ⟨truncated, found, nonzero, shared, directory, used,
          fun zero => nonempty (Nat.le_of_eq zero), positive, closed⟩
      · rw [Function.update_of_ne here]
    have listed : ∀ other, (Function.update opened.volume.entries ino entries other).Sublist
        (state.volume.entries other) := by
      intro other
      rw [same] at fewer ⊢
      by_cases here : other = ino
      · rw [here, Function.update_self]
        exact fewer
      · rw [Function.update_of_ne here]
        exact List.Sublist.refl _
    have kept : after.volume.entries = Function.update opened.volume.entries ino entries ∧
        after.volume.inUse = state.volume.inUse := by
      rw [same] at like ⊢
      rcases like with ⟨fits, grows, equal⟩ | ⟨fits, grows, equal⟩
      · rw [equal]
        exact ⟨rfl, rfl⟩
      · rw [equal]
        exact ⟨rfl, rfl⟩
    refine ⟨fun other => ?_, fun other used => kept.2 ▸ used, fun other used => ?_⟩
    · rw [kept.1]
      exact listed other
    · rcases resized with set | ⟨_, unset⟩
      · rw [set]
        exact shorter other used
      · rw [unset]
        exact Nat.le_of_eq (congrFun sizes other).symm
  · refine ⟨fun _ _ => ?_, fun fine => absurd bad fine⟩
    rw [same_of_quiet same sizes]
    exact .refl state

theorem openFound_kept {state : Sized} {path : Path} {flags : BitVec 32} {ino : Ino}
    (found : resolver.lookedUp state.volume path flags = .ok ino) (nonzero : ino ≠ 0)
    (shared : hasFlag flags O_EXCL = false)
    (unable : ∀ ino file, ¬CanTruncate resolver state path flags ino file) :
    wp (failing resolver) (openFound flags (0, ino)) (fun ret after => ret < 0 → Clean state after)
      state := by
  rw [openFound, wp_ite]
  refine ⟨fun bad => absurd rfl bad, fun _ => ?_⟩
  rw [wp_ite]
  refine ⟨fun _ => ?_, fun other => ?_⟩
  · rw [wp_bind]
    apply wp_failing rfl
    intro code after allowed
    have same := same_of_quiet allowed.1.1 allowed.2.2.2
    rw [same, wp_ite]
    refine ⟨fun _ _ => .refl state, fun fine => ?_⟩
    exact openInode_kept found nonzero shared (fun _ => allowed.1.2.1 (not_not.mp fine)) unable
  · exact openInode_kept found nonzero shared (fun only => absurd only other) unable

/-- Where no file can be created, the inode is one that the path leads to. -/
theorem findOrCreate_kept {state : Sized} {path : Path} {flags : BitVec 32}
    (unable : ∀ dir name parent free,
      ¬CanCreate resolver state.volume path flags dir name parent free) (mode : BitVec 32) :
    wp (failing resolver) (findOrCreate path flags mode)
      (fun found after => found.1 ≠ 0 ∧ Clean state after ∨
        after = state ∧ found.1 = 0 ∧ found.2 ≠ 0 ∧ hasFlag flags O_EXCL = false ∧
          resolver.lookedUp state.volume path flags = .ok found.2) state := by
  rw [findOrCreate, wp_bind]
  apply wp_mono (stringToInode_kept path (!hasFlag flags O_NOFOLLOW) state)
  intro ino after outcome
  obtain ⟨same, found⟩ := outcome
  rw [same, wp_ite]
  refine ⟨fun _ => ?_, fun nonzero => ?_⟩
  · rw [wp_ite]
    refine ⟨fun _ => .inl ⟨by decide, .refl state⟩, fun creates => ?_⟩
    rw [Bool.not_eq_true', Bool.not_eq_false] at creates
    rw [wp_bind]
    apply wp_mono (createFile_kept creates unable mode)
    intro created after outcome
    dsimp only
    rw [wp_ite]
    exact ⟨fun bad => .inl ⟨negative_of_code bad, outcome.2⟩, fun fine => absurd outcome.1 fine⟩
  · rw [wp_ite]
    refine ⟨fun _ => .inl ⟨by decide, .refl state⟩, fun shared => ?_⟩
    exact .inr ⟨rfl, rfl, nonzero, Bool.eq_false_iff.mpr shared, found nonzero⟩

/-- Where nothing can be created or truncated, `open` fails without a trace. -/
theorem nodeExt2fsOpen_kept {state : Sized} {path : Path} {flags : BitVec 32}
    (uncreated : ∀ dir name parent free,
      ¬CanCreate resolver state.volume path flags dir name parent free)
    (untruncated : ∀ ino file, ¬CanTruncate resolver state path flags ino file) (mode : BitVec 32) :
    wp (failing resolver) (nodeExt2fsOpen path flags mode)
      (fun ret after => ret < 0 → Clean state after) state := by
  rw [nodeExt2fsOpen_eq, wp_bind]
  apply wp_mono (findOrCreate_kept uncreated mode)
  intro found after outcome
  rcases outcome with ⟨bad, clean⟩ | ⟨same, fine, nonzero, shared, looks⟩
  · rw [openFound, wp_ite]
    exact ⟨fun _ _ => clean, fun fine => absurd bad fine⟩
  · obtain ⟨code, ino⟩ := found
    rw [same, show code = 0 from fine]
    exact openFound_kept looks nonzero shared untruncated

theorem may_failing {state : Sized} (call : Call) {post : Answer call → Sized → Prop}
    (answer : Answer call) (after : Sized)
    (allowed : (failing resolver).allows state call answer after) (rest : post answer after) :
    may (failing resolver) call.perform post state :=
  ⟨answer, after, allowed, rest⟩

/-- Every lookup may run out of memory. -/
theorem resolved_no_memory (result : Except Errcode Ino) :
    Resolved False result (EXT2_ET_NO_MEMORY, 0) := by
  cases result with
  | ok ino => exact .inr ⟨False.elim, by decide, by decide⟩
  | error code => exact ⟨by decide, .inr ⟨not_false, by decide⟩⟩

theorem may_miss (state : Sized) (path : Path) (follow : Bool) :
    may (failing resolver) (stringToInode path follow) (fun ino after => ino = 0 ∧ after = state)
      state := by
  have failed : EXT2_ET_NO_MEMORY ≠ 0 := by decide
  unfold stringToInode
  cases follow with
  | true =>
      simp only [if_true, may_bind]
      refine may_failing (.nameiFollow path) (EXT2_ET_NO_MEMORY, 0) state
        ⟨⟨rfl, resolved_no_memory _⟩, fun _ _ => rfl, trivial, rfl⟩ ?_
      rw [if_pos failed]
      exact ⟨rfl, rfl⟩
  | false =>
      simp only [Bool.false_eq_true, if_false, may_bind]
      refine may_failing (.namei path) (EXT2_ET_NO_MEMORY, 0) state
        ⟨⟨rfl, resolved_no_memory _⟩, fun _ _ => rfl, trivial, rfl⟩ ?_
      rw [if_pos failed]
      exact ⟨rfl, rfl⟩

theorem may_find {state : Sized} {path : Path} {follow : Bool} {ino : Ino}
    (found : (if follow then resolver.walkFollow state.volume path
      else resolver.walk state.volume path) = .ok ino) (nonzero : ino ≠ 0) :
    may (failing resolver) (stringToInode path follow) (fun other after => other = ino ∧ after = state)
      state := by
  unfold stringToInode
  cases follow with
  | true =>
      simp only [if_true, may_bind] at found ⊢
      refine may_failing (.nameiFollow path) (0, ino) state
        ⟨⟨rfl, found ▸ .inl ⟨rfl, rfl, nonzero⟩⟩, fun bad => absurd rfl bad, trivial, rfl⟩ ?_
      rw [if_neg (not_not.mpr rfl)]
      exact ⟨rfl, rfl⟩
  | false =>
      simp only [Bool.false_eq_true, if_false, may_bind] at found ⊢
      refine may_failing (.namei path) (0, ino) state
        ⟨⟨rfl, found ▸ .inl ⟨rfl, rfl, nonzero⟩⟩, fun bad => absurd rfl bad, trivial, rfl⟩ ?_
      rw [if_neg (not_not.mpr rfl)]
      exact ⟨rfl, rfl⟩

/-- A directory with room takes the name. -/
theorem may_expanding_linked {state : Sized} {dir : Ino} {name : Name}
    (directory : state.volume.isDir dir = true)
    (room : state.volume.fits dir name = true ∨ state.volume.grows dir = true) (ino : Ino)
    (fileType : Nat) :
    may (failing resolver) (expanding dir (ext2fsLink dir name ino fileType))
      (fun code after => code = 0 ∧ after.volume.inUse = state.volume.inUse) state := by
  have link {state : Sized} (directory : state.volume.isDir dir = true)
      (fits : state.volume.fits dir name = true) :
      ∃ after, (failing resolver).allows state (.link dir name ino fileType) (0 : Errcode) after ∧
        after.volume.inUse = state.volume.inUse :=
    ⟨⟨state.volume.setEntries dir ([] ++ { inode := ino, name := name, fileType := fileType } ::
        state.volume.entries dir), state.sizes⟩,
      ⟨.inl ⟨rfl, directory, [], _, rfl, _, _, rfl⟩, fun bad => absurd rfl bad, fun _ => fits, rfl⟩, rfl⟩
  rw [expanding, may_bind]
  by_cases fits : state.volume.fits dir name = true
  · obtain ⟨after, allowed, kept⟩ := link directory fits
    refine may_failing (.link dir name ino fileType) (0 : Errcode) after allowed ?_
    rw [if_neg (by decide)]
    exact ⟨rfl, kept⟩
  · have grows := room.resolve_left fits
    refine may_failing (.link dir name ino fileType) EXT2_ET_DIR_NO_SPACE state
      ⟨.inr ⟨(by decide : EXT2_ET_DIR_NO_SPACE ≠ 0), rfl, False.elim⟩, fun _ _ => rfl,
        fun bad => absurd bad (by decide : EXT2_ET_DIR_NO_SPACE ≠ 0), rfl⟩ ?_
    rw [if_pos rfl, may_bind]
    refine may_failing (.expandDir dir) (0 : Errcode)
      ⟨{ state.volume with fits := fun _ _ => true }, state.sizes⟩
      ⟨.inl ⟨rfl, ⟨_, _, rfl⟩, fun _ => rfl⟩, fun bad => absurd rfl bad, fun _ => grows,
        fun _ => Nat.le_refl _⟩ ?_
    rw [if_neg (by decide)]
    obtain ⟨after, allowed, kept⟩ := @link
      ⟨{ state.volume with fits := fun _ _ => true }, state.sizes⟩ directory rfl
    exact may_failing (.link dir name ino fileType) (0 : Errcode) after allowed ⟨rfl, kept⟩

/-- A file that has its inode marked may not be written. -/
theorem may_fillFile_fail (state : Sized) (ino : Ino) (mode : BitVec 32) :
    may (failing resolver) (fillFile ino mode)
      (fun code after => code ≠ 0 ∧ after.volume.inUse ino = true) state := by
  -- From here on the inode is in use, and the calls change nothing until the write fails.
  let marked : Sized := ⟨state.volume.allocStats ino 1, state.sizes⟩
  have used : marked.volume.inUse ino = true := Function.update_self _ _ _
  rw [fillFile, may_bind]
  refine may_failing (.testInodeBitmap ino) false state ⟨rfl, fun _ _ => rfl, trivial, rfl⟩ ?_
  rw [may_bind]
  refine may_failing (.inodeAllocStats ino 1 false) () marked
    ⟨rfl, fun bad => absurd rfl bad, trivial, rfl⟩ ?_
  rw [may_bind]
  refine may_failing .time 0 marked ⟨rfl, fun _ _ => rfl, trivial, rfl⟩ ?_
  rw [may_bind]
  refine may_failing (.inodeSizeSet (newFileInode mode 0) 0) (0, newFileInode mode 0) marked
    ⟨⟨rfl, ⟨rfl, rfl⟩, fun _ => rfl⟩, fun _ _ => rfl, trivial, rfl⟩ ?_
  dsimp only
  rw [if_neg (not_not.mpr rfl), chooseLayout, bind_assoc, may_bind]
  refine may_failing .hasFeatureInlineData false marked ⟨rfl, fun _ _ => rfl, trivial, rfl⟩ ?_
  rw [if_neg Bool.false_ne_true, bind_assoc, may_bind]
  refine may_failing .hasFeatureExtents false marked ⟨rfl, fun _ _ => rfl, trivial, rfl⟩ ?_
  rw [if_neg Bool.false_ne_true, pure_bind]
  dsimp only
  rw [if_neg (not_not.mpr rfl), may_bind]
  refine may_failing (.writeNewInode ino (newFileInode mode 0)) EXT2_ET_NO_MEMORY marked
    ⟨.inr ⟨not_false, (by decide : EXT2_ET_NO_MEMORY ≠ 0), .inl rfl⟩, fun _ _ => rfl, trivial,
      fun _ _ => rfl⟩ ?_
  rw [if_pos (by decide)]
  exact ⟨by decide, used⟩

/-- The file that was created stays when it cannot be written. -/
theorem may_create {state : Sized} {path dir : Path} {flags : BitVec 32} {name : Name}
    {parent free : Ino} (can : CanCreate resolver state.volume path flags dir name parent free)
    (mode : BitVec 32) :
    may (failing resolver) (nodeExt2fsOpen path flags mode)
      (fun ret after => ¬(ret < 0 → Clean state after)) state := by
  have created : may (failing resolver) (createFile path mode)
      (fun created after => created.1 ≠ 0 ∧ after.volume.inUse free = true) state := by
    have filename : getFilename path = some name := by
      rw [getFilename_split can.split, if_neg can.named]
    rw [createFile, may_bind, getParentDirIno, can.split]
    apply may_mono (@may_find resolver state (dir ++ [slash]) true parent can.found can.nonzero)
    intro parent' after outcome
    rw [outcome.1, outcome.2, if_neg can.nonzero, may_bind]
    refine may_failing (.newInode parent mode) (0, free) state
      ⟨⟨rfl, fun _ => ⟨can.positive, can.bounded, can.unused⟩⟩, fun _ _ => rfl, trivial, rfl⟩ ?_
    dsimp only
    rw [if_neg (not_not.mpr rfl), filename]
    dsimp only
    rw [may_bind]
    apply may_mono (may_expanding_linked can.directory can.room free EXT2_FT_REG_FILE)
    intro code linked outcome
    rw [if_neg (not_not.mpr outcome.1), may_bind]
    exact may_mono (may_fillFile_fail linked free mode) fun _ _ failed => failed
  rw [nodeExt2fsOpen_eq, findOrCreate, may_bind, may_bind]
  apply may_mono (may_miss state path _)
  intro ino after outcome
  rw [outcome.1, outcome.2, if_pos rfl, can.creates, if_neg (by decide), may_bind]
  apply may_mono created
  intro made after outcome
  obtain ⟨code, ino⟩ := made
  dsimp only
  rw [if_pos outcome.1]
  show may (failing resolver) (openFound flags (-(code : Int), 0)) _ after
  rw [openFound, if_pos (negative_of_code outcome.1)]
  intro clean
  have used := (clean (Int.neg_neg_of_pos (Int.natCast_pos.mpr (Nat.pos_of_ne_zero outcome.1)))).inUse
    free outcome.2
  exact absurd (can.unused.symm.trans used) Bool.noConfusion

/-- The file stays truncated when its blocks cannot be freed. -/
theorem may_truncate {state : Sized} {path : Path} {flags : BitVec 32} {ino : Ino} {file : Ptr}
    (can : CanTruncate resolver state path flags ino file) (mode : BitVec 32) :
    may (failing resolver) (nodeExt2fsOpen path flags mode)
      (fun ret after => ¬(ret < 0 → Clean state after)) state := by
  have opened : may (failing resolver) (openInode flags ino)
      (fun ret after => ¬(ret < 0 → Clean state after)) state := by
    let handle : Handle :=
      { ino := ino
        mode := state.volume.mode ino
        links := state.volume.links ino
        wasInUse := state.volume.inUse ino
        intact := true }
    let held : Sized := ⟨state.volume.setFile file (some handle), state.sizes⟩
    have here : held.volume.files file = some handle := Function.update_self _ _ _
    rw [openInode, may_bind]
    refine may_failing (.fileOpen ino _) (0, file) held
      ⟨.inl ⟨rfl, can.valid, can.closed, rfl⟩, fun bad => absurd rfl bad, trivial, rfl⟩ ?_
    dsimp only
    rw [if_neg (not_not.mpr rfl), if_pos can.truncates, may_bind]
    refine may_failing (.fileSetSize file 0) EXT2_ET_NO_MEMORY
      ⟨held.volume, Function.update held.sizes ino 0⟩ ⟨?_, fun _ bad => ?_, trivial, ?_⟩ ?_
    · exact ⟨held.volume, .inl rfl, fileWritten_self (fun entries => .refl entries) held.volume file⟩
    · cases bad
    · rw [Resizes, here]
      exact .inl rfl
    · rw [if_pos (by decide)]
      intro clean
      have kept : state.sizes ino ≤ Function.update state.sizes ino 0 ino :=
        (clean (by decide)).sizes ino can.used
      rw [Function.update_self] at kept
      exact can.nonempty (Nat.le_zero.mp kept)
  rw [nodeExt2fsOpen_eq, findOrCreate, may_bind, may_bind]
  apply may_mono (may_find can.found can.nonzero)
  intro other after outcome
  rw [outcome.1, outcome.2, if_neg can.nonzero, can.shared, if_neg Bool.false_ne_true]
  show may (failing resolver) (openFound flags (0, ino)) _ state
  rw [openFound, if_neg (not_not.mpr rfl)]
  by_cases only : hasFlag flags O_DIRECTORY = true
  · rw [if_pos only, may_bind]
    refine may_failing (.checkDirectory ino) (0 : Errcode) state
      ⟨⟨rfl, fun _ => can.directory only, fun _ _ => rfl⟩, fun _ _ => rfl, trivial, rfl⟩ ?_
    rw [if_neg (not_not.mpr rfl)]
    exact opened
  · rw [if_neg only]
    exact opened

/-- Whatever call fails, `open` fails without a trace exactly when it can neither create a file nor
truncate one. -/
theorem openClean_iff (resolver : Resolver) (state : Sized) (path : Path) (flags mode : BitVec 32) :
    wp (failing resolver) (nodeExt2fsOpen path flags mode)
      (fun ret after => ret < 0 → Clean state after) state ↔
      (∀ dir name parent free,
        ¬CanCreate resolver state.volume path flags dir name parent free) ∧
      ∀ ino file, ¬CanTruncate resolver state path flags ino file := by
  apply Iff.intro
  · intro clean
    exact ⟨fun _ _ _ _ can => absurd clean (not_wp_of_may (may_create can mode)),
      fun _ _ can => absurd clean (not_wp_of_may (may_truncate can mode))⟩
  · intro unable
    exact nodeExt2fsOpen_kept unable.1 unable.2 mode

/-- Opening a new file `/b` with `O_CREAT` and `O_DIRECTORY` creates it and fails. -/
theorem open_created_failed :
    ((nodeExt2fsOpen [slash, 0x62] (O_CREAT ||| O_DIRECTORY) 0o644).run reference
      (Volume.holding [])).1 = -ENOTDIR ∧
    ¬Clean ⟨Volume.holding [], fun _ => 0⟩
      ⟨((nodeExt2fsOpen [slash, 0x62] (O_CREAT ||| O_DIRECTORY) 0o644).run reference
        (Volume.holding [])).2, fun _ => 0⟩ := by
  refine ⟨rfl, fun clean => ?_⟩
  exact absurd (clean.inUse 11 rfl) (by decide)

end NodeExt2fs.Atomic
