import NodeExt2fs.Construction.Js.SymbolicLinks
import NodeExt2fs.Construction.Library.LinkTargets
import NodeExt2fs.Construction.Library.Reference
import NodeExt2fs.Proof.Library.Pushing

/-!
This file compares what `readlink` returns with what `symlink` was given.
-/

namespace NodeExt2fs.Links
open Programs Structures Glue Js Library
open Program (wp wp_pure wp_bind wp_ite wp_mono)

section Library

variable {dest : Path} {inlineFeature : Bool} {blocksize : BitVec 32} {disk : LinkDisk}

/-- A call has its effect, and it fails with a code of libext2fs. -/
theorem wp_target (call : Call) {post : Answer call → LinkDisk → Prop}
    (rest : ∀ answer disk', (call.code answer = 0 ∨ EXT2_ET_BASE ≤ call.code answer) →
      disk.effect dest inlineFeature blocksize call answer disk' → post answer disk') :
    wp (linkTargets dest inlineFeature blocksize) call.perform post disk :=
  ⟨trivial, fun answer disk' allowed => rest answer disk' allowed.1 allowed.2⟩

/-- What libext2fs answers when its disk works: zero, or a code of its own. -/
def Coded (err : Errcode) : Prop := err = 0 ∨ EXT2_ET_BASE ≤ err

/-- A failure becomes a negative status. -/
theorem translateError_negative {err : Errcode} (coded : Coded err) (failed : err ≠ 0) :
    wp (linkTargets dest inlineFeature blocksize) (translateError err)
      (fun ret disk' => ret < 0 ∧ disk' = disk) disk := by
  have large : ¬ err < EXT2_ET_BASE := Nat.not_lt.mpr (coded.resolve_left failed)
  have negative := translateCode_neg err
  rw [translateError, if_neg large]
  generalize translateCode err = translation at negative ⊢
  obtain ⟨ret, isErr⟩ := translation
  simp only [wp_ite, wp_bind, wp_pure]
  apply And.intro
  · intro _
    apply wp_target .markSuperDirty
    intro _ disk₁ _ marked
    apply wp_target .flush
    intro _ disk₂ _ flushed
    refine ⟨negative, ?_⟩
    rw [show disk₂ = _ from flushed, show disk₁ = _ from marked]
  · intro _
    exact ⟨negative, trivial⟩

/-- The clock is not on the disk. -/
theorem getNow_target {post : Timespec → LinkDisk → Prop} (rest : ∀ now, post now disk) :
    wp (linkTargets dest inlineFeature blocksize) getNow post disk := by
  rw [getNow, wp_bind]
  apply wp_target .clockGettime
  intro answer disk₁ _ same
  rw [show disk₁ = disk from same, wp_ite]
  refine ⟨fun _ => rest answer.2, fun _ => ?_⟩
  apply wp_target .time
  intro seconds disk₂ _ still
  rw [show disk₂ = disk from still]
  exact rest _

/-- A new time of another inode leaves the link alone. -/
theorem updateMtime_target {parent : Ino} (other : disk.child ≠ some parent) :
    wp (linkTargets dest inlineFeature blocksize) (updateMtime parent none)
      (fun result disk' => result.1 ≤ 0 ∧ disk' = disk) disk := by
  rw [updateMtime, wp_bind]
  apply wp_target (.readInodeFull parent)
  intro answer disk₁ coded effect
  rw [show disk₁ = disk from effect.1, wp_ite]
  refine ⟨fun failed => ?_, fun _ => ?_⟩
  · rw [wp_bind]
    apply wp_mono (translateError_negative coded failed)
    intro ret disk₂ outcome
    exact ⟨Int.le_of_lt outcome.1, outcome.2⟩
  · rw [wp_bind]
    apply getNow_target
    intro now
    dsimp only
    rw [wp_bind]
    apply wp_target (.writeInodeFull parent _)
    intro code disk₂ coded written
    rw [show disk₂ = disk from written.trans (if_neg other), wp_ite]
    refine ⟨fun failed => ?_, fun _ => ⟨le_rfl, rfl⟩⟩
    rw [wp_bind]
    apply wp_mono (translateError_negative coded failed)
    intro ret disk₃ outcome
    exact ⟨Int.le_of_lt outcome.1, outcome.2⟩

/-- Reading an inode and writing it back leaves the disk as it was. -/
theorem rewriteChild_target {ino : Ino} (child : disk.child = some ino) :
    wp (linkTargets dest inlineFeature blocksize) (rewriteChild dest)
      (fun _ disk' => disk' = disk) disk := by
  rw [rewriteChild, wp_bind]
  apply wp_target (.namei dest)
  intro found disk₁ _ located
  rw [show disk₁ = disk from located.1, show found = (0, ino) from located.2 rfl ino child]
  dsimp only
  rw [wp_ite]
  refine ⟨fun failed => absurd rfl failed, fun _ => ?_⟩
  rw [wp_bind]
  apply wp_target (.readInodeFull ino)
  intro answer disk₂ _ effect
  rw [show disk₂ = disk from effect.1, show answer = (0, disk.inode) from effect.2 child]
  dsimp only
  rw [wp_ite]
  refine ⟨fun failed => absurd rfl failed, fun _ => ?_⟩
  rw [wp_bind]
  apply wp_target (.writeInodeFull ino disk.inode)
  intro code disk₃ coded written
  have still : disk₃ = disk := by
    rw [show disk₃ = _ from written, if_pos child]
  rw [still, wp_ite]
  refine ⟨fun failed => ?_, fun _ => rfl⟩
  apply wp_mono (translateError_negative coded failed)
  intro ret disk₄ outcome
  exact outcome.2

/-- After a success there is a link that stores the target. -/
def Made (inlineFeature : Bool) (blocksize : BitVec 32) (target : Name) (disk : LinkDisk) : Prop :=
  (∃ ino, ino ≠ 0 ∧ disk.child = some ino) ∧ disk.Stores inlineFeature blocksize target

/-- What an attempt leaves: a new link beside its directory, or nothing new. -/
def Attempted (inlineFeature : Bool) (blocksize : BitVec 32) (parent : Ino) (target : Name)
    (disk : LinkDisk) (code : Errcode) (disk' : LinkDisk) : Prop :=
  code = 0 ∧ disk'.child ≠ some parent ∧ Made inlineFeature blocksize target disk' ∨
    code ≠ 0 ∧ EXT2_ET_BASE ≤ code ∧ disk' = disk

theorem ext2fsSymlink_target (parent : Ino) (name target : Name) :
    wp (linkTargets dest inlineFeature blocksize) (ext2fsSymlink parent name target)
      (Attempted inlineFeature blocksize parent target disk) disk := by
  apply wp_target (.symlink parent name target)
  intro code disk' coded effect
  rcases effect with ⟨fine, new, stores⟩ | ⟨failed, same⟩
  · obtain ⟨ino, positive, apart, child⟩ := new
    refine .inl ⟨fine, ?_, ⟨ino, positive, child⟩, stores⟩
    intro clash
    rw [child] at clash
    exact apart (Option.some.inj clash)
  · exact .inr ⟨failed, coded.resolve_left failed, same⟩

/-- A directory that was expanded gets a second attempt. -/
theorem expanding_target (parent : Ino) (name target : Name) :
    wp (linkTargets dest inlineFeature blocksize)
      (expanding parent (ext2fsSymlink parent name target))
      (Attempted inlineFeature blocksize parent target disk) disk := by
  rw [expanding, wp_bind]
  apply wp_mono (ext2fsSymlink_target parent name target)
  intro code disk₁ attempted
  rw [wp_ite]
  refine ⟨fun full => ?_, fun _ => attempted⟩
  rcases attempted with ⟨fine, _⟩ | ⟨_, _, same⟩
  · rw [fine] at full
    exact absurd full (by decide)
  · rw [same, wp_bind]
    apply wp_target (.expandDir parent)
    intro grown disk₂ coded still
    rw [show disk₂ = disk from still, wp_ite]
    refine ⟨fun failed => .inr ⟨failed, coded.resolve_left failed, rfl⟩, fun _ => ?_⟩
    exact ext2fsSymlink_target parent name target

/-- A status that is no error comes with a link that stores the bytes given. -/
theorem nodeExt2fsSymlink_target (target : Path) :
    wp (linkTargets dest inlineFeature blocksize) (nodeExt2fsSymlink target dest)
      (fun ret disk' => 0 ≤ ret → Made inlineFeature blocksize target disk') disk := by
  have refused (err : Errcode) (coded : Coded err) (failed : err ≠ 0) (disk : LinkDisk) :
      wp (linkTargets dest inlineFeature blocksize) (translateError err)
        (fun ret disk' => 0 ≤ ret → Made inlineFeature blocksize target disk') disk := by
    apply wp_mono (translateError_negative coded failed)
    intro ret disk' outcome settled
    exact absurd settled (Int.not_le.mpr outcome.1)
  rw [nodeExt2fsSymlink, wp_bind]
  apply wp_target .strdup
  intro found disk₁ _ same
  rw [show disk₁ = disk from same]
  rw [wp_ite]
  refine ⟨fun _ settled => absurd settled (by decide), fun _ => ?_⟩
  rcases strrchr dest with _ | ⟨before, name⟩
  · exact fun settled => absurd settled (by decide)
  dsimp only
  rw [wp_bind]
  apply wp_target (.namei (before ++ [slash]))
  intro parent disk₂ coded located
  rw [show disk₂ = disk from located.1, wp_ite]
  refine ⟨fun failed => refused parent.1 coded failed disk, fun _ => ?_⟩
  rw [wp_bind]
  apply wp_mono (expanding_target parent.2 name target)
  intro code disk₃ attempted
  rw [wp_ite]
  rcases attempted with ⟨fine, apart, made⟩ | ⟨failed, large, _⟩
  · refine ⟨fun failed => absurd fine failed, fun _ => ?_⟩
    rw [wp_bind]
    apply wp_mono (updateMtime_target apart)
    intro stamped disk₄ outcome
    obtain ⟨bounded, still⟩ := outcome
    rw [still, wp_ite]
    refine ⟨fun failed settled => absurd (Int.le_antisymm bounded settled) failed, fun _ => ?_⟩
    obtain ⟨⟨ino, positive, child⟩, stores⟩ := made
    apply wp_mono (rewriteChild_target child)
    intro ret disk₅ kept _
    rw [kept]
    exact ⟨⟨ino, positive, child⟩, stores⟩
  · exact ⟨fun _ => refused code (.inr large) failed disk₃, fun fine => absurd failed fine⟩

/-- What `readlink` takes for the beginning of the target. -/
def pathnameOf (disk : LinkDisk) : List UInt8 :=
  if fastSymlink disk.inode.toInode = true then disk.inode.iBlock
  else if disk.inode.iFlags &&& EXT4_INLINE_DATA_FL ≠ 0#32 then disk.inlineData
  else disk.block

/-- What follows a call sees the array as it was before. -/
theorem wp_pushed {A : Type} {arrayId : Nat} {array : List Name} (call : Call)
    (other : ∀ number value, call ≠ .arrayPushBuffer number value) {next : Answer call → Routine A}
    {post : A × List Name → LinkDisk → Prop}
    (rest : ∀ answer disk', disk.effect dest inlineFeature blocksize call answer disk' →
      wp (linkTargets dest inlineFeature blocksize) (pushing arrayId array (next answer)) post disk') :
    wp (linkTargets dest inlineFeature blocksize) (pushing arrayId array (call.perform >>= next)) post
      disk := by
  apply wp_pushing_call call other trivial
  intro answer disk' allowed
  exact rest answer disk' allowed.2

/-- The array gets the string at the given place. -/
theorem wp_pushPathname {A : Type} {arrayId : Nat} {pathname behind : List UInt8}
    {next : Unit → Routine A} {post : A × List Name → LinkDisk → Prop}
    (rest : wp (linkTargets dest inlineFeature blocksize)
      (pushing arrayId [cString (pathname ++ behind)] (next ())) post disk) :
    wp (linkTargets dest inlineFeature blocksize)
      (pushing arrayId [] (pushPathname arrayId pathname behind >>= next)) post disk := by
  have pushed : pushing arrayId [] (pushPathname arrayId pathname behind) =
      pure ((), if arrayId = arrayId then [] ++ [cString (pathname ++ behind)] else []) := rfl
  rw [pushing_bind, pushed, if_pos rfl]
  exact rest

/-- `readlink` pushes the string at the place of the target. -/
theorem nodeExt2fsReadlink_target {ino : Ino} (child : disk.child = some ino) (positive : ino ≠ 0)
    (link : linuxSIslnk disk.inode.iMode = true) (arrayId : Nat) (behind : List UInt8) :
    wp (linkTargets dest inlineFeature blocksize)
      (pushing arrayId [] (nodeExt2fsReadlink dest arrayId behind))
      (fun result _ => result = (0, [cString (pathnameOf disk ++ behind)])) disk := by
  have found : stringToInode dest false = (Call.namei dest).perform >>= fun answer =>
      if answer.1 ≠ 0 then pure 0 else pure answer.2 := rfl
  rw [nodeExt2fsReadlink, found, bind_assoc]
  apply wp_pushed (.namei dest) (fun _ _ other => by cases other)
  intro answer disk₁ located
  rw [show disk₁ = disk from located.1, show answer = (0, ino) from located.2 rfl ino child]
  dsimp only
  rw [if_neg (not_not.mpr rfl), pure_bind, if_neg positive]
  apply wp_pushed (.readInode ino) (fun _ _ other => by cases other)
  intro answer disk₂ effect
  rw [show disk₂ = disk from effect.1, show answer = (0, disk.inode.toInode) from effect.2 child]
  dsimp only
  rw [if_neg (not_not.mpr rfl), link, if_neg (by decide)]
  apply wp_pushed (.isFastSymlink disk.inode.toInode) (fun _ _ other => by cases other)
  intro fast disk₃ effect
  rw [show disk₃ = disk from effect.1, show fast = _ from effect.2, wp_pushing_ite, pathnameOf]
  refine ⟨fun short => ?_, fun long => ?_⟩
  · rw [if_pos short]
    exact wp_pushPathname rfl
  · rw [if_neg long, wp_pushing_ite]
    refine ⟨fun inlined => ?_, fun blocked => ?_⟩
    · rw [if_pos inlined]
      apply wp_pushed (.getMem disk.inode.iSize) (fun _ _ other => by cases other)
      intro code disk₄ effect
      rw [show disk₄ = disk from effect.1, show code = 0 from effect.2, if_neg (not_not.mpr rfl)]
      apply wp_pushed (.inlineDataGet ino disk.inode.toInode) (fun _ _ other => by cases other)
      intro answer disk₅ effect
      rw [show disk₅ = disk from effect.1, show answer = (0, disk.inlineData) from effect.2 child]
      dsimp only
      rw [if_neg (not_not.mpr rfl)]
      apply wp_pushPathname
      apply wp_pushed .freeMem (fun _ _ other => by cases other)
      intro _ _ _
      rfl
    · rw [if_neg blocked]
      apply wp_pushed (.bmap ino disk.inode.toInode 0) (fun _ _ other => by cases other)
      intro answer disk₄ effect
      rw [show disk₄ = disk from effect.1, show answer = (0, disk.blk) from effect.2 child]
      dsimp only
      rw [if_neg (not_not.mpr rfl)]
      apply wp_pushed .loadBlocksize (fun _ _ other => by cases other)
      intro size disk₅ effect
      rw [show disk₅ = disk from effect.1]
      apply wp_pushed (.getMem size) (fun _ _ other => by cases other)
      intro code disk₆ effect
      rw [show disk₆ = disk from effect.1, show code = 0 from effect.2, if_neg (not_not.mpr rfl)]
      apply wp_pushed (.ioChannelReadBlk disk.blk) (fun _ _ other => by cases other)
      intro answer disk₇ effect
      rw [show disk₇ = disk from effect.1, show answer = (0, disk.block) from effect.2 rfl]
      dsimp only
      rw [if_neg (not_not.mpr rfl)]
      apply wp_pushPathname
      apply wp_pushed .freeMem (fun _ _ other => by cases other)
      intro _ _ _
      rfl

theorem acceptPath_accepted {raw path : List UInt8} (used : usePath raw = some path)
    {locals : OpenFiles} {post : Except Failure Path → OpenFiles → LinkDisk → Prop}
    (rest : post (.ok path) locals disk) :
    Async.wp (linkTargets dest inlineFeature blocksize) (acceptPath raw) post locals disk := by
  rw [acceptPath, Async.wp_lift, used]
  exact rest

/-- A link that was made stores the target without the slashes at its end. -/
theorem symlink_target {target raw : List UInt8} (clean : 0 ∉ target)
    (reached : usePath raw = some dest) (locals : OpenFiles) :
    Async.wp (linkTargets dest inlineFeature blocksize) (symlink target raw)
      (fun made _ disk' => made = .ok () →
        Made inlineFeature blocksize (rstripSlashes target) disk') locals disk := by
  have used : usePath target = some (rstripSlashes target) := if_neg clean
  rw [symlink, Async.wp_bind]
  apply acceptPath_accepted used
  rw [Async.andThen_ok, Async.wp_bind]
  apply acceptPath_accepted reached
  rw [Async.andThen_ok, Async.wp_bind, binding, Async.wp_lift, wp_bind]
  apply wp_mono (nodeExt2fsSymlink_target (rstripSlashes target))
  intro ret disk' stored
  rw [wp_pure, ccallThrowAsync]
  by_cases negative : ret < 0
  · rw [if_pos negative]
    intro made
    cases made
  · rw [if_neg negative]
    intro _
    exact stored (Int.not_lt.mp negative)

/-- What `readlink` resolves with when the given memory lies behind the target. -/
def readTarget (disk : LinkDisk) (behind : List UInt8) : LinkTarget :=
  .text (decodeUtf8 (cString (pathnameOf disk ++ behind)))

/-- `readlink` resolves with the text of the string at the place of the target. -/
theorem readlink_target {raw : List UInt8} (reached : usePath raw = some dest)
    {target : Name} (made : Made inlineFeature blocksize target disk) (arrayId : Nat)
    (behind : List UInt8) (locals : OpenFiles) :
    Async.wp (linkTargets dest inlineFeature blocksize) (readlink raw .missing arrayId behind)
      (fun result _ _ => result = .ok (readTarget disk behind)) locals disk := by
  obtain ⟨⟨ino, positive, child⟩, stores⟩ := made
  rw [readlink, Async.wp_bind, Async.wp_lift, wp_pure]
  show Async.andThen _ _ _ (.ok _) locals disk
  rw [Async.andThen_ok, Async.wp_bind]
  apply acceptPath_accepted reached
  rw [Async.andThen_ok, Async.wp_lift, wp_bind]
  apply wp_mono (nodeExt2fsReadlink_target child positive stores.link arrayId behind)
  intro result disk' pushed
  rw [pushed]
  rfl

end Library

section Strings

variable {inlineFeature : Bool} {blocksize : BitVec 32} {disk : LinkDisk} {target : List UInt8}

/-- A target in the inode or in a block ends with a NUL. -/
theorem cString_stored (stores : disk.Stores inlineFeature blocksize target) (clean : 0 ∉ target)
    (short : target.length < blocksize.toNat) (nonempty : target ≠ [])
    (kept : target.length < fastLength ∨ inlineFeature = false) (behind : List UInt8) :
    cString (pathnameOf disk ++ behind) = target := by
  have positive := List.length_pos_of_ne_nil nonempty
  rw [pathnameOf, fastSymlink, stores.link, stores.size]
  by_cases fast : target.length < fastLength
  · have isFast : (true && decide (target.length ≠ 0 ∧ target.length < fastLength)) = true := by
      simp [fast, nonempty]
    rw [if_pos isFast, stores.fast fast]
    exact cString_padded clean (by omega) behind
  · have slow : (true && decide (target.length ≠ 0 ∧ target.length < fastLength)) = false := by
      simp [Nat.not_lt.mp fast]
    have off := kept.resolve_left fast
    have plain : ¬ disk.inode.iFlags &&& EXT4_INLINE_DATA_FL ≠ 0#32 := by
      rw [stores.flagged, off]
      simp
    rw [slow, if_neg Bool.false_ne_true, if_neg plain, stores.blocked (Nat.not_lt.mp fast) off]
    exact cString_padded clean (by omega) behind

/-- A target in the inline data is followed by the memory behind the buffer. -/
theorem cString_inlined (stores : disk.Stores inlineFeature blocksize target) (clean : 0 ∉ target)
    (long : fastLength ≤ target.length) (on : inlineFeature = true) (behind : List UInt8) :
    cString (pathnameOf disk ++ behind) = target ++ cString behind := by
  rw [pathnameOf, fastSymlink, stores.link, stores.size]
  have slow : (true && decide (target.length ≠ 0 ∧ target.length < fastLength)) = false := by
    simp [long]
  rw [slow, if_neg Bool.false_ne_true, if_pos (stores.flagged.mpr ⟨long, on⟩),
    stores.inlined long on]
  exact cString_append clean behind

end Strings

/-- `readlink` returns the target of every link that `symlink` makes at a free path, whatever memory
lies behind it. -/
def Inverts (inlineFeature : Bool) (blocksize : BitVec 32) (target : List UInt8) : Prop :=
  ∀ (raw : List UInt8) (dest : Path) (arrayId : Nat) (behind : List UInt8) (disk : LinkDisk)
    (locals : OpenFiles), usePath raw = some dest → disk.child = none →
    Async.wp (linkTargets dest inlineFeature blocksize) (symlink target raw)
      (fun made locals' disk' => made = .ok () →
        Async.wp (linkTargets dest inlineFeature blocksize) (readlink raw .missing arrayId behind)
          (fun result _ _ => ∃ value, result = .ok value ∧ value.bytes = target) locals' disk')
      locals disk

/-- A disk with a link that holds the target. -/
def keeping (inlineFeature : Bool) (blocksize : BitVec 32) (ino : Ino) (target : Name) : LinkDisk where
  child := some ino
  inode :=
    { Inode.zero with
      iMode := LINUX_S_IFLNK ||| 0o777#16
      iLinksCount := 1
      iSize := BitVec.ofNat 32 target.length
      iFlags := if fastLength ≤ target.length ∧ inlineFeature = true then EXT4_INLINE_DATA_FL else 0
      iBlock := target ++ List.replicate (fastLength - target.length) 0
      iExtraIsize := 0
      iCtimeExtra := 0
      iMtimeExtra := 0
      iAtimeExtra := 0 }
  inlineData := target
  blk := 1
  block := target ++ List.replicate (blocksize.toNat - target.length) 0

/-- A library that makes one link. -/
def linking (dest : Path) (inlineFeature : Bool) (blocksize : BitVec 32) :
    Handler Call Answer LinkDisk := fun call disk =>
  match call with
  | .symlink parent _ target =>
      if target.length < blocksize.toNat then
        (0, keeping inlineFeature blocksize (parent + 1) target)
      else (EXT2_ET_INVALID_ARGUMENT, disk)
  | .namei path => ((0, if path = dest then disk.child.getD EXT2_ROOT_INO else EXT2_ROOT_INO), disk)
  | .readInode _ => ((0, disk.inode.toInode), disk)
  | .readInodeFull _ => ((0, disk.inode), disk)
  | .writeInodeFull ino inode =>
      (0, if disk.child = some ino then { disk with inode := inode } else disk)
  | .isFastSymlink inode => (fastSymlink inode, disk)
  | .inlineDataGet _ _ => ((0, disk.inlineData), disk)
  | .bmap _ _ _ => ((0, disk.blk), disk)
  | .loadBlocksize => (blocksize, disk)
  | .ioChannelReadBlk _ => ((0, disk.block), disk)
  | .nameiFollow _ => ((0, EXT2_ROOT_INO), disk)
  | .link _ _ _ _ | .unlink _ _ | .mkdir _ _ _ | .checkDirectory _ => (0, disk)
  | .dirIterate _ _ => ((0, []), disk)
  | call => ((reference call (Volume.holding [])).1, disk)

section Linking

variable {inlineFeature : Bool} {blocksize : BitVec 32} {target : List UInt8}

theorem keeping_stores (ino : Ino) (short : target.length < blocksize.toNat) :
    (keeping inlineFeature blocksize ino target).Stores inlineFeature blocksize target := by
  have bounded := blocksize.isLt
  constructor
  · show linuxSIslnk (LINUX_S_IFLNK ||| 0o777#16) = true
    decide
  · show 0 * 2 ^ 32 + (BitVec.ofNat 32 target.length).toNat = target.length
    rw [BitVec.toNat_ofNat]
    omega
  · exact fun _ => rfl
  · show (if fastLength ≤ target.length ∧ inlineFeature = true then EXT4_INLINE_DATA_FL else 0) &&&
      EXT4_INLINE_DATA_FL ≠ 0#32 ↔ _
    by_cases inlined : fastLength ≤ target.length ∧ inlineFeature = true
    · rw [if_pos inlined]
      exact iff_of_true (by decide) inlined
    · rw [if_neg inlined]
      exact iff_of_false (by decide) inlined
  · exact fun _ _ => rfl
  · exact fun _ _ => rfl

theorem linking_honours (dest : Path) :
    (linkTargets dest inlineFeature blocksize).Honoured (linking dest inlineFeature blocksize) id := by
  intro call disk
  cases call with
  | symlink parent name target =>
      by_cases short : target.length < blocksize.toNat
      · have answer : linking dest inlineFeature blocksize (.symlink parent name target) disk =
            (0, keeping inlineFeature blocksize (parent + 1) target) := if_pos short
        rw [answer]
        refine ⟨.inl rfl, .inl ⟨rfl, ⟨parent + 1, ?_, ?_, rfl⟩, keeping_stores (parent + 1) short⟩⟩
        · exact Nat.succ_ne_zero parent
        · exact Nat.succ_ne_self parent
      · have answer : linking dest inlineFeature blocksize (.symlink parent name target) disk =
            (EXT2_ET_INVALID_ARGUMENT, disk) := if_neg short
        rw [answer]
        have coded : EXT2_ET_BASE ≤ EXT2_ET_INVALID_ARGUMENT := by decide
        exact ⟨.inr coded, .inr ⟨(by decide : EXT2_ET_INVALID_ARGUMENT ≠ 0), rfl⟩⟩
  | namei path =>
      refine ⟨.inl rfl, rfl, fun same ino child => ?_⟩
      show ((0, if path = dest then disk.child.getD EXT2_ROOT_INO else EXT2_ROOT_INO) : Errcode × Ino) =
        (0, ino)
      rw [if_pos same, show disk.child = some ino from child]
      rfl
  | readInode ino => exact ⟨.inl rfl, rfl, fun _ => rfl⟩
  | readInodeFull ino => exact ⟨.inl rfl, rfl, fun _ => rfl⟩
  | inlineDataGet ino inode => exact ⟨.inl rfl, rfl, fun _ => rfl⟩
  | bmap ino inode block => exact ⟨.inl rfl, rfl, fun _ => rfl⟩
  | ioChannelReadBlk block => exact ⟨.inl rfl, rfl, fun _ => rfl⟩
  | isFastSymlink inode => exact ⟨.inl rfl, rfl, rfl⟩
  | getMem size => exact ⟨.inl rfl, rfl, rfl⟩
  | loadBlocksize => exact ⟨.inl rfl, rfl, rfl⟩
  | _ => exact ⟨.inl rfl, rfl⟩

theorem symlink_linking (short : target.length < blocksize.toNat) (disk : LinkDisk) :
    (nodeExt2fsSymlink target [slash, 0x61]).run (linking [slash, 0x61] inlineFeature blocksize) disk =
      (0, keeping inlineFeature blocksize 3 target) := by
  have first : (ext2fsSymlink EXT2_ROOT_INO [0x61] target).run
      (linking [slash, 0x61] inlineFeature blocksize) disk =
        (0, keeping inlineFeature blocksize 3 target) := if_pos short
  have attempt : (expanding EXT2_ROOT_INO (ext2fsSymlink EXT2_ROOT_INO [0x61] target)).run
      (linking [slash, 0x61] inlineFeature blocksize) disk =
        (0, keeping inlineFeature blocksize 3 target) := by
    rw [expanding, Program.run_bind, first]
    rfl
  show Program.run _ (expanding EXT2_ROOT_INO (ext2fsSymlink EXT2_ROOT_INO [0x61] target) >>= _)
    disk = _
  rw [Program.run_bind, attempt]
  rfl

/-- The path of the link in what follows. -/
abbrev linkPath : Path := [slash, 0x61]

/-- A disk without the link. -/
def unlinked (inlineFeature : Bool) (blocksize : BitVec 32) : LinkDisk :=
  { keeping inlineFeature blocksize 0 [] with child := none }

/-- The call on this library makes a link to the target without the slashes at its end. -/
theorem symlink_resolves (clean : 0 ∉ target)
    (short : (rstripSlashes target).length < blocksize.toNat) (locals : OpenFiles) (disk : LinkDisk) :
    ((symlink target linkPath).start locals).run (linking linkPath inlineFeature blocksize) disk =
      ((.ok (), locals), keeping inlineFeature blocksize 3 (rstripSlashes target)) := by
  have used : usePath target = some (rstripSlashes target) := if_neg clean
  rw [symlink, acceptPath, used]
  show Program.run _ (((nodeExt2fsSymlink (rstripSlashes target) linkPath >>= _) >>= _) >>= _) disk = _
  rw [Program.run_bind, Program.run_bind, Program.run_bind, symlink_linking short]
  rfl

/-- A call that inverts the link does so for the one that the library makes. -/
theorem bytes_of_inverts (inverts : Inverts inlineFeature blocksize target) (clean : 0 ∉ target)
    (short : (rstripSlashes target).length < blocksize.toNat) (behind : List UInt8) :
    (readTarget (keeping inlineFeature blocksize 3 (rstripSlashes target)) behind).bytes = target := by
  have reached : usePath linkPath = some linkPath := by decide
  have honoured := @linking_honours inlineFeature blocksize linkPath
  have inverted := Async.run_of_wp honoured (inverts linkPath linkPath 0 behind
    (unlinked inlineFeature blocksize) InsertionMap.empty reached rfl)
  rw [symlink_resolves clean short] at inverted
  have returned := Async.run_of_wp honoured (inverted rfl)
  have made : Made inlineFeature blocksize (rstripSlashes target)
      (keeping inlineFeature blocksize 3 (rstripSlashes target)) :=
    ⟨⟨3, by decide, rfl⟩, keeping_stores 3 short⟩
  have read := Async.run_of_wp honoured (readlink_target reached made 0 behind InsertionMap.empty)
  obtain ⟨value, resolved, bytes⟩ := returned
  have same : Except.ok (readTarget _ behind) = Except.ok value := read.symm.trans resolved
  rw [Except.ok.inj same]
  exact bytes

/-- Without memory behind it, the link reads as it was kept. -/
theorem cString_keeping (clean : 0 ∉ target) (short : target.length < blocksize.toNat) (ino : Ino) :
    cString (pathnameOf (keeping inlineFeature blocksize ino target) ++ []) = target := by
  have stores := @keeping_stores inlineFeature blocksize target ino short
  by_cases kept : target.length < fastLength ∨ inlineFeature = false
  · by_cases empty : target = []
    · rw [empty] at short ⊢
      have plain : ¬ (keeping inlineFeature blocksize ino []).inode.iFlags &&& EXT4_INLINE_DATA_FL ≠
          0#32 := by
        rw [(keeping_stores ino short).flagged]
        simp
      have place : pathnameOf (keeping inlineFeature blocksize ino []) =
          [] ++ List.replicate blocksize.toNat 0 := by
        rw [pathnameOf, fastSymlink, (keeping_stores ino short).size, if_neg (by simp), if_neg plain]
        rfl
      rw [place]
      exact cString_padded List.not_mem_nil short []
    · exact cString_stored stores clean short empty kept []
  · have long := Nat.not_lt.mp (not_or.mp kept).1
    have on : inlineFeature = true := Bool.eq_true_of_not_eq_false (not_or.mp kept).2
    rw [cString_inlined stores clean long on]
    exact List.append_nil target

end Linking

theorem rstripSlashes_length_le (target : List UInt8) :
    (rstripSlashes target).length ≤ target.length :=
  (List.rdropWhile_prefix (fun byte => decide (byte = slash)) target).length_le

/-- Nothing is stripped exactly if the last byte is no slash. -/
theorem rstripSlashes_eq_iff {target : List UInt8} (nonempty : target ≠ []) :
    rstripSlashes target = target ↔ target.getLast nonempty ≠ slash := by
  rw [rstripSlashes, List.rdropWhile_eq_self_iff]
  simp [nonempty]

/-- The link is inverted exactly if the target is a text that does not end with a slash, and if it
is not kept as inline data. -/
theorem inverts_iff {inlineFeature : Bool} {blocksize : BitVec 32} {target : List UInt8}
    (nonempty : target ≠ []) (clean : 0 ∉ target) (short : target.length < blocksize.toNat) :
    Inverts inlineFeature blocksize target ↔
      target.getLast nonempty ≠ slash ∧ (∃ text, encodeUtf8 text = target) ∧
        (target.length < fastLength ∨ inlineFeature = false) := by
  apply Iff.intro
  · intro inverts
    have stripped := rstripSlashes_length_le target
    have bytes := bytes_of_inverts inverts clean (by omega)
    have cleaner : 0 ∉ rstripSlashes target :=
      fun inside =>
        clean ((List.rdropWhile_prefix (fun byte => decide (byte = slash)) target).subset inside)
    -- Without memory behind the target, what is returned is the text of the stripped bytes.
    have plain : encodeUtf8 (decodeUtf8 (rstripSlashes target)) = target := by
      have empty := bytes []
      rw [readTarget, cString_keeping cleaner (by omega)] at empty
      exact empty
    generalize decoded : decodeUtf8 (rstripSlashes target) = text at plain
    have whole : rstripSlashes target = target := by
      have dropped : rstripSlashes target = encodeUtf8 (text.rdropWhile fun char => char = '/') := by
        rw [← plain]
        exact rdropWhile_encodeUtf8 (show '/'.toNat < 0x80 by decide) text
      rw [dropped, decodeUtf8_encodeUtf8] at decoded
      rw [dropped, decoded, plain]
    refine ⟨(rstripSlashes_eq_iff nonempty).mp whole, ⟨text, plain⟩, ?_⟩
    by_contra inlined
    obtain ⟨long, on⟩ := not_or.mp inlined
    have more := bytes (encodeUtf8 ['a'])
    rw [readTarget, whole, cString_inlined (keeping_stores 3 short) clean (Nat.not_lt.mp long)
      (Bool.eq_true_of_not_eq_false on)] at more
    have joined : target ++ cString (encodeUtf8 ['a']) = encodeUtf8 (text ++ ['a']) := by
      rw [encodeUtf8_append, plain]
      rfl
    have longer : (encodeUtf8 (text ++ ['a'])).length = target.length := by
      rw [joined] at more
      rw [← decodeUtf8_encodeUtf8 (text ++ ['a'])]
      exact congrArg List.length more
    rw [encodeUtf8_append, plain, List.length_append] at longer
    have single : (encodeUtf8 ['a']).length = 1 := by decide
    omega
  · intro condition
    obtain ⟨last, ⟨text, encoded⟩, kept⟩ := condition
    have whole := (rstripSlashes_eq_iff nonempty).mpr last
    intro raw dest arrayId behind disk locals reached free
    apply Async.wp_mono (symlink_target clean reached locals)
    intro made locals' disk' stored resolved
    have link := stored resolved
    apply Async.wp_mono (readlink_target reached link arrayId behind locals')
    intro result _ _ read
    refine ⟨readTarget disk' behind, read, ?_⟩
    rw [whole] at link
    rw [readTarget, cString_stored link.2 clean short nonempty kept behind, ← encoded,
      decodeUtf8_encodeUtf8]
    rfl

/-- A short text without a slash at its end is inverted. -/
theorem inverts_short : Inverts true 1024 (encodeUtf8 ['a', 'ü']) :=
  (inverts_iff (by decide) (by decide) (by decide)).mpr
    ⟨by decide, ⟨['a', 'ü'], rfl⟩, .inl (by decide)⟩

/-- The slash at the end of a target is lost. -/
theorem slash_lost :
    ¬∀ (inlineFeature : Bool) (blocksize : BitVec 32) (target : List UInt8), target ≠ [] →
      0 ∉ target → target.length < blocksize.toNat → Inverts inlineFeature blocksize target := by
  intro inverts
  have bytes := bytes_of_inverts (inverts false 1024 [0x61, slash] (by decide) (by decide) (by decide))
    (by decide) (by decide) []
  have stripped : rstripSlashes [0x61, slash] = encodeUtf8 ['a'] := by decide
  rw [stripped, readTarget, cString_keeping (by decide) (by decide), decodeUtf8_encodeUtf8] at bytes
  exact absurd bytes (by decide)

end NodeExt2fs.Links
