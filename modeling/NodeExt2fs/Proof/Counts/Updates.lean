import NodeExt2fs.Construction.Library.Updates
import NodeExt2fs.Proof.Library.Effects
import NodeExt2fs.Proof.Library.Requests

/-!
This file shows that the parts of the operations which do not change counts are safe on every volume.
-/

namespace NodeExt2fs.Counting
open Programs Structures Glue Library
open Program (wp wp_pure wp_bind wp_ite wp_mono wp_permitted wp_true_of_only)

variable {resolver : Resolver} {volume : Volume}

/-- The routine makes only safe updates on this volume. -/
abbrev CarefulOn {A : Type} (resolver : Resolver) (volume : Volume) (routine : Routine A) : Prop :=
  wp (updating resolver) routine (fun _ _ => True) volume

/-- A safe call has one of its effects. -/
theorem wp_safe (call : Call) {post : Answer call → Volume → Prop} (safe : safeCall volume call)
    (rest : ∀ answer volume', effect resolver True volume call answer volume' →
      post answer volume') : wp (updating resolver) call.perform post volume :=
  ⟨safe, rest⟩

/-- What a careful routine does with a steady library. -/
theorem wp_updating {A : Type} {routine : Routine A} {post : A → Volume → Prop}
    (careful : CarefulOn resolver volume routine)
    (before : wp (libext2fs resolver True) routine post volume) :
    wp (updating resolver) routine post volume := by
  have allows : ∀ volume call answer volume', (updating resolver).allows volume call answer volume' →
      (libext2fs resolver True).allows volume call answer volume' := fun _ _ _ _ allowed => allowed
  exact wp_permitted allows careful before

/-- The calls that neither store a record nor mark an inode. -/
def idle : Call → Bool
  | .writeInode _ _ | .writeInodeFull _ _ | .freeExtAttr _ _ | .punch _ _
  | .inodeAllocStats _ _ _ => false
  | _ => true

theorem safe_of_idle (volume : Volume) (call : Call) (listed : idle call = true) :
    safeCall volume call := by
  cases call with
  | writeInode ino inode => cases listed
  | writeInodeFull ino inode => cases listed
  | freeExtAttr ino inode => cases listed
  | punch ino inode => cases listed
  | inodeAllocStats ino inuse isdir => cases listed
  | _ => trivial

theorem careful_idle {A : Type} {routine : Routine A} (only : routine.Only fun call => idle call = true)
    (volume : Volume) : CarefulOn resolver volume routine :=
  wp_true_of_only (fun volume call listed => safe_of_idle volume call listed) only volume

/-- One part after the other, where the first one leaves a volume on which the second one is careful. -/
theorem careful_bind {A B : Type} {first : Routine A} {next : A → Routine B}
    {post : A → Volume → Prop} (careful : CarefulOn resolver volume first)
    (before : wp (libext2fs resolver True) first post volume)
    (rest : ∀ value volume', post value volume' → CarefulOn resolver volume' (next value)) :
    CarefulOn resolver volume (first >>= next) := by
  rw [CarefulOn, wp_bind]
  exact wp_mono (wp_updating careful before) rest

/-- Two parts that are careful whatever the volume is. -/
theorem careful_then {A B : Type} {first : Routine A} {next : A → Routine B}
    (careful : CarefulOn resolver volume first)
    (rest : ∀ value volume', CarefulOn resolver volume' (next value)) :
    CarefulOn resolver volume (first >>= next) := by
  rw [CarefulOn, wp_bind]
  exact wp_mono careful fun value volume' _ => rest value volume'

theorem careful_ite {A : Type} {condition : Prop} [Decidable condition] {yes no : Routine A}
    (first : condition → CarefulOn resolver volume yes)
    (second : ¬condition → CarefulOn resolver volume no) :
    CarefulOn resolver volume (if condition then yes else no) := by
  rw [CarefulOn, wp_ite]
  exact ⟨first, second⟩

theorem translateError_careful (err : Errcode) (volume : Volume) :
    CarefulOn resolver volume (translateError err) :=
  careful_idle (@translateError_marks (fun call => idle call = true) rfl rfl err) volume

theorem getNow_careful (volume : Volume) : CarefulOn resolver volume getNow :=
  careful_idle (@getNow_clocks (fun call => idle call = true) rfl rfl) volume

/-- The end of a routine with a translated code. -/
theorem failing_careful {A : Type} (err : Errcode) (result : Int → A) (volume : Volume) :
    CarefulOn resolver volume (translateError err >>= fun ret => pure (result ret)) :=
  careful_then (translateError_careful err volume) fun _ _ => trivial

/-- A record that keeps the count it was read with. -/
theorem safe_kept {ino : Ino} {inode inode' : Inode} (read : ReadFrom volume ino inode)
    (keeps : Keeps inode inode') : volume.SafeCount ino inode'.iLinksCount :=
  .inl (keeps.2.trans read.2)

theorem updateCtime_careful (ino : Ino) (pinode : Option InodeLarge) (volume : Volume) :
    CarefulOn resolver volume (updateCtime ino pinode) := by
  unfold updateCtime
  apply careful_then (getNow_careful volume)
  intro now volume₁
  cases pinode with
  | some pinode => trivial
  | none =>
      dsimp only
      rw [CarefulOn, wp_bind]
      apply wp_safe (.readInodeFull ino) trivial
      intro answer volume₂ allowed
      obtain ⟨same, read, _⟩ := allowed
      rw [same]
      apply careful_ite
      · exact fun _ => failing_careful _ _ _
      · intro zero
        rw [CarefulOn, wp_bind]
        apply wp_safe (.writeInodeFull ino _)
        · exact safe_kept (read (not_not.mp zero))
            (Keeps.trans (incrementVersion_keeps _) (setXtime_keeps .iCtime now _))
        · exact fun code volume₃ _ => careful_ite (fun _ => failing_careful _ _ _) fun _ => trivial

theorem updateMtime_careful (ino : Ino) (pinode : Option InodeLarge) (volume : Volume) :
    CarefulOn resolver volume (updateMtime ino pinode) := by
  unfold updateMtime
  cases pinode with
  | some pinode => exact careful_then (getNow_careful volume) fun _ _ => trivial
  | none =>
      dsimp only
      rw [CarefulOn, wp_bind]
      apply wp_safe (.readInodeFull ino) trivial
      intro answer volume₁ allowed
      obtain ⟨same, read, _⟩ := allowed
      rw [same]
      apply careful_ite
      · exact fun _ => failing_careful _ _ _
      · intro zero
        apply careful_bind (getNow_careful volume) getNow_same
        intro now volume₂ same
        rw [same, CarefulOn, wp_bind]
        apply wp_safe (.writeInodeFull ino _)
        · exact safe_kept (read (not_not.mp zero)) (modified_keeps now answer.2)
        · exact fun code volume₃ _ => careful_ite (fun _ => failing_careful _ _ _) fun _ => trivial

theorem unlinkFileByName_careful (path : Path) (volume : Volume) :
    CarefulOn resolver volume (unlinkFileByName path) := by
  have unlinks (dir : Ino) (name : Name) (volume : Volume) :
      CarefulOn resolver volume (unlinkName dir name) := by
    rw [unlinkName]
    apply careful_then (careful_idle (Program.only_perform (.unlink dir name) |>.mpr rfl) volume)
    intro code volume₁
    apply careful_ite
    · exact fun _ => translateError_careful _ _
    · exact fun _ => careful_then (updateMtime_careful dir none volume₁) fun _ _ => trivial
  rw [unlinkFileByName]
  cases strrchr path with
  | none => exact unlinks EXT2_ROOT_INO path volume
  | some split =>
      apply careful_then (careful_idle (Program.only_perform (.namei split.1) |>.mpr rfl) volume)
      intro answer volume₁
      exact careful_ite (fun _ => translateError_careful _ _) fun _ => unlinks _ _ _

/-- The last part of a move only stamps inodes and removes the old name. -/
theorem renameFinish_careful (fromIno toDirIno : Ino) (fromPath : Path) (volume : Volume) :
    CarefulOn resolver volume (renameFinish fromIno toDirIno fromPath) := by
  rw [renameFinish]
  apply careful_then (updateCtime_careful fromIno none volume)
  intro stamped volume₁
  refine careful_ite (fun _ => trivial) fun _ => ?_
  apply careful_then (updateMtime_careful toDirIno none volume₁)
  intro touched volume₂
  refine careful_ite (fun _ => trivial) fun _ => ?_
  apply careful_then (unlinkFileByName_careful fromPath volume₂)
  intro ret volume₃
  refine careful_ite (fun _ => trivial) fun _ => ?_
  apply careful_then (careful_idle (Program.only_perform .flush2 |>.mpr rfl) volume₃)
  exact fun code volume₄ => careful_ite (fun _ => translateError_careful _ _) fun _ => trivial

end NodeExt2fs.Counting
