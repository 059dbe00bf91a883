import NodeExt2fs.Construction.Js.Rejections

/-!
This file finds the failed call that decides about the code of a rejection.
-/

namespace NodeExt2fs.Rejections
open Programs Glue Js
open Program (wp wp_pure wp_bind wp_ite wp_mono)

/-- The calls of which an operation does not pass on the code: a lookup becomes a missing inode, a check
of a directory becomes a code of its own, and the rest is dropped. The lookup of its parent directory
ends a `link` with success. -/
def ignores (operation : BindingCall) (index : Nat) : Call → Bool
  | .namei _ =>
      match operation with
      | .change (.link _ _) => index = 1
      | .change _ => false
      | _ => true
  | .checkDirectory _ =>
      match operation with
      | .readdir _ _ => false
      | _ => true
  | .nameiFollow _ | .freeExtAttr _ _ | .fileFlush _ | .flush => true
  | _ => false

/-- The code of the last failed call, in a history that is read from left to right. -/
structure Verdict where
  index : Nat
  last : Option Errcode

def isExpansion : Call → Bool
  | .expandDir _ => true
  | _ => false

/-- An expansion makes up for the failure before it. -/
def Verdict.step (operation : BindingCall) (verdict : Verdict) (event : CallEvent) : Verdict where
  index := verdict.index + 1
  last :=
    if ignores operation verdict.index event.1 then verdict.last
    else if event.code ≠ 0 then some event.code
    else if isExpansion event.1 then none
    else verdict.last

/-- The code that decides about the result, if a call has failed. -/
def deciding (operation : BindingCall) (history : List CallEvent) : Option Errcode :=
  (history.foldl (Verdict.step operation) { index := 0, last := none }).last

/-- The codes that do not become a known errno: all of them where they are not translated, and two of
those that are. -/
def Spoils (operation : BindingCall) (code : Errcode) : Prop :=
  operation.translates = true → code = EXT2_ET_EA_KEY_NOT_FOUND ∨ code = EXT2_ET_UNIMPLEMENTED

/-- A call fails with a code of libext2fs, and transfers no more than it was asked for. -/
def Documented (event : CallEvent) : Prop :=
  (event.code = 0 ∨ EXT2_ET_BASE < event.code) ∧
    match event with
    | ⟨.fileRead _ _ wanted, answer⟩ => answer.2.toNat ≤ wanted.toNat
    | ⟨.fileWrite _ _ nbytes, answer⟩ => answer.2.toNat ≤ nbytes.toNat
    | _ => True

/-- The errno has a name. -/
def Known (errno : Int) : Prop := (errnoToCode.lookup errno).isSome = true

instance (errno : Int) : Decidable (Known errno) := inferInstanceAs (Decidable (_ = true))

/-- A library code is no errno. -/
theorem unknown_code {code : Errcode} (large : EXT2_ET_BASE < code) : ¬Known code := by
  have small : ∀ entry ∈ errnoToCode, entry.1 ≤ 75 := by decide
  have none : errnoToCode.lookup (code : Int) = none := by
    rw [List.lookup_eq_none_iff]
    intro entry listed
    have bound := small entry listed
    have wide : (2133571328 : Nat) < code := large
    rw [bne_iff_ne]
    omega
  rw [Known, none]
  decide

theorem known_ite {condition : Prop} [Decidable condition] {yes no : Int × Bool}
    (first : condition → Known (-yes.1)) (second : ¬condition → Known (-no.1)) :
    Known (-(if condition then yes else no).1) := by
  by_cases chosen : condition
  · rw [if_pos chosen]
    exact first chosen
  · rw [if_neg chosen]
    exact second chosen

/-- Of the translated codes, two have no name. -/
theorem known_translateCode (err : Errcode) :
    Known (-(translateCode err).1) ↔
      ¬(err = EXT2_ET_EA_KEY_NOT_FOUND ∨ err = EXT2_ET_UNIMPLEMENTED) := by
  apply Iff.intro
  · rintro known (same | same)
    · rw [same] at known
      revert known
      decide
    · rw [same] at known
      revert known
      decide
  · intro other
    obtain ⟨found, implemented⟩ := not_or.mp other
    unfold translateCode
    repeat' refine known_ite (fun chosen => ?_) (fun _ => ?_)
    all_goals first
      | exact absurd chosen found
      | exact absurd chosen implemented
      | decide

/-- What an exception says about itself, in the terms of the codes. -/
theorem errnoException_known (errno : Int) (syscall : String) (args : List Int) :
    ((errnoException errno syscall args).errno, (errnoException errno syscall args).code) ∈ errnoToCode ↔
      Known errno := by
  show (errno, (errnoToCode.lookup errno).getD "UNKNOWN") ∈ errnoToCode ↔ _
  rw [Known]
  cases found : errnoToCode.lookup errno with
  | none =>
      apply iff_of_false _ Bool.false_ne_true
      intro listed
      have other := List.lookup_eq_none_iff.mp found _ listed
      rw [bne_iff_ne] at other
      exact other rfl
  | some name =>
      apply iff_of_true _ rfl
      obtain ⟨before, after, same, _⟩ := List.lookup_eq_some_iff.mp found
      rw [same]
      exact List.mem_append_right _ List.mem_cons_self

/-- The result is no rejection with an unknown code exactly if the last failure spoils nothing. -/
def Fine (operation : BindingCall) (verdict : Verdict) : Prop :=
  ∀ code, verdict.last = some code → ¬Spoils operation code

/-- A status fits the last failure. -/
def Told (operation : BindingCall) (ret : Int) (verdict : Verdict) : Prop :=
  (ret < 0 → Known (-ret)) ↔ Fine operation verdict

/-- The library's documentation with the verdict. -/
abbrev judged (operation : BindingCall) : Contract Call Answer Verdict :=
  .watching Documented (Verdict.step operation)

variable {operation : BindingCall} {verdict : Verdict}

theorem Fine.told (fine : Fine operation verdict) {ret : Int} (known : ret < 0 → Known (-ret)) :
    Told operation ret verdict := iff_of_true known fine

/-- A part that succeeds leaves nothing to tell. -/
theorem Told.fine {ret : Int} (told : Told operation ret verdict) (success : ret = 0) :
    Fine operation verdict := by
  apply told.mp
  intro negative
  omega

/-- A code that a part of the operation passes on: none so far, or the code of the last failure. -/
structure Raised (operation : BindingCall) (err : Errcode) (verdict : Verdict) : Prop where
  fine : err = 0 → Fine operation verdict
  last : err ≠ 0 → EXT2_ET_BASE < err ∧ verdict.last = some err

theorem Fine.raised (fine : Fine operation verdict) : Raised operation 0 verdict where
  fine _ := fine
  last failed := absurd rfl failed

theorem Fine.kept {verdict' : Verdict} (fine : Fine operation verdict)
    (kept : verdict'.last = verdict.last) : Fine operation verdict' := by
  rw [Fine, kept]
  exact fine

theorem Told.kept {verdict' : Verdict} {ret : Int} (told : Told operation ret verdict)
    (kept : verdict'.last = verdict.last) : Told operation ret verdict' := by
  rw [Told, Fine, kept]
  exact told

/-- A call that is looked at changes nothing if it succeeds, and otherwise its code is the last one. -/
theorem wp_looked (call : Call) (looked : ignores operation verdict.index call = false)
    {post : Answer call → Verdict → Prop}
    (good : ∀ answer verdict', Documented ⟨call, answer⟩ → call.code answer = 0 →
      verdict'.index = verdict.index + 1 →
      verdict'.last = (if isExpansion call then none else verdict.last) → post answer verdict')
    (bad : ∀ answer verdict', call.code answer ≠ 0 → Raised operation (call.code answer) verdict' →
      post answer verdict') :
    wp (judged operation) call.perform post verdict := by
  refine ⟨trivial, ?_⟩
  rintro answer verdict' ⟨documented, rfl⟩
  have coded : call.code answer = 0 ∨ EXT2_ET_BASE < call.code answer := documented.1
  have same : CallEvent.code ⟨call, answer⟩ = call.code answer := rfl
  by_cases success : call.code answer = 0
  · apply good answer _ documented success rfl
    simp [Verdict.step, looked, same, success]
  · apply bad answer _ success
    refine ⟨fun zero => absurd zero success, fun _ => ⟨coded.resolve_left success, ?_⟩⟩
    simp [Verdict.step, looked, same, success]

/-- A call in a fine state raises its code. -/
theorem wp_raised (call : Call) (looked : ignores operation verdict.index call = false)
    (fine : Fine operation verdict) {post : Answer call → Verdict → Prop}
    (rest : ∀ answer verdict', Raised operation (call.code answer) verdict' → post answer verdict') :
    wp (judged operation) call.perform post verdict := by
  apply wp_looked call looked
  · intro answer verdict' _ success _ last
    apply rest
    rw [success]
    apply Fine.raised
    intro code found
    rw [last] at found
    split at found
    · cases found
    · exact fine code found
  · intro answer verdict' _ raised
    exact rest answer verdict' raised

/-- A call without a status. -/
theorem wp_silent (call : Call) (looked : ignores operation verdict.index call = false)
    (silent : ∀ answer, call.code answer = 0) (single : isExpansion call = false)
    {post : Answer call → Verdict → Prop}
    (rest : ∀ answer verdict', verdict'.last = verdict.last → verdict'.index = verdict.index + 1 →
      post answer verdict') :
    wp (judged operation) call.perform post verdict := by
  apply wp_looked call looked
  · intro answer verdict' _ _ next last
    rw [single] at last
    exact rest answer verdict' last next
  · intro answer verdict' failed _
    exact absurd (silent answer) failed

/-- A call whose code is not passed on. -/
theorem wp_ignored (call : Call) (ignored : ignores operation verdict.index call = true)
    {post : Answer call → Verdict → Prop}
    (rest : ∀ answer verdict', verdict'.last = verdict.last → verdict'.index = verdict.index + 1 →
      post answer verdict') :
    wp (judged operation) call.perform post verdict := by
  refine ⟨trivial, ?_⟩
  rintro answer verdict' ⟨_, rfl⟩
  apply rest answer _ _ rfl
  simp [Verdict.step, ignored]

/-- A part whose nonzero result is returned. -/
theorem wp_then {program next : Routine Int}
    (first : wp (judged operation) program (Told operation) verdict)
    (rest : ∀ verdict, Fine operation verdict → wp (judged operation) next (Told operation) verdict) :
    wp (judged operation) (program >>= fun ret => if ret ≠ 0 then pure ret else next)
      (Told operation) verdict := by
  rw [wp_bind]
  apply wp_mono first
  intro ret verdict told
  rw [wp_ite]
  constructor
  · intro nonzero
    exact told
  · intro zero
    exact rest verdict (told.fine (not_not.mp zero))

theorem getNow_wp (fine : Fine operation verdict) :
    wp (judged operation) getNow (fun _ verdict => Fine operation verdict) verdict := by
  unfold getNow
  rw [wp_bind]
  apply wp_silent .clockGettime rfl (fun _ => rfl) rfl
  rintro ⟨failed, now⟩ verdict' last _
  rw [wp_ite]
  constructor
  · intro works
    exact fine.kept last
  · intro broken
    apply wp_silent .time rfl (fun _ => rfl) rfl
    intro seconds verdict'' later _
    exact fine.kept (later.trans last)

/-- An expansion makes up for the lack of space, so that the second attempt decides. -/
theorem expanding_wp (dir : Ino) {attempt : Routine Errcode}
    (raises : ∀ verdict, Fine operation verdict →
      wp (judged operation) attempt (Raised operation) verdict)
    (fine : Fine operation verdict) :
    wp (judged operation) (expanding dir attempt) (Raised operation) verdict := by
  unfold expanding
  rw [wp_bind]
  apply wp_mono (raises verdict fine)
  intro err verdict raised
  rw [wp_ite]
  refine ⟨fun full => ?_, fun _ => raised⟩
  rw [wp_bind]
  apply wp_looked (.expandDir dir) rfl
  · intro err verdict _ success _ last
    rw [wp_ite]
    refine ⟨fun failed => absurd success failed, fun _ => raises verdict ?_⟩
    intro code found
    cases last.symm.trans found
  · intro err verdict failed raised
    rw [wp_ite]
    exact ⟨fun _ => raised, fun success => absurd failed success⟩

/-- The two attempts that are repeated. -/
theorem link_wp (dir : Ino) (name : Name) (ino : Ino) (fileType : Nat) (fine : Fine operation verdict) :
    wp (judged operation) (ext2fsLink dir name ino fileType) (Raised operation) verdict :=
  wp_raised (.link dir name ino fileType) rfl fine fun _ _ raised => raised

theorem symlink_wp (parent : Ino) (name target : Name) (fine : Fine operation verdict) :
    wp (judged operation) (ext2fsSymlink parent name target) (Raised operation) verdict :=
  wp_raised (.symlink parent name target) rfl fine fun _ _ raised => raised

end NodeExt2fs.Rejections
