import NodeExt2fs.Construction.Js.SingleFile
import NodeExt2fs.Proof.Library.Requests
import NodeExt2fs.Proof.Library.Serving

/-!
This file derives the effect of an open on the file at a path from the C code.
-/

namespace NodeExt2fs.Transfers
open Programs Glue Js
open Program (wp wp_pure wp_bind wp_ite wp_perform wp_mono)
open Library (Serves filling openInode openFound nodeExt2fsOpen_eq)

variable {path parent : Path} {handle : Ptr}

/-- What libext2fs promises about one path and one handle while the disk works and has space. The
parent of the path exists, and the path is a regular file once it has been entered. -/
def naming (path parent : Path) (handle : Ptr) : Contract Call Answer Store where
  permits _ _ := True
  allows store call answer store' :=
    match call, answer with
    | .namei target, answer | .nameiFollow target, answer =>
        store' = store ∧ (target = path → if store.file = none then answer.1 ≠ 0
          else answer.1 = 0 ∧ answer.2 ≠ 0) ∧ (target = parent → answer.1 = 0 ∧ answer.2 ≠ 0)
    | .newInode _ _, answer => answer.1 = 0 ∧ answer.2 ≠ 0 ∧ store' = store
    | .link _ _ _ _, code => code = 0 ∧ store' = { store with file := some [] }
    | .checkDirectory _, code => code ≠ 0 ∧ store' = store
    | .fileOpen _ _, answer => answer.1 = 0 ∧ answer.2 = handle ∧ store' = { store with position := 0 }
    | .fileSetSize file _, code => file = handle → code = 0 ∧ store' = { store with file := some [] }
    | call, answer => call.code answer = 0 ∧ store' = store

theorem call_naming (call : Call) {store : Store} {post : Answer call → Store → Prop}
    (rest : ∀ answer store', (naming path parent handle).allows store call answer store' →
      post answer store') : wp (naming path parent handle) call.perform post store :=
  ⟨trivial, rest⟩

theorem serves_naming : Serves (naming path parent handle) filling := by
  intro call store listed
  apply And.intro trivial
  intro answer store' allowed
  cases call <;> first | exact allowed | cases listed

/-- The path has an inode exactly when the file is there, and its parent always has one. -/
theorem stringToInode_naming (target : Path) (follow : Bool) {store : Store}
    {post : Ino → Store → Prop}
    (rest : ∀ ino, (target = path → (ino = 0 ↔ store.file = none)) → (target = parent → ino ≠ 0) →
      post ino store) :
    wp (naming path parent handle) (stringToInode target follow) post store := by
  have each (answer : Errcode × Ino) (store' : Store)
      (allowed : store' = store ∧ (target = path → if store.file = none then answer.1 ≠ 0
        else answer.1 = 0 ∧ answer.2 ≠ 0) ∧ (target = parent → answer.1 = 0 ∧ answer.2 ≠ 0)) :
      wp (naming path parent handle)
        (if answer.1 ≠ 0 then return 0 else return answer.2) post store' := by
    obtain ⟨same, found, outer⟩ := allowed
    rw [same, wp_ite]
    apply And.intro
    · intro bad
      apply rest
      · intro aimed
        have := found aimed
        by_cases missing : store.file = none
        · exact iff_of_true rfl missing
        · rw [if_neg missing] at this
          exact absurd this.1 bad
      · intro aimed
        exact absurd (outer aimed).1 bad
    · intro fine
      apply rest
      · intro aimed
        have := found aimed
        by_cases missing : store.file = none
        · rw [if_pos missing] at this
          exact absurd this fine
        · rw [if_neg missing] at this
          exact iff_of_false this.2 missing
      · intro aimed
        exact (outer aimed).2
  rw [stringToInode]
  cases follow with
  | true => exact ⟨trivial, fun answer store' allowed => each answer store' allowed⟩
  | false => exact ⟨trivial, fun answer store' allowed => each answer store' allowed⟩

/-- A new file is empty. -/
theorem createFile_naming {before : Path} {name : Name} (split : strrchr path = some (before, name))
    (nonempty : name ≠ []) (mode : BitVec 32) {store : Store} {post : Errcode × Ino → Store → Prop}
    (rest : ∀ ino, ino ≠ 0 → post (0, ino) { store with file := some [] }) :
    wp (naming path (before ++ [slash]) handle) (createFile path mode) post store := by
  have filename : getFilename path = some name := by
    rw [getFilename_split split, if_neg nonempty]
  rw [createFile, wp_bind, getParentDirIno, split]
  apply stringToInode_naming
  intro parentIno _ present
  rw [if_neg (present rfl), wp_bind]
  apply call_naming (.newInode parentIno mode)
  intro answer store' allowed
  obtain ⟨zero, some, same⟩ := allowed
  have fine : ¬answer.1 ≠ 0 := not_not.mpr zero
  rw [show store' = _ from same]
  dsimp only
  rw [if_neg fine, filename]
  dsimp only
  rw [wp_bind, expanding, wp_bind]
  apply call_naming (.link parentIno name answer.2 EXT2_FT_REG_FILE)
  intro code linked allowed
  obtain ⟨zero, entered⟩ := allowed
  have full : ¬code = EXT2_ET_DIR_NO_SPACE := by
    rw [show code = 0 from zero]
    exact show ¬0 = EXT2_ET_DIR_NO_SPACE by decide
  rw [if_neg full, show code = 0 from zero, show linked = _ from entered]
  rw [wp_pure, if_neg (not_not.mpr rfl), wp_bind]
  apply serves_naming.fillFile
  exact rest answer.2 some

/-- The path is found, or created when it is missing and may be. -/
theorem findOrCreate_naming {before : Path} {name : Name}
    (split : strrchr path = some (before, name)) (nonempty : name ≠ []) (flags mode : BitVec 32)
    {store : Store} {post : Int × Ino → Store → Prop}
    (rest : ∀ ino, post ((bindingFind store flags).1, ino) (bindingFind store flags).2) :
    wp (naming path (before ++ [slash]) handle) (findOrCreate path flags mode) post store := by
  rw [bindingFind] at rest
  rw [findOrCreate, wp_bind]
  apply stringToInode_naming
  intro ino found _
  rw [wp_ite]
  apply And.intro
  · intro zero
    rw [(found rfl).mp zero] at rest
    by_cases creates : hasFlag flags O_CREAT = true
    · simp only [creates, if_true] at rest
      simp only [creates, Bool.not_true, Bool.false_eq_true, if_false]
      rw [wp_bind]
      apply createFile_naming split nonempty
      intro ino _
      exact rest ino
    · rw [Bool.not_eq_true] at creates
      simp only [creates, Bool.false_eq_true, if_false] at rest
      simp only [creates, Bool.not_false, if_true]
      exact rest 0
  · intro some
    cases present : store.file with
    | none => exact absurd ((found rfl).mpr present) some
    | some content =>
        rw [present] at rest
        rw [wp_ite]
        apply And.intro
        · intro exclusive
          simp only [exclusive, if_true] at rest
          exact rest 0
        · intro shared
          rw [Bool.not_eq_true] at shared
          simp only [shared, Bool.false_eq_true, if_false] at rest
          exact rest ino

/-- On a working disk, `node_ext2fs_open` does to the file what the model of the binding says. -/
theorem nodeExt2fsOpen_naming {before : Path} {name : Name}
    (split : strrchr path = some (before, name)) (nonempty : name ≠ []) (flags mode : BitVec 32)
    (store : Store) :
    wp (naming path (before ++ [slash]) handle) (nodeExt2fsOpen path flags mode)
      (fun result store' => (result, store') = bindingOpen store flags handle) store := by
  rw [nodeExt2fsOpen_eq, wp_bind, bindingOpen]
  apply findOrCreate_naming split nonempty
  intro ino
  generalize bindingFind store flags = found
  have opens (post : Int → Store → Prop) (open_ : ¬hasFlag flags O_DIRECTORY = true)
      (rest : post (found.2.opened flags handle).1 (found.2.opened flags handle).2) :
      wp (naming path (before ++ [slash]) handle) (openInode flags ino) post found.2 := by
    rw [Store.opened, if_neg open_] at rest
    rw [openInode, wp_bind]
    apply call_naming (.fileOpen ino (translateOpenFlags flags))
    intro answer store' allowed
    obtain ⟨zero, same, after⟩ := allowed
    have fine : ¬answer.1 ≠ 0 := not_not.mpr zero
    dsimp only
    rw [if_neg fine, show answer.2 = handle from same, show store' = _ from after, wp_ite]
    apply And.intro
    · intro truncates
      rw [if_pos truncates] at rest
      rw [wp_bind]
      apply call_naming (.fileSetSize handle 0)
      intro code emptied allowed
      obtain ⟨zero, after⟩ := allowed rfl
      rw [show code = 0 from zero, show emptied = _ from after]
      exact rest
    · intro keeps
      rw [if_neg keeps] at rest
      exact rest
  rw [openFound, wp_ite]
  apply And.intro
  · intro failed
    rw [if_pos failed]
    rfl
  · intro fine
    rw [if_neg fine, wp_ite]
    apply And.intro
    · intro directory
      rw [wp_bind]
      apply call_naming (.checkDirectory ino)
      intro code store' allowed
      rw [if_pos allowed.1, show store' = _ from allowed.2, Store.opened, if_pos directory]
      rfl
    · intro plain
      exact opens _ plain rfl

end NodeExt2fs.Transfers
