import NodeExt2fs.Proof.Trees.Removing
import NodeExt2fs.Proof.Trees.Linking

/-!
This file follows `rename` on a disk that does not fail.
-/

namespace NodeExt2fs.Trees
open Programs Structures Glue Library
open Program (wp wp_pure wp_bind wp_ite wp_mono wp_counting)
open Census (Live Shaped Sound Proper Edit Inside Rooted)

variable {resolver : Resolver} {steady exact rooted : Prop} {volume volume' volume'' : Volume}

/-- What is left of the volume when the target of a rename has gone. A target of zero is none. -/
structure Cleared (volume volume' : Volume) (dir : Ino) (name : Name) (ino : Ino) : Prop where
  mode : volume'.mode = volume.mode
  target : volume'.target = volume.target
  inUse : ∀ other, other ≠ ino → volume'.inUse other = volume.inUse other
  find : ∀ other name', other ≠ ino ∨ ino = 0 → (other, name') ≠ (dir, name) →
    volume'.find other name' = volume.find other name'
  names : ∀ place ∈ volume'.census.names, place ∈ volume.census.names
  links : volume'.census.links dir + (if ino ≠ 0 ∧ volume.isDir ino = true then 1 else 0) =
    volume.census.links dir

theorem Cleared.refl (volume : Volume) (dir : Ino) (name : Name) : Cleared volume volume dir name 0 :=
  ⟨rfl, rfl, fun _ _ => rfl, fun _ _ _ _ => rfl, fun _ member => member,
    by rw [if_neg fun bad => bad.1 rfl]; rfl⟩

/-- An entry that goes is not looked up under other names. -/
theorem find_eraseP {name name' : Name} (other : name' ≠ name) (entries : List DirEntry) :
    (entries.eraseP fun entry => entry.name = name).find? (fun entry => entry.name = name') =
      entries.find? fun entry => entry.name = name' := by
  induction entries with
  | nil => rfl
  | cons entry rest ih =>
      by_cases named : entry.name = name
      · have differ : entry.name ≠ name' := fun same => other (same.symm.trans named)
        rw [List.eraseP_cons_of_pos (by simp [named]), List.find?_cons_of_neg (by simp [differ])]
      · rw [List.eraseP_cons_of_neg (by simp [named])]
        by_cases here : entry.name = name'
        · rw [List.find?_cons_of_pos (by simp [here]), List.find?_cons_of_pos (by simp [here])]
        · rw [List.find?_cons_of_neg (by simp [here]), List.find?_cons_of_neg (by simp [here]), ih]

theorem find_insert {name : Name} {entry : DirEntry} (other : entry.name ≠ name)
    (before after : List DirEntry) :
    (before ++ entry :: after).find? (fun entry => entry.name = name) =
      (before ++ after).find? fun entry => entry.name = name := by
  rw [List.find?_append, List.find?_append, List.find?_cons_of_neg (by simp [other])]

/-- What is left when the target has gone, apart from the counts. -/
structure Spared (volume volume' : Volume) (dir : Ino) (name : Name) (ino : Ino) : Prop where
  mode : volume'.mode = volume.mode
  target : volume'.target = volume.target
  inUse : ∀ other, other ≠ ino → volume'.inUse other = volume.inUse other
  find : ∀ other name', other ≠ ino ∨ ino = 0 → (other, name') ≠ (dir, name) →
    volume'.find other name' = volume.find other name'
  names : ∀ place ∈ volume'.census.names, place ∈ volume.census.names

theorem Spared.refl (volume : Volume) (dir : Ino) (name : Name) : Spared volume volume dir name 0 :=
  ⟨rfl, rfl, fun _ _ => rfl, fun _ _ _ _ => rfl, fun _ member => member⟩

theorem spared_of_withdrawn {dir ino : Ino} {name : Name} (positive : ino ≠ 0)
    (withdrawn : Withdrawn volume volume' dir name ino) : Spared volume volume' dir name ino where
  mode := withdrawn.mode
  target := withdrawn.target
  inUse := withdrawn.inUse
  find other name' different elsewhere := by
    have here := different.resolve_right positive
    by_cases same : other = dir
    · have distinct : name' ≠ name := fun equal => elsewhere (by rw [same, equal])
      rw [Volume.find, Volume.find, same, withdrawn.erased]
      exact find_eraseP distinct _
    · rw [Volume.find, Volume.find, withdrawn.others other same here]
  names := withdrawn.names

theorem Cleared.spared {dir ino : Ino} {name : Name} (cleared : Cleared volume volume' dir name ino) :
    Spared volume volume' dir name ino :=
  ⟨cleared.mode, cleared.target, cleared.inUse, cleared.find, cleared.names⟩

theorem cleared_of_vacated {dir ino : Ino} {name : Name} (positive : ino ≠ 0)
    (vacated : Vacated volume volume' dir name ino) : Cleared volume volume' dir name ino := by
  obtain ⟨mode, target, inUse, find, names⟩ := spared_of_withdrawn positive vacated.withdrawn
  refine ⟨mode, target, inUse, find, names, ?_⟩
  have links := vacated.links
  by_cases directory : volume.isDir ino = true
  · rw [if_pos directory] at links
    rw [if_pos ⟨positive, directory⟩]
    exact links
  · rw [if_neg directory] at links
    rw [if_neg fun both => directory both.2]
    exact links

theorem Spared.isDir {dir ino : Ino} {name : Name} (spared : Spared volume volume' dir name ino) :
    volume'.isDir = volume.isDir := by
  funext other
  rw [Volume.isDir, Volume.isDir, spared.mode]

/-- The last component of a path is in the directory of the rest. -/
theorem located_split {path before : Path} {name name' : Name} {dir dir' : Ino}
    (split : strrchr path = some (before, name))
    (parent : resolver.walk volume (before ++ [slash]) = .ok dir)
    (located : Located resolver volume path dir' name') (directory : volume.isDir dir' = true) :
    dir' = dir ∧ name' = name := by
  obtain ⟨there, same⟩ := (located_some split).mp located
  exact ⟨resolver.walk_slash volume before dir dir' parent there directory, same.symm⟩

/-- The target of a rename has gone, or the rename fails. -/
def TargetGone (exact rooted : Prop) (volume : Volume) (dir : Ino) (name : Name) (ino : Ino)
    (ret : Int) (volume' : Volume) : Prop :=
  volume'.WellFormed exact rooted ∧ (ret = 0 →
    (ino ≠ 0 → volume.isDir dir = true ∧ dir ≠ ino ∧ (volume.isDir ino = true → Vacant volume ino)) ∧
      Cleared volume volume' dir name ino)

/-- The target of a rename has gone with its name. -/
def TargetRemoved (resolver : Resolver) (volume : Volume) (path : Path) (dir : Ino) (name : Name)
    (ino : Ino) (volume' : Volume) : Prop :=
  ∃ entry, entry.inode = ino ∧ (Unfiled resolver volume path dir name entry volume' ∨
    Emptied resolver volume path dir name entry volume')

/-- "If the target exists, unlink it first". -/
theorem renameTarget_removed (calm : steady) (closed : resolver.Closed) (placed : volume.Placed)
    (few : ∀ dir entry, (dir, entry) ∈ volume.census.names → Plain entry →
      Vacant volume entry.inode → volume.links entry.inode = 1 ∨ volume.links entry.inode = 2)
    {toIno toDirIno : Ino} {toPath target : Path} {toName : Name}
    (split : strrchr toPath = some (target, toName))
    (parent : resolver.walk volume (target ++ [slash]) = .ok toDirIno)
    (there : toIno ≠ 0 → resolver.walk volume toPath = .ok toIno)
    (proper : toIno ≠ 0 → Vacant volume toIno → toName ≠ dot ∧ toName ≠ dotdot) :
    wp (libext2fs resolver steady) (renameTarget toIno toPath)
      (fun ret volume' => ret = 0 ∧ (toIno = 0 ∧ volume' = volume ∨ toIno ≠ 0 ∧
          TargetRemoved resolver volume toPath toDirIno toName toIno volume') ∨
        ret ≠ 0 ∧ volume' = volume) volume := by
  by_cases none : toIno = 0
  · rw [renameTarget, if_neg (not_not_intro none)]
    exact .inl ⟨rfl, .inl ⟨none, rfl⟩⟩
  · have walked := there none
    rw [renameTarget, if_pos none, wp_bind]
    apply wp_library (.readInode toIno)
    intro answer volume₁ read
    rw [read.1, wp_ite]
    refine ⟨fun bad => ?_, fun _ => ?_⟩
    · apply wp_mono (translateError_quiet answer.1)
      intro ret volume' quiet
      exact .inr ⟨quiet.2 bad, quiet.1⟩
    rw [wp_ite]
    refine ⟨fun _ => ?_, fun _ => ?_⟩
    · have outside : ∀ ino dir name, resolver.walk volume toPath = .ok ino → Vacant volume ino →
          Located resolver volume toPath dir name → volume.isDir dir = true →
          name ≠ dot ∧ name ≠ dotdot := by
        intro ino dir name found vacant located _
        have sameIno : ino = toIno := Except.ok.inj (found.symm.trans walked)
        have sameName : toName = name := ((located_some split).mp located).2
        rw [← sameName]
        exact proper none (sameIno ▸ vacant)
      apply (@wp_counting _ _ _ _ _ frees _ _ _ 0).mp
      apply wp_mono (nodeExt2fsRmdir_emptied calm closed placed few toPath outside 0)
      intro ret state' outcome
      rcases outcome.1 with ⟨zero, _, dir, name, entry, emptied⟩ | ⟨bad, same⟩
      · obtain ⟨sameDir, sameName⟩ := located_split split parent emptied.located emptied.holder.2
        rw [sameDir, sameName] at emptied
        exact .inl ⟨zero, .inr ⟨none, entry,
          Except.ok.inj (emptied.walked.symm.trans walked), .inr emptied⟩⟩
      · rw [same]
        exact .inr ⟨bad, rfl⟩
    · apply wp_mono (nodeExt2fsUnlink_unfiled calm closed placed toPath)
      intro ret volume' outcome
      rcases outcome with ⟨zero, dir, name, entry, unfiled⟩ | failed
      · obtain ⟨sameDir, sameName⟩ := located_split split parent unfiled.located unfiled.holder.2
        rw [sameDir, sameName] at unfiled
        exact .inl ⟨zero, .inr ⟨none, entry,
          Except.ok.inj (unfiled.walked.symm.trans walked), .inl unfiled⟩⟩
      · exact .inr failed

/-- What a target that has gone was. -/
theorem TargetRemoved.spared (placed : volume.Placed) {path : Path} {dir ino : Ino} {name : Name}
    (removed : TargetRemoved resolver volume path dir name ino volume') :
    (volume.isDir dir = true ∧ dir ≠ ino ∧ (volume.isDir ino = true → Vacant volume ino)) ∧
      Spared volume volume' dir name ino := by
  obtain ⟨entry, refers, unfiled | emptied⟩ := removed
  · have positive : entry.inode ≠ 0 :=
      ne_null placed (placed.shaped.held _ (place_of_entry placed unfiled.holder
        (List.mem_of_find?_eq_some unfiled.found))).2.1
    rw [← refers]
    refine ⟨⟨unfiled.holder.2, ne_of_file unfiled.holder unfiled.isFile, fun directory => ?_⟩,
      spared_of_withdrawn positive (unfiled.withdrawn placed)⟩
    exact absurd (directory.symm.trans unfiled.isFile) Bool.noConfusion
  · have positive : entry.inode ≠ 0 :=
      ne_null placed (placed.shaped.held _ (place_of_entry placed emptied.holder
        (List.mem_of_find?_eq_some emptied.found))).2.1
    rw [← refers]
    exact ⟨⟨emptied.holder.2, emptied.apart, fun _ => emptied.vacant⟩,
      spared_of_withdrawn positive (emptied.withdrawn placed)⟩

/-- A removal keeps the volume well-formed, and the count of the directory follows. -/
theorem TargetRemoved.cleared (formed : volume.WellFormed exact rooted) {path : Path} {dir ino : Ino}
    {name : Name} (removed : TargetRemoved resolver volume path dir name ino volume')
    (there : ino ≠ 0) :
    volume'.WellFormed exact rooted ∧ Cleared volume volume' dir name ino := by
  obtain ⟨entry, refers, unfiled | emptied⟩ := removed
  · obtain ⟨formed', vacated⟩ := vacated_of_unfiled formed unfiled
    exact ⟨formed', cleared_of_vacated there (refers ▸ vacated)⟩
  · obtain ⟨formed', vacated⟩ :=
      vacated_of_undirectoried formed (undirectoried_of_emptied formed emptied)
    exact ⟨formed', cleared_of_vacated there (refers ▸ vacated)⟩

theorem renameTarget_cleared (calm : steady) (closed : resolver.Closed)
    (formed : volume.WellFormed exact rooted) {toIno toDirIno : Ino} {toPath target : Path}
    {toName : Name} (split : strrchr toPath = some (target, toName))
    (parent : resolver.walk volume (target ++ [slash]) = .ok toDirIno)
    (there : toIno ≠ 0 → resolver.walk volume toPath = .ok toIno)
    (proper : toIno ≠ 0 → Vacant volume toIno → toName ≠ dot ∧ toName ≠ dotdot) :
    wp (libext2fs resolver steady) (renameTarget toIno toPath)
      (TargetGone exact rooted volume toDirIno toName toIno) volume := by
  apply wp_mono (renameTarget_removed calm closed formed.placed
    (fun dir entry member plain vacant => .inr (two_links formed dir entry member plain vacant))
    split parent there proper)
  intro ret volume' outcome
  rcases outcome with ⟨_, ⟨none, same⟩ | ⟨positive, removed⟩⟩ | ⟨bad, same⟩
  · rw [same, none]
    exact ⟨formed, fun _ => ⟨fun bad => absurd rfl bad, .refl volume toDirIno toName⟩⟩
  · obtain ⟨formed', cleared⟩ := removed.cleared formed positive
    exact ⟨formed', fun _ => ⟨fun _ => (removed.spared formed.placed).1, cleared⟩⟩
  · rw [same]
    exact ⟨formed, fun zero => absurd zero bad⟩

/-- `update_dotdot_helper` changes the first entry for the parent, and stops there. -/
theorem iterate_dotdot_cons (parent : Ino) (entry : DirEntry) (rest : List DirEntry) :
    ((DirProc.updateDotdotHelper parent).iterate (entry :: rest)).2 =
      if entry.name = dotdot then { entry with inode := parent } :: rest
      else entry :: ((DirProc.updateDotdotHelper parent).iterate rest).2 := by
  by_cases upwards : entry.name = dotdot
  · have visit : (DirProc.updateDotdotHelper parent).visit entry =
        ({ entry with inode := parent }, DIRENT_CHANGED ||| DIRENT_ABORT) := by
      show Glue.updateDotdotHelper parent entry = _
      rw [Glue.updateDotdotHelper, if_pos upwards]
    rw [if_pos upwards, DirProc.iterate, visit]
    rfl
  · have visit : (DirProc.updateDotdotHelper parent).visit entry = (entry, 0) := by
      show Glue.updateDotdotHelper parent entry = _
      rw [Glue.updateDotdotHelper, if_neg upwards]
    rw [if_neg upwards, DirProc.iterate, visit]
    rfl

/-- What `update_dotdot_helper` leaves of the entries. -/
theorem iterate_updateDotdot (parent : Ino) (entries : List DirEntry) :
    (∀ up, entries.find? (fun entry => entry.name = dotdot) = some up →
      (((DirProc.updateDotdotHelper parent).iterate entries).2 ++ [up]).Perm
          (entries ++ [{ up with inode := parent }]) ∧
        ((DirProc.updateDotdotHelper parent).iterate entries).2.find?
          (fun entry => entry.name = dotdot) = some { up with inode := parent }) ∧
      ∀ name, name ≠ dotdot → ((DirProc.updateDotdotHelper parent).iterate entries).2.find?
        (fun entry => entry.name = name) = entries.find? fun entry => entry.name = name := by
  induction entries with
  | nil => exact ⟨fun up bad => absurd bad.symm (Option.some_ne_none up), fun _ _ => rfl⟩
  | cons entry rest ih =>
      rw [iterate_dotdot_cons]
      by_cases upwards : entry.name = dotdot
      · rw [if_pos upwards]
        constructor
        · intro up found
          rw [List.find?_cons_of_pos (by simp [upwards])] at found
          rw [← Option.some.inj found]
          refine ⟨?_, List.find?_cons_of_pos (by simp [upwards])⟩
          exact (List.perm_append_singleton _ _).trans
            (List.Perm.cons _ (List.perm_append_singleton _ _).symm)
        · intro name other
          rw [List.find?_cons_of_neg (by simp [upwards, Ne.symm other]),
            List.find?_cons_of_neg (by simp [upwards, Ne.symm other])]
      · rw [if_neg upwards]
        constructor
        · intro up found
          rw [List.find?_cons_of_neg (by simp [upwards])] at found
          obtain ⟨moved, there⟩ := ih.1 up found
          refine ⟨List.Perm.cons _ moved, ?_⟩
          rw [List.find?_cons_of_neg (by simp [upwards])]
          exact there
        · intro name other
          by_cases here : entry.name = name
          · rw [List.find?_cons_of_pos (by simp [here]), List.find?_cons_of_pos (by simp [here])]
          · rw [List.find?_cons_of_neg (by simp [here]), List.find?_cons_of_neg (by simp [here]),
              ih.2 name other]

theorem renameCount_counted (calm : steady) (dir : Ino) (change : BitVec 16) :
    wp (libext2fs resolver steady) (renameCount dir change)
      (fun ret volume' => ret = 0 ∧ volume' = recounted volume dir change) volume := by
  rw [renameCount, wp_bind]
  apply wp_library (.readInode dir)
  intro answer volume₁ allowed
  obtain ⟨same, read, fine⟩ := allowed
  rw [same, wp_ite]
  refine ⟨fun bad => absurd (fine calm) bad, fun zero => ?_⟩
  obtain ⟨mode, links⟩ := read (not_not.mp zero)
  rw [wp_bind]
  apply wp_library (.writeInode dir _)
  intro code volume₂ wrote
  have written : code = 0 ∧ volume₂ = recounted volume dir change := by
    rcases wrote with ⟨zero, done⟩ | ⟨unsteady, _⟩
    · refine ⟨zero, ?_⟩
      rw [done, show answer.2.iMode = _ from mode, show answer.2.iLinksCount = _ from links]
      rfl
    · exact absurd calm unsteady
  rw [wp_ite]
  exact ⟨fun bad => absurd written.1 bad, fun _ => ⟨rfl, written.2⟩⟩

/-- The volume with the entry of a moved directory for its parent, and the counts of both parents. -/
def redirected (volume : Volume) (ino fromDir toDir : Ino) : Volume :=
  recounted (recounted (volume.setEntries ino
    ((DirProc.updateDotdotHelper toDir).iterate (volume.entries ino)).2) fromDir (-1)) toDir 1

/-- "Update '..' pointer if dir". -/
theorem renameDotdot_redirected (calm : steady) (ino fromDir toDir : Ino) :
    wp (libext2fs resolver steady) (renameDotdot ino fromDir toDir)
      (fun ret volume' => ret = 0 ∧ volume' =
        if volume.isDir ino then redirected volume ino fromDir toDir else volume) volume := by
  rw [renameDotdot, wp_bind]
  apply wp_library (.readInode ino)
  intro answer volume₁ allowed
  obtain ⟨same, read, fine⟩ := allowed
  rw [same, wp_ite]
  refine ⟨fun bad => absurd (fine calm) bad, fun zero => ?_⟩
  have kind : linuxSIsdir answer.2.iMode = volume.isDir ino :=
    congrArg linuxSIsdir (read (not_not.mp zero)).1
  rw [kind, wp_ite]
  refine ⟨fun directory => ?_, fun isFile => ⟨rfl, (if_neg isFile).symm⟩⟩
  rw [wp_bind, if_pos directory]
  apply wp_library (.dirIterate ino (.updateDotdotHelper toDir))
  intro visited volume₂ iterated
  rcases iterated with ⟨fine, _, _, same⟩ | ⟨_, missing, _⟩
  · dsimp only
    rw [same, wp_ite]
    refine ⟨fun bad => absurd fine bad, fun _ => ?_⟩
    rw [wp_bind]
    apply wp_mono (renameCount_counted calm fromDir (-1))
    intro ret volume₃ outcome
    obtain ⟨zero, taken⟩ := outcome
    rw [wp_ite]
    refine ⟨fun bad => absurd zero bad, fun _ => ?_⟩
    apply wp_mono (renameCount_counted calm toDir 1)
    intro ret' volume₄ outcome
    obtain ⟨zero', given⟩ := outcome
    rw [given, taken]
    exact ⟨zero', rfl⟩
  · exact absurd (directory.symm.trans (missing calm)) Bool.noConfusion

/-- "Remove the old file". -/
theorem renameFinish_erased (calm : steady) (fromIno toDir : Ino) (fromPath : Path) :
    wp (libext2fs resolver steady) (renameFinish fromIno toDir fromPath)
      (fun _ volume' => (∃ dir name, Located resolver volume fromPath dir name ∧
          Erased volume dir name volume') ∨
        volume' = volume ∧ ∀ dir name, Located resolver volume fromPath dir name → dir ≠ 0 →
          volume.isDir dir = true → volume.find dir name = none) volume := by
  rw [renameFinish, wp_bind]
  apply wp_mono (updateCtime_none fromIno)
  intro stamped volume₁ outcome
  obtain ⟨same, fine⟩ := outcome
  rw [same, wp_ite]
  refine ⟨fun bad => absurd (fine calm) bad, fun _ => ?_⟩
  rw [wp_bind]
  apply wp_mono (updateMtime_none toDir)
  intro touched volume₂ outcome
  obtain ⟨same, fine⟩ := outcome
  rw [same, wp_ite]
  refine ⟨fun bad => absurd (fine calm) bad, fun _ => ?_⟩
  rw [wp_bind]
  apply wp_mono (unlinkFileByName_erased fromPath)
  intro ret volume₃ removed
  have result : (∃ dir name, Located resolver volume fromPath dir name ∧
        Erased volume dir name volume₃) ∨
      volume₃ = volume ∧ ∀ dir name, Located resolver volume fromPath dir name → dir ≠ 0 →
        volume.isDir dir = true → volume.find dir name = none := by
    rcases removed with ⟨dir, name, located, erased, _⟩ | ⟨same, _, missing⟩
    · exact .inl ⟨dir, name, located, erased⟩
    · exact .inr ⟨same, missing calm⟩
  rw [wp_ite]
  refine ⟨fun _ => result, fun _ => ?_⟩
  rw [wp_bind]
  apply wp_library .flush2
  intro code volume₄ same
  rw [show volume₄ = _ from same, wp_ite]
  refine ⟨fun _ => ?_, fun _ => result⟩
  apply wp_mono (translateError_quiet code)
  intro ret' volume₅ quiet
  rw [quiet.1]
  exact result

/-- A name that is added is not looked up under other names. -/
theorem find_linked {dir : Ino} {entry : DirEntry} {before after : List DirEntry}
    (split : volume.entries dir = before ++ after)
    (like : (volume.setEntries dir (before ++ entry :: after)).Like volume') {other : Ino}
    {name : Name} (elsewhere : (other, name) ≠ (dir, entry.name)) :
    volume'.find other name = volume.find other name := by
  rw [Volume.find, Volume.find, like.entries]
  show (Function.update volume.entries dir (before ++ entry :: after) other).find? _ = _
  by_cases here : other = dir
  · have distinct : entry.name ≠ name := fun same => elsewhere (by rw [here, same])
    rw [here, Function.update_self, find_insert distinct, split]
  · rw [Function.update_of_ne here]

theorem find_redirected {ino fromDir toDir other : Ino} {name : Name}
    (elsewhere : (other, name) ≠ (ino, dotdot)) :
    (redirected volume ino fromDir toDir).find other name = volume.find other name := by
  rw [Volume.find, Volume.find]
  show (Function.update volume.entries ino
    ((DirProc.updateDotdotHelper toDir).iterate (volume.entries ino)).2 other).find? _ = _
  by_cases here : other = ino
  · have distinct : name ≠ dotdot := fun same => elsewhere (by rw [here, same])
    rw [here, Function.update_self]
    exact (iterate_updateDotdot toDir (volume.entries ino)).2 name distinct
  · rw [Function.update_of_ne here]

theorem redirected_mode (ino fromDir toDir : Ino) :
    (redirected volume ino fromDir toDir).mode = volume.mode := by
  show Function.update (Function.update volume.mode fromDir (volume.mode fromDir)) toDir
    (Function.update volume.mode fromDir (volume.mode fromDir) toDir) = _
  rw [Function.update_eq_self, Function.update_eq_self]

theorem decrement_toNat {count : BitVec 16} (positive : count.toNat ≠ 0) :
    (count + (-1 : BitVec 16)).toNat = count.toNat - 1 := by
  bv_omega

/-- The count of the new parent after the old one has lost a link. -/
theorem room_recounted {fromDir toDir : Ino} (counted : (volume.links fromDir).toNat ≠ 0)
    (room : fromDir ≠ toDir → volume.links toDir ≠ 0xffff#16) :
    (recounted volume fromDir (-1)).links toDir ≠ 0xffff#16 := by
  show Function.update volume.links fromDir (volume.links fromDir + -1) toDir ≠ _
  by_cases same : toDir = fromDir
  · rw [same, Function.update_self]
    intro full
    have less := decrement_toNat counted
    rw [full] at less
    have bound := (volume.links fromDir).isLt
    have top : (0xffff#16 : BitVec 16).toNat = 65535 := rfl
    omega
  · rw [Function.update_of_ne same]
    exact room (Ne.symm same)

/-- The counts of the two parents of a moved directory. -/
theorem census_redirected {fromDir toDir : Ino} (counted : (volume.links fromDir).toNat ≠ 0) (ino : Ino)
    (counts : volume'.links = volume.links) (room : fromDir ≠ toDir → volume.links toDir ≠ 0xffff#16) :
    (redirected volume' ino fromDir toDir).census =
      { inUse := volume'.census.inUse
        isDir := volume'.census.isDir
        links := movedLinks volume.census.links fromDir toDir
        names := (volume'.setEntries ino
          ((DirProc.updateDotdotHelper toDir).iterate (volume'.entries ino)).2).census.names } := by
  generalize listed : volume'.setEntries ino
    ((DirProc.updateDotdotHelper toDir).iterate (volume'.entries ino)).2 = volume₁
  have links₁ : volume₁.links = volume.links := by
    rw [← listed]
    exact counts
  have taken : (recounted volume₁ fromDir (-1)).census.links =
      Function.update volume.census.links fromDir (volume.census.links fromDir - 1) := by
    rw [census_recounted, links₁, decrement_toNat counted]
    show Function.update (fun ino => (volume₁.links ino).toNat) fromDir _ = _
    rw [links₁]
    rfl
  rw [← links₁] at counted room
  have given : ((recounted volume₁ fromDir (-1)).links toDir + 1).toNat =
      Function.update volume.census.links fromDir (volume.census.links fromDir - 1) toDir + 1 := by
    rw [increment_toNat (room_recounted counted room), ← taken]
    rfl
  have result : redirected volume' ino fromDir toDir =
      recounted (recounted volume₁ fromDir (-1)) toDir 1 := by
    rw [← listed]
    rfl
  rw [result, census_recounted, given, taken, census_recounted, ← listed]
  rfl

/-- A name in use, and one that is to take its place. -/
structure Moving (volume : Volume) (fromDir toDir : Ino) (fromName : Name) (old new : DirEntry) :
    Prop where
  fromLive : volume.census.Live fromDir
  toLive : volume.census.Live toDir
  found : volume.find fromDir fromName = some old
  plainOld : Plain old
  plainNew : Plain new
  nonempty : new.name ≠ []
  same : new.inode = old.inode
  elsewhere : (fromDir, fromName) ≠ (toDir, new.name)

section Moved

variable (placed : volume.Placed) {fromDir toDir : Ino} {fromName : Name} {old new : DirEntry}
  (moving : Moving volume fromDir toDir fromName old new) {before after : List DirEntry}
  (split : volume.entries toDir = before ++ after)
  (like : (volume.setEntries toDir (before ++ new :: after)).Like volume')
include placed moving split like

/-- The census with a new name of a file in place of the old one. -/
theorem moved_file (erased : Erased volume' fromDir fromName volume'') :
    (∃ rest, volume.census.names = (fromDir, old) ::ₘ rest ∧
      volume''.census = { volume.census with names := (toDir, new) ::ₘ rest }) ∧
    ∀ ino, volume''.inUse ino = true → ino ≤ volume''.inodesCount := by
  have linked := relisted_insert split like
  have member := place_of_entry placed moving.fromLive (List.mem_of_find?_eq_some moving.found)
  obtain ⟨rest, names⟩ := Multiset.exists_cons_of_mem member
  have added := linked.added (placed.bounded toDir moving.toLive.1) moving.toLive
  have fromLive : volume'.census.Live fromDir := by
    rw [linked.census]
    exact moving.fromLive
  have found := (find_linked split like moving.elsewhere).trans moving.found
  have removed := relisted_erase found erased.2.2
  have dropped := removed.dropped (linked.inodesCount ▸ placed.bounded fromDir moving.fromLive.1)
    fromLive
  rw [added, names, Multiset.cons_swap] at dropped
  have left := (Multiset.cons_inj_right _).mp dropped
  refine ⟨⟨rest, names, ?_⟩, ?_⟩
  · rw [removed.census, linked.census, ← left]
  · intro ino used
    rw [removed.inUse, linked.inUse] at used
    rw [removed.inodesCount, linked.inodesCount]
    exact placed.bounded ino used

/-- The census with a new name and a new parent of a directory. -/
theorem moved_directory (directory : volume.isDir old.inode = true)
    (counted : (volume.links fromDir).toNat ≠ 0) (room : fromDir ≠ toDir → volume.links toDir ≠ 0xffff#16)
    (erased : Erased (redirected volume' old.inode fromDir toDir) fromDir fromName volume'') :
    (∃ up rest, volume.census.names = (fromDir, old) ::ₘ (old.inode, up) ::ₘ rest ∧
      up.name = dotdot ∧ volume''.census =
        { volume.census with
          links := movedLinks volume.census.links fromDir toDir
          names := (toDir, new) ::ₘ (old.inode, { up with inode := toDir }) ::ₘ rest }) ∧
    ∀ ino, volume''.inUse ino = true → ino ≤ volume''.inodesCount := by
  have linked := relisted_insert split like
  have member := place_of_entry placed moving.fromLive (List.mem_of_find?_eq_some moving.found)
  have live : volume.census.Live old.inode := ⟨(placed.shaped.held _ member).2.1, directory⟩
  obtain ⟨_, looked, _⟩ := lookup_special placed live (.inr rfl)
  obtain ⟨_, up, upFound, upName, _⟩ := find_of_lookup looked
  have upMember := place_of_entry placed live (List.mem_of_find?_eq_some upFound)
  obtain ⟨others, names⟩ := Multiset.exists_cons_of_mem member
  have distinct : (old.inode, up) ≠ (fromDir, old) := by
    intro same
    have entries := congrArg Prod.snd same
    exact moving.plainOld.2 ((congrArg DirEntry.name entries).symm.trans upName)
  rw [names] at upMember
  obtain ⟨rest, others_eq⟩ :=
    Multiset.exists_cons_of_mem ((Multiset.mem_cons.mp upMember).resolve_left distinct)
  rw [others_eq] at names
  have added := linked.added (placed.bounded toDir moving.toLive.1) moving.toLive
  -- The entry for the parent is the same one after the new name was added.
  have upFound' : volume'.find old.inode dotdot = some up := by
    rw [find_linked split like fun same => moving.plainNew.2 (congrArg Prod.snd same).symm]
    exact upFound
  have live' : volume'.census.Live old.inode := by
    rw [linked.census]
    exact live
  have bounded (ino : Ino) (used : volume.inUse ino = true) : ino ≤ volume'.inodesCount := by
    rw [linked.inodesCount]
    exact placed.bounded ino used
  have relisted := @relisted_of_like volume'
    (volume'.setEntries old.inode ((DirProc.updateDotdotHelper toDir).iterate
      (volume'.entries old.inode)).2) old.inode _ [up] [{ up with inode := toDir }]
    ⟨volume'.fits, volume'.grows, rfl⟩
    ((iterate_updateDotdot toDir (volume'.entries old.inode)).1 up upFound').1
  have swapped := relisted.swapped (bounded _ live.1) live'
  have census := census_redirected counted old.inode linked.links room
  have fromLive : (redirected volume' old.inode fromDir toDir).census.Live fromDir := by
    rw [census, linked.census]
    exact moving.fromLive
  have found : (redirected volume' old.inode fromDir toDir).find fromDir fromName = some old := by
    rw [find_redirected, find_linked split like moving.elsewhere]
    · exact moving.found
    · intro same
      have named := find_name moving.found
      exact moving.plainOld.2 (named.trans (congrArg Prod.snd same))
  have removed := relisted_erase found erased.2.2
  have dropped := removed.dropped (bounded _ moving.fromLive.1) fromLive
  have renamed : volume''.census.names =
      (toDir, new) ::ₘ (old.inode, { up with inode := toDir }) ::ₘ rest := by
    rw [census] at dropped
    dsimp only at dropped
    rw [dropped, added, names] at swapped
    apply (Multiset.cons_inj_right (fromDir, old)).mp
    apply (Multiset.cons_inj_right (old.inode, up)).mp
    rw [swapped]
    simp only [← Multiset.singleton_add]
    ac_rfl
  refine ⟨⟨up, rest, names, upName, ?_⟩, ?_⟩
  · rw [removed.census, renamed, census, linked.census]
  · intro ino used
    rw [removed.inUse] at used
    rw [removed.inodesCount]
    apply bounded ino
    rw [← linked.inUse]
    exact used

end Moved

end NodeExt2fs.Trees
