import NodeExt2fs.Proof.Library.Spacious
import NodeExt2fs.Proof.Trees.Linking

/-!
This file says when `link` does all of its work or none, on a disk that does not fail.
-/

namespace NodeExt2fs.Atomic
open Programs Structures Glue Library
open Program (wp wp_pure wp_bind wp_ite wp_mono may may_bind may_mono not_wp_of_may)

variable {resolver : Resolver} {volume : Volume}

/-- A link that returns zero has added the name and counted it, and a link that returns anything else
has changed no entry and no count. -/
def LinksAll (resolver : Resolver) (volume : Volume) (src dest : Path) (ret : Int)
    (volume' : Volume) : Prop :=
  (ret = 0 → ∃ before name parent ino, strrchr dest = some (before, name) ∧
    resolver.walk volume (before ++ [slash]) = .ok parent ∧ resolver.walk volume src = .ok ino ∧
    (∃ entry ∈ volume'.entries parent, entry.name = name ∧ entry.inode = ino) ∧
    (volume'.links ino).toNat = (volume.links ino).toNat + 1) ∧
  (ret ≠ 0 → volume'.entries = volume.entries ∧ volume'.links = volume.links)

/-- A lookup that gives no inode. -/
def LookupFails (result : Except Errcode Ino) : Prop :=
  match result with
  | .ok ino => ino = 0
  | .error code => code ≠ 0

/-- The directory can take the name, and the count of the inode can grow. -/
structure Addable (volume : Volume) (parent : Ino) (name : Name) (ino : Ino) : Prop where
  directory : volume.isDir parent = true
  room : volume.fits parent name = true ∨ volume.grows parent = true
  uncounted : volume.links ino ≠ 0xffff#16

/-- The parent of the new name is found, and it can take the name when there is something to link. -/
def LinkReady (resolver : Resolver) (volume : Volume) (src dest : Path) : Prop :=
  ∀ before name, strrchr dest = some (before, name) →
    ¬LookupFails (resolver.walk volume (before ++ [slash])) ∧
    ∀ parent ino, resolver.walk volume (before ++ [slash]) = .ok parent →
      resolver.walk volume src = .ok ino → ino ≠ 0 → Addable volume parent name ino

/-- A call that fails before it has written anything. -/
theorem linksAll_failed {src dest : Path} (err : Errcode) (bad : err ≠ 0) :
    wp (libext2fs resolver True) (translateError err) (LinksAll resolver volume src dest) volume := by
  apply wp_mono (translateError_quiet err)
  intro ret volume' quiet
  refine ⟨fun zero => absurd zero (quiet.2 bad), fun _ => ?_⟩
  rw [quiet.1]
  exact ⟨rfl, rfl⟩

theorem resolved_found {result : Except Errcode Ino} {answer : Errcode × Ino}
    (resolved : Resolved True result answer) (fine : ¬(answer.1 ≠ 0 ∨ answer.2 = 0)) :
    result = .ok answer.2 ∧ answer.2 ≠ 0 :=
  walk_of_resolved resolved (not_not.mp fun bad => fine (.inl bad))

theorem linkInto_links {src dest before : Path} {name : Name} {parent : Ino}
    (split : strrchr dest = some (before, name))
    (there : resolver.walk volume (before ++ [slash]) = .ok parent)
    (addable : ∀ ino, resolver.walk volume src = .ok ino → ino ≠ 0 → Addable volume parent name ino) :
    wp (libext2fs resolver True) (linkInto src parent name) (LinksAll resolver volume src dest)
      volume := by
  rw [linkInto, wp_bind]
  apply wp_library (.namei src)
  intro source volume₁ allowed
  obtain ⟨same, resolved⟩ := allowed
  rw [same, wp_ite]
  refine ⟨fun unknown => ?_, fun known => ?_⟩
  · apply linksAll_failed
    intro fine
    rcases unknown with bad | zero
    · exact bad fine
    · exact (walk_of_resolved resolved fine).2 zero
  obtain ⟨walked, positive⟩ := resolved_found resolved known
  obtain ⟨directory, room, uncounted⟩ := addable source.2 walked positive
  rw [wp_bind]
  apply wp_library (.readInodeFull source.2)
  intro answer volume₂ allowed
  obtain ⟨same, read, calm⟩ := allowed
  rw [same, wp_ite]
  refine ⟨fun bad => absurd (calm trivial) bad, fun fine => ?_⟩
  obtain ⟨mode, links⟩ := read (not_not.mp fine)
  rw [wp_bind]
  apply wp_mono (updateCtime_some source.2 _)
  intro stamped volume₃ outcome
  obtain ⟨same, fine, keeps⟩ := outcome
  rw [same, wp_ite]
  refine ⟨fun bad => absurd fine bad, fun _ => ?_⟩
  rw [wp_bind]
  apply wp_library (.writeInodeFull source.2 stamped.2)
  intro code volume₄ wrote
  obtain ⟨zero, result⟩ := Trees.raised_written trivial mode links keeps wrote
  rw [wp_ite]
  refine ⟨fun bad => absurd zero bad, fun _ => ?_⟩
  rw [wp_bind]
  generalize ext2FileType stamped.2.iMode = fileType
  apply wp_mono (Trees.expanding_link trivial parent name source.2 fileType)
  intro code' volume₅ added
  have kept : volume₄.isDir parent = true := by
    rw [result, Trees.recounted_isDir]
    exact directory
  rw [wp_ite]
  rcases added with ⟨fine, _, front, back, _, fits, grows, equal⟩ | ⟨bad, _, full⟩
  · refine ⟨fun bad => absurd fine bad, fun _ => ?_⟩
    rw [wp_bind]
    apply wp_mono (updateMtime_none parent)
    intro touched volume₆ outcome
    obtain ⟨same, calm⟩ := outcome
    refine ⟨fun _ => ?_, fun bad => absurd (calm trivial) bad⟩
    refine ⟨before, name, parent, source.2, split, there, walked, ?_, ?_⟩
    · refine ⟨{ inode := source.2, name := name, fileType := fileType }, ?_, rfl, rfl⟩
      rw [same, equal]
      show _ ∈ Function.update volume₄.entries parent _ parent
      rw [Function.update_self]
      exact List.mem_append_right front List.mem_cons_self
    · rw [same, equal, result]
      show (Function.update volume.links source.2 _ source.2).toNat = _
      rw [Function.update_self]
      exact Trees.increment_toNat uncounted
  · refine absurd room ?_
    have stuck := full kept
    rw [result] at stuck
    show ¬(volume.fits parent name = true ∨ volume.grows parent = true)
    rw [show volume.fits parent name = false from stuck.1, show volume.grows parent = false from stuck.2]
    decide

/-- A name may be added to every directory. -/
theorem may_expanding_added {dir : Ino} (directory : volume.isDir dir = true) (name : Name) (ino : Ino)
    (fileType : Nat) :
    may (libext2fs resolver True) (expanding dir (ext2fsLink dir name ino fileType))
      (fun code volume' => code = 0 ∧ volume'.links = volume.links) volume := by
  rw [expanding, may_bind]
  refine may_library (.link dir name ino fileType) (0 : Errcode)
    (.inl ⟨rfl, directory, [], volume.entries dir, rfl, volume.fits, volume.grows, rfl⟩) ?_
  rw [if_neg (by decide)]
  exact ⟨rfl, rfl⟩

/-- The count is written before the name is added. -/
theorem may_linkInto {src : Path} {parent ino : Ino} {name : Name} {post : Int → Volume → Prop}
    (walked : resolver.walk volume src = .ok ino) (positive : ino ≠ 0)
    (adds : ∀ fileType, may (libext2fs resolver True)
      (expanding parent (ext2fsLink parent name ino fileType))
      (fun err volume' => (err = 0 → post 0 volume') ∧ (err ≠ 0 → ∀ ret, ret ≠ 0 → post ret volume'))
      (volume.written ino (volume.mode ino) (volume.links ino + 1))) :
    may (libext2fs resolver True) (linkInto src parent name) post volume := by
  rw [linkInto, may_bind]
  refine may_library (.namei src) (0, ino) ⟨rfl, ?_⟩ ?_
  · rw [walked]
    exact .inl ⟨rfl, rfl, positive⟩
  dsimp only
  rw [if_neg (not_or.mpr ⟨not_not.mpr rfl, positive⟩), may_bind]
  refine may_library (.readInodeFull ino) (0, volume.inodeLarge ino)
    ⟨rfl, fun _ => ⟨rfl, rfl⟩, fun _ => rfl⟩ ?_
  dsimp only
  rw [if_neg (not_not.mpr rfl), may_bind]
  apply may_mono (may_of_plain (updateCtime_only records_plain ino _) (updateCtime_some ino _))
  intro stamped volume₁ outcome
  obtain ⟨same, fine, mode, links⟩ := outcome
  rw [same, if_neg (not_not.mpr fine), may_bind]
  refine may_library (.writeInodeFull ino stamped.2) (0 : Errcode) (.inl ⟨rfl, rfl⟩) ?_
  have written : volume.written ino stamped.2.iMode stamped.2.iLinksCount =
      volume.written ino (volume.mode ino) (volume.links ino + 1) := by
    rw [mode, links]
    rfl
  rw [written, if_neg (not_not.mpr rfl), may_bind]
  generalize ext2FileType stamped.2.iMode = fileType
  apply may_mono (adds fileType)
  intro err volume₂ outcome
  by_cases fine : err = 0
  · rw [if_neg (not_not.mpr fine), may_bind]
    apply may_mono (may_updateMtime parent)
    intro touched volume₃ quiet
    rw [quiet.1, quiet.2]
    exact outcome.1 fine
  · rw [if_pos fine]
    apply may_mono (may_loosely (may_translateError fine))
    intro ret volume₃ failed
    rw [failed.2]
    exact outcome.2 fine ret failed.1

/-- The call comes to the lookup of the parent. -/
theorem may_nodeExt2fsLink {src dest before : Path} {name : Name} {post : Int → Volume → Prop}
    (split : strrchr dest = some (before, name)) {answer : Errcode × Ino}
    (resolved : Resolved True (resolver.walk volume (before ++ [slash])) answer)
    (rest : may (libext2fs resolver True)
      (if answer.1 ≠ 0 then pure 0 else linkInto src answer.2 name) post volume) :
    may (libext2fs resolver True) (nodeExt2fsLink src dest) post volume := by
  rw [nodeExt2fsLink, may_bind]
  refine may_library .strdup true rfl ?_
  rw [if_neg (by decide), split]
  dsimp only
  rw [may_bind]
  exact may_library (.namei (before ++ [slash])) answer ⟨rfl, resolved⟩ rest

/-- A lookup that reports an error has failed. -/
theorem lookupFails_of_resolved {result : Except Errcode Ino} {answer : Errcode × Ino}
    (resolved : Resolved True result answer) (bad : answer.1 ≠ 0) : LookupFails result := by
  cases result with
  | ok ino =>
      rcases resolved with ⟨fine, _⟩ | ⟨null, _⟩
      · exact absurd fine bad
      · exact null trivial
  | error code =>
      rcases resolved.2 with equal | ⟨unsteady, _⟩
      · exact equal ▸ bad
      · exact absurd trivial unsteady

theorem lookupFails_answer {result : Except Errcode Ino} (fails : LookupFails result) :
    ∃ answer, Resolved True result answer ∧ answer.1 ≠ 0 := by
  cases result with
  | ok ino =>
      refine ⟨Prod.mk EIO 0, .inr ⟨fun _ => fails, ?_, ?_⟩, ?_⟩
      · decide
      · decide
      · decide
  | error code => exact ⟨(code, 0), ⟨fails, .inl rfl⟩, fails⟩

/-- The count is written and the name added when both paths lead somewhere. -/
theorem may_linked {src dest before : Path} {name : Name} {parent ino : Ino} {post : Int → Volume → Prop}
    (split : strrchr dest = some (before, name)) (found : parent ≠ 0)
    (there : resolver.walk volume (before ++ [slash]) = .ok parent)
    (walked : resolver.walk volume src = .ok ino) (positive : ino ≠ 0)
    (adds : ∀ fileType, may (libext2fs resolver True)
      (expanding parent (ext2fsLink parent name ino fileType))
      (fun err volume' => (err = 0 → post 0 volume') ∧ (err ≠ 0 → ∀ ret, ret ≠ 0 → post ret volume'))
      (volume.written ino (volume.mode ino) (volume.links ino + 1))) :
    may (libext2fs resolver True) (nodeExt2fsLink src dest) post volume := by
  have resolved : Resolved True (resolver.walk volume (before ++ [slash])) (0, parent) := by
    rw [there]
    exact .inl ⟨rfl, rfl, found⟩
  apply may_nodeExt2fsLink split resolved
  rw [if_neg (not_not.mpr rfl)]
  exact may_linkInto walked positive adds

/-- A count that was written for a name that was not added. -/
theorem refutes_stuck {src dest before : Path} {name : Name} {parent ino : Ino}
    (split : strrchr dest = some (before, name)) (found : parent ≠ 0)
    (there : resolver.walk volume (before ++ [slash]) = .ok parent)
    (walked : resolver.walk volume src = .ok ino) (positive : ino ≠ 0)
    (stuck : volume.isDir parent = true →
      volume.fits parent name = false ∧ volume.grows parent = false) :
    may (libext2fs resolver True) (nodeExt2fsLink src dest)
      (fun ret volume' => ¬LinksAll resolver volume src dest ret volume') volume := by
  apply may_linked split found there walked positive
  intro fileType
  have failed : (volume.written ino (volume.mode ino) (volume.links ino + 1)).isDir parent = true →
      volume.fits parent name = false ∧ volume.grows parent = false := by
    rw [Volume.isDir, Volume.written, Function.update_eq_self]
    exact stuck
  apply may_mono (may_loosely (may_expanding_full failed ino fileType))
  intro err volume' failed
  refine ⟨fun zero => absurd zero failed.1, fun _ ret bad links => ?_⟩
  have kept := congrFun (links.2 bad).2 ino
  rw [failed.2] at kept
  have grown : Function.update volume.links ino (volume.links ino + 1) ino = volume.links ino := kept
  rw [Function.update_self] at grown
  bv_omega

/-- A count that was full before the name was added. -/
theorem refutes_wrapped {src dest before : Path} {name : Name} {parent ino : Ino}
    (split : strrchr dest = some (before, name)) (found : parent ≠ 0)
    (there : resolver.walk volume (before ++ [slash]) = .ok parent)
    (walked : resolver.walk volume src = .ok ino) (positive : ino ≠ 0)
    (directory : volume.isDir parent = true) (full : volume.links ino = 0xffff#16) :
    may (libext2fs resolver True) (nodeExt2fsLink src dest)
      (fun ret volume' => ¬LinksAll resolver volume src dest ret volume') volume := by
  apply may_linked split found there walked positive
  intro fileType
  have kept : (volume.written ino (volume.mode ino) (volume.links ino + 1)).isDir parent = true := by
    rw [Volume.isDir, Volume.written, Function.update_eq_self]
    exact directory
  apply may_mono (may_expanding_added kept name ino fileType)
  intro err volume' added
  refine ⟨fun _ links => ?_, fun bad => absurd added.1 bad⟩
  obtain ⟨_, _, _, other, _, _, reached, _, grown⟩ := links.1 rfl
  have same : ino = other := Except.ok.inj (walked.symm.trans reached)
  rw [← same, added.2] at grown
  have wrapped : (Function.update volume.links ino (volume.links ino + 1) ino).toNat =
      (volume.links ino).toNat + 1 := grown
  rw [Function.update_self, full] at wrapped
  exact absurd wrapped (by decide)

/-- A link whose parent is found and can take the name does all of its work or none. -/
theorem nodeExt2fsLink_links {src dest : Path} (ready : LinkReady resolver volume src dest) :
    wp (libext2fs resolver True) (nodeExt2fsLink src dest) (LinksAll resolver volume src dest)
      volume := by
  rw [nodeExt2fsLink, wp_bind]
  apply wp_library .strdup
  intro duplicated volume₁ same
  have nothing : LinksAll resolver volume src dest (-ENOMEM) volume :=
    ⟨fun zero => absurd zero (by decide), fun _ => ⟨rfl, rfl⟩⟩
  rw [show volume₁ = _ from same, wp_ite]
  refine ⟨fun _ => nothing, fun _ => ?_⟩
  rcases split : strrchr dest with _ | ⟨before, name⟩
  · exact nothing
  · obtain ⟨found, addable⟩ := ready before name split
    dsimp only
    rw [wp_bind]
    apply wp_library (.namei (before ++ [slash]))
    intro parent volume₂ allowed
    obtain ⟨same, resolved⟩ := allowed
    rw [same, wp_ite]
    refine ⟨fun bad => absurd (lookupFails_of_resolved resolved bad) found, fun fine => ?_⟩
    · have there := (walk_of_resolved resolved (not_not.mp fine)).1
      exact linkInto_links split there fun ino => addable parent.2 ino there

/-- A link does all of its work or none exactly when the parent of the new name can be found, can take
the name and the count can grow. -/
theorem linksAll_iff (resolver : Resolver) (volume : Volume) (src dest : Path) :
    wp (libext2fs resolver True) (nodeExt2fsLink src dest) (LinksAll resolver volume src dest) volume ↔
      LinkReady resolver volume src dest := by
  apply Iff.intro
  · intro all before name split
    have found : ¬LookupFails (resolver.walk volume (before ++ [slash])) := by
      intro fails
      obtain ⟨answer, resolved, bad⟩ := lookupFails_answer fails
      refine absurd all (not_wp_of_may (may_nodeExt2fsLink split resolved ?_))
      rw [if_pos bad]
      intro links
      -- The call returns zero without any link.
      obtain ⟨_, _, _, ino, _, _, _, _, grown⟩ := links.1 rfl
      exact absurd grown (Nat.ne_of_lt (Nat.lt_succ_self _))
    refine ⟨found, fun parent ino there walked positive => ?_⟩
    rw [there] at found
    have taken (stuck : volume.isDir parent = true →
        volume.fits parent name = false ∧ volume.grows parent = false) : False :=
      absurd all (not_wp_of_may (refutes_stuck split found there walked positive stuck))
    have directory : volume.isDir parent = true := by
      by_contra file
      exact taken fun directory => absurd directory file
    refine ⟨directory, ?_, fun full => ?_⟩
    · by_contra none
      rw [not_or, Bool.not_eq_true, Bool.not_eq_true] at none
      exact taken fun _ => none
    · exact absurd all (not_wp_of_may
        (refutes_wrapped split found there walked positive directory full))
  · exact nodeExt2fsLink_links

/-- A link into a directory that does not exist returns zero: `/a` to `/b/c`. -/
theorem link_missing_parent :
    ((nodeExt2fsLink [slash, 0x61] [slash, 0x62, slash, 0x63]).run reference
      (Volume.holding [[0x61]])).1 = 0 ∧
    ¬LinksAll linkless (Volume.holding [[0x61]]) [slash, 0x61] [slash, 0x62, slash, 0x63]
      ((nodeExt2fsLink [slash, 0x61] [slash, 0x62, slash, 0x63]).run reference
        (Volume.holding [[0x61]])).1
      ((nodeExt2fsLink [slash, 0x61] [slash, 0x62, slash, 0x63]).run reference
        (Volume.holding [[0x61]])).2 := by
  have returned : (nodeExt2fsLink [slash, 0x61] [slash, 0x62, slash, 0x63]).run reference
      (Volume.holding [[0x61]]) = (0, Volume.holding [[0x61]]) := rfl
  rw [returned]
  refine ⟨rfl, fun links => ?_⟩
  obtain ⟨_, _, _, ino, _, _, _, _, grown⟩ := links.1 rfl
  exact absurd grown (Nat.ne_of_lt (Nat.lt_succ_self _))

end NodeExt2fs.Atomic
