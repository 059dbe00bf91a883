import NodeExt2fs.Proof.Trees.Moving

/-!
This file puts the parts of `rename` together.
-/

namespace NodeExt2fs.Trees
open Programs Structures Glue Library
open Program (wp wp_pure wp_bind wp_ite wp_mono)
open Census (Live Shaped Sound Proper Edit Inside Rooted)

variable {resolver : Resolver} {steady exact rooted : Prop} {volume volume' volume'' : Volume}

/-- What a rename needs when its target can go: a proper old name, that the path of its directory
leads to that directory before and after the move, a count that can grow, and, where directories are
to stay below the root, a new place that is not below the moved directory. -/
structure Movable (resolver : Resolver) (rooted : Prop) (volume : Volume) (source : Path)
    (fromName toName : Name) (fromIno fromDir toIno toDir : Ino) : Prop where
  proper : fromName ≠ dot ∧ fromName ≠ dotdot
  holder : resolver.walk volume source = .ok fromDir
  trail : ∀ step ∈ resolver.trail volume source, step ≠ (toDir, toName) ∧
    (toIno ≠ 0 → step.1 ≠ toIno) ∧
    (volume.isDir fromIno = true → fromDir ≠ toDir → step ≠ (fromIno, dotdot))
  room : volume.isDir fromIno = true → fromDir ≠ toDir → toIno = 0 ∨ volume.isDir toIno = false →
    volume.links toDir ≠ 0xffff#16
  apart : rooted → volume.isDir fromIno = true → ¬volume.census.Inside fromIno toDir

theorem lookup_congr {dir : Ino} {name : Name} (isDir : volume'.isDir = volume.isDir)
    (found : volume'.find dir name = volume.find dir name) :
    volume'.lookup dir name = volume.lookup dir name := by
  rw [Volume.lookup, Volume.lookup, isDir, found]

/-- The last component of a path is looked up in the directory of the rest. -/
theorem lookup_of_walk {path before : Path} {name : Name} {dir : Ino}
    (split : strrchr path = some (before, name)) (nonempty : name ≠ [])
    (parent : resolver.walk volume (before ++ [slash]) = .ok dir) :
    resolver.walk volume path = volume.lookup dir name := by
  obtain ⟨joined, clean⟩ := strrchr_eq_some split
  rw [joined, resolver.walk_split volume before name nonempty clean, parent]
  rfl

theorem find_of_missing {dir : Ino} {name : Name}
    (missing : volume.lookup dir name = .error EXT2_ET_FILE_NOT_FOUND) :
    volume.isDir dir = true ∧ volume.find dir name = none := by
  rw [Volume.lookup] at missing
  by_cases directory : volume.isDir dir = true
  · rw [if_pos directory] at missing
    rcases found : volume.find dir name with _ | entry
    · exact ⟨directory, rfl⟩
    · rw [found] at missing
      cases missing
  · rw [if_neg directory] at missing
    exact absurd (Except.error.inj missing) (by decide)

/-- What was not below a directory is not below it with fewer names. -/
theorem Spared.inside {dir ino top other : Ino} {name : Name} (placed : volume.Placed)
    (spared : Spared volume volume' dir name ino) (inside : volume'.census.Inside top other) :
    volume.census.Inside top other := by
  apply inside_mono _ inside
  intro place member _ live
  have before := spared.names place member
  refine ⟨before, (placed.shaped.held place before).2.1, ?_⟩
  have directory := live.2
  show volume.isDir place.2.inode = true
  rw [← spared.isDir]
  exact directory

section Rename

variable {source : Path} {fromName toName : Name} {fromIno fromDir toIno toDir : Ino}
  {old : DirEntry} {before after : List DirEntry} {fileType : Nat}

/-- The path of the source's directory leads there after the new name was added. -/
theorem walk_moved
    (movable : Movable resolver rooted volume source fromName toName fromIno fromDir toIno toDir)
    (spared : Spared volume volume' toDir toName toIno)
    (moving : Moving volume' fromDir toDir fromName old
      { inode := fromIno, name := toName, fileType := fileType })
    (placed' : volume'.Placed)
    (split : volume'.entries toDir = before ++ after)
    (like : (volume'.setEntries toDir (before ++
      { inode := fromIno, name := toName, fileType := fileType } :: after)).Like volume'') :
    resolver.walk (if volume''.isDir fromIno then redirected volume'' fromIno fromDir toDir
      else volume'') source = .ok fromDir := by
  have linked := relisted_insert split like
  have isDir : volume''.isDir = volume.isDir := linked.isDir.trans spared.isDir
  generalize result : (if volume''.isDir fromIno then redirected volume'' fromIno fromDir toDir
    else volume'') = moved
  have mode : moved.mode = volume.mode := by
    rw [← result, ← spared.mode, ← linked.mode]
    cases volume''.isDir fromIno with
    | true => exact redirected_mode fromIno fromDir toDir
    | false => rfl
  have target : moved.target = volume.target := by
    rw [← result, ← spared.target, ← linked.target]
    cases volume''.isDir fromIno with
    | true => rfl
    | false => rfl
  have kinds : moved.isDir = volume.isDir := by
    funext ino
    rw [Volume.isDir, Volume.isDir, mode]
  rw [← movable.holder]
  apply resolver.walk_frame
  intro step member
  obtain ⟨elsewhere, outside, upwards⟩ := movable.trail step member
  have kept : volume''.find step.1 step.2 = volume.find step.1 step.2 := by
    rw [find_linked split like elsewhere]
    apply spared.find step.1 step.2 _ elsewhere
    by_cases none : toIno = 0
    · exact .inr none
    · exact .inl (outside none)
  constructor
  · by_cases directory : volume''.isDir fromIno = true
    · rw [if_pos directory] at result
      by_cases up : step = (fromIno, dotdot)
      · -- Both parents are the same, so the entry is written as it was.
        have same : fromDir = toDir := by
          by_contra differ
          exact upwards (isDir ▸ directory) differ up
        have member' := place_of_entry placed' moving.fromLive
          (List.mem_of_find?_eq_some moving.found)
        have directory' : volume'.isDir old.inode = true := by
          rw [← moving.same, ← linked.isDir]
          exact directory
        have live' : volume'.census.Live old.inode :=
          ⟨(placed'.shaped.held _ member').2.1, directory'⟩
        obtain ⟨_, looked, _⟩ := lookup_special placed' live' (.inr rfl)
        obtain ⟨_, entry, found, named, _⟩ := find_of_lookup looked
        have parent : entry.inode = fromDir :=
          up_inode placed'.shaped member' moving.plainOld directory'
            (place_of_entry placed' live' (List.mem_of_find?_eq_some found)) named
        have found'' : volume''.find fromIno dotdot = some entry := by
          rw [find_linked split like fun equal => moving.plainNew.2 (congrArg Prod.snd equal).symm]
          rw [← moving.same] at found
          exact found
        have stored : moved.find fromIno dotdot = some { entry with inode := toDir } := by
          rw [← result, Volume.find]
          show (Function.update volume''.entries fromIno
            ((DirProc.updateDotdotHelper toDir).iterate (volume''.entries fromIno)).2
              fromIno).find? _ = _
          rw [Function.update_self]
          exact ((iterate_updateDotdot toDir (volume''.entries fromIno)).1 entry found'').2
        rw [up] at kept ⊢
        have known : volume.find fromIno dotdot = some entry := kept.symm.trans found''
        have inUse : volume.isDir fromIno = true := isDir ▸ directory
        rw [lookup_of_find (kinds ▸ inUse) stored, lookup_of_find inUse known, parent, same]
      · apply lookup_congr kinds
        rw [← result, find_redirected up, kept]
    · rw [if_neg directory] at result
      rw [← result] at kinds ⊢
      exact lookup_congr kinds kept
  · intro ino _
    refine ⟨?_, fun _ => by rw [target]⟩
    rw [Volume.isLnk, Volume.isLnk, mode]

/-- What the move leaves when it comes to its end, where the steps in between did not fail. -/
def Moved (volume : Volume) (fromDir toDir : Ino) (fromName : Name) (fromIno : Ino) (toName : Name)
    (volume' : Volume) : Prop :=
  ∃ fileType before after linked, fileType = ext2FileType (volume.mode fromIno) ∧
    volume.entries toDir = before ++ after ∧
    (volume.setEntries toDir (before ++
      { inode := fromIno, name := toName, fileType := fileType } :: after)).Like linked ∧
    Erased (if linked.isDir fromIno then redirected linked fromIno fromDir toDir else linked) fromDir
      fromName volume'

/-- "Get ready to do the move", and the steps after it. -/
theorem renameMove_moved (calm : steady)
    (movable : Movable resolver rooted volume source fromName toName fromIno fromDir toIno toDir)
    (spared : Spared volume volume' toDir toName toIno) (placed' : volume'.Placed)
    (moving : ∀ fileType, Moving volume' fromDir toDir fromName old
      { inode := fromIno, name := toName, fileType := fileType })
    {fromPath : Path} (from_split : strrchr fromPath = some (source, fromName)) :
    wp (libext2fs resolver steady) (renameMove fromIno fromDir toDir toName fromPath)
      (fun ret after => ret ≠ 0 ∧ volume'.Like after ∨
        Moved volume' fromDir toDir fromName fromIno toName after) volume' := by
  have unchanged : volume'.Like volume' := ⟨volume'.fits, volume'.grows, rfl⟩
  rw [renameMove, wp_bind]
  apply wp_library (.readInode fromIno)
  intro answer volume₁ allowed
  rw [allowed.1, wp_ite]
  refine ⟨fun bad => ?_, fun fine => ?_⟩
  · apply wp_mono (translateError_quiet answer.1)
    intro ret after quiet
    rw [quiet.1]
    exact .inl ⟨quiet.2 bad, unchanged⟩
  rw [(allowed.2.1 (not_not.mp fine)).1]
  generalize kind : ext2FileType (volume'.mode fromIno) = fileType
  have moving := moving fileType
  rw [wp_bind]
  apply wp_mono (expanding_link calm toDir toName fromIno fileType)
  intro code volume₂ added
  rw [wp_ite]
  rcases added with ⟨fine, _, before, after, split, like⟩ | ⟨bad, like, _⟩
  · refine ⟨fun bad => absurd fine bad, fun _ => ?_⟩
    have linked := relisted_insert split like
    have walked := walk_moved movable spared moving placed' split like
    rw [wp_bind]
    apply wp_mono (renameDotdot_redirected calm fromIno fromDir toDir)
    intro ret volume₃ outcome
    obtain ⟨zero, redirection⟩ := outcome
    rw [← redirection] at walked
    rw [wp_ite]
    refine ⟨fun bad => absurd zero bad, fun _ => ?_⟩
    apply wp_mono (renameFinish_erased calm fromIno toDir fromPath)
    intro ret' volume₄ removed
    have located : Located resolver volume₃ fromPath fromDir fromName :=
      (located_some from_split).mpr ⟨walked, rfl⟩
    have found : volume₃.isDir fromDir = true ∧ volume₃.find fromDir fromName = some old := by
      have found₂ := (find_linked split like moving.elsewhere).trans moving.found
      have live₂ : volume₂.isDir fromDir = true := by
        rw [linked.isDir]
        exact moving.fromLive.2
      by_cases directory : volume₂.isDir fromIno = true
      · rw [if_pos directory] at redirection
        rw [redirection]
        refine ⟨?_, ?_⟩
        · rw [Volume.isDir, redirected_mode]
          exact live₂
        · rw [find_redirected fun same => movable.proper.2 (congrArg Prod.snd same)]
          exact found₂
      · rw [if_neg directory] at redirection
        rw [redirection]
        exact ⟨live₂, found₂⟩
    rcases removed with ⟨dir, name, located', erased⟩ | ⟨_, missing⟩
    · obtain ⟨there, named⟩ := (located_some from_split).mp located'
      rw [walked] at there
      rw [← Except.ok.inj there, ← named, redirection] at erased
      exact .inr ⟨fileType, before, after, volume₂, kind.symm, split, like, erased⟩
    · have positive : fromDir ≠ 0 := ne_null placed' moving.fromLive.1
      have none := missing fromDir fromName located positive found.1
      rw [found.2] at none
      cases none
  · refine ⟨fun _ => ?_, fun fine => absurd bad fine⟩
    apply wp_mono (translateError_quiet code)
    intro ret after quiet
    rw [quiet.1]
    exact .inl ⟨quiet.2 bad, like⟩

/-- The target's directory has room for another link once the target has gone. -/
theorem Cleared.room (cleared : Cleared volume volume' toDir toName toIno)
    (room : toIno = 0 ∨ volume.isDir toIno = false → volume.links toDir ≠ 0xffff#16) :
    volume'.links toDir ≠ 0xffff#16 := by
  have count := cleared.links
  by_cases gone : toIno ≠ 0 ∧ volume.isDir toIno = true
  · rw [if_pos gone] at count
    intro full
    have top : (volume'.links toDir).toNat + 1 = (volume.links toDir).toNat := count
    have bound := (volume.links toDir).isLt
    rw [full] at top
    have value : (0xffff#16 : BitVec 16).toNat = 65535 := rfl
    omega
  · rw [if_neg gone] at count
    have same : volume'.links toDir = volume.links toDir := BitVec.eq_of_toNat_eq count
    rw [same]
    apply room
    by_cases none : toIno = 0
    · exact .inl none
    · right
      cases kind : volume.isDir toIno with
      | false => rfl
      | true => exact absurd ⟨none, kind⟩ gone

/-- A move keeps the volume well-formed. -/
theorem formed_moved (formed : volume.WellFormed exact rooted)
    (movable : Movable resolver rooted volume source fromName toName fromIno fromDir toIno toDir)
    (cleared : Cleared volume volume' toDir toName toIno) (formed' : volume'.WellFormed exact rooted)
    (moving : ∀ fileType, Moving volume' fromDir toDir fromName old
      { inode := fromIno, name := toName, fileType := fileType })
    (moved : Moved volume' fromDir toDir fromName fromIno toName volume'') :
    volume''.WellFormed exact rooted := by
  obtain ⟨fileType, before, after, linked, _, split, like, erased⟩ := moved
  have moving := moving fileType
  have kinds := (relisted_insert split like).isDir
  have refers : fromIno = old.inode := moving.same
  rw [kinds] at erased
  by_cases directory : volume'.isDir fromIno = true
  · rw [if_pos directory] at erased
    have counted : (volume'.links fromDir).toNat ≠ 0 := by
      rw [show (volume'.links fromDir).toNat = _ from counted_live formed'.sound moving.fromLive]
      exact Nat.pos_iff_ne_zero.mp (references_pos formed'.sound.toShaped moving.fromLive)
    have before : volume.isDir fromIno = true := cleared.spared.isDir ▸ directory
    rw [refers] at erased directory
    obtain ⟨⟨up, rest, names, upName, census⟩, bounded⟩ := moved_directory formed'.placed moving split
      like directory counted (fun differ => cleared.room (movable.room before differ)) erased
    apply formed_edit formed' _ bounded
    rw [census]
    refine Edit.moveDirectory (fromDir, old) (toDir, _) up { up with inode := toDir } rest names
      moving.same directory moving.plainOld ⟨moving.toLive, moving.plainNew, moving.nonempty⟩ upName
      upName rfl fun holds inside => ?_
    apply movable.apart holds before
    rw [refers]
    exact cleared.spared.inside formed.placed inside
  · rw [if_neg directory] at erased
    obtain ⟨⟨rest, names, census⟩, bounded⟩ := moved_file formed'.placed moving split like erased
    apply formed_edit formed' _ bounded
    rw [census]
    exact Edit.move (fromDir, old) _ rest names moving.same
      (refers ▸ Bool.eq_false_iff.mpr directory) ⟨moving.toLive, moving.plainNew, moving.nonempty⟩

theorem renameMove_formed (calm : steady) (formed : volume.WellFormed exact rooted)
    (movable : Movable resolver rooted volume source fromName toName fromIno fromDir toIno toDir)
    (cleared : Cleared volume volume' toDir toName toIno) (formed' : volume'.WellFormed exact rooted)
    (moving : ∀ fileType, Moving volume' fromDir toDir fromName old
      { inode := fromIno, name := toName, fileType := fileType })
    {fromPath : Path} (from_split : strrchr fromPath = some (source, fromName)) :
    wp (libext2fs resolver steady) (renameMove fromIno fromDir toDir toName fromPath)
      (fun _ after => after.WellFormed exact rooted) volume' := by
  apply wp_mono (renameMove_moved calm movable cleared.spared formed'.placed moving from_split)
  intro ret after outcome
  rcases outcome with ⟨_, like⟩ | moved
  · exact formed_like formed' like
  · exact formed_moved formed movable cleared formed' moving moved

end Rename

/-- The inodes that a rename finds: a target of zero is a path that leads nowhere. -/
def Targeted (resolver : Resolver) (volume : Volume) (toPath : Path) (fromIno toIno : Ino) : Prop :=
  toIno = 0 ∧ resolver.walk volume toPath = .error EXT2_ET_FILE_NOT_FOUND ∨
    toIno ≠ 0 ∧ resolver.walk volume toPath = .ok toIno ∧ toIno ≠ fromIno

/-- The old name and the new one, once the target has gone. -/
theorem moving_of_spared (closed : resolver.Closed) (placed : volume.Placed) {fromPath toPath : Path}
    {source target : Path} {fromName toName : Name} {fromIno fromDir toIno toDir : Ino}
    (from_split : strrchr fromPath = some (source, fromName))
    (to_split : strrchr toPath = some (target, toName)) (fromNonempty : fromName ≠ [])
    (toNonempty : toName ≠ []) (walked : resolver.walk volume fromPath = .ok fromIno)
    (from_parent : resolver.walk volume (source ++ [slash]) = .ok fromDir)
    (to_parent : resolver.walk volume (target ++ [slash]) = .ok toDir)
    (targeted : Targeted resolver volume toPath fromIno toIno)
    (plainFrom : fromName ≠ dot ∧ fromName ≠ dotdot)
    (proper : toIno ≠ 0 → Vacant volume toIno → toName ≠ dot ∧ toName ≠ dotdot)
    (gone : toIno ≠ 0 → volume.isDir toDir = true ∧ toDir ≠ toIno ∧
      (volume.isDir toIno = true → Vacant volume toIno))
    (spared : Spared volume volume' toDir toName toIno) :
    ∃ old, ∀ fileType, Moving volume' fromDir toDir fromName old
      { inode := fromIno, name := toName, fileType := fileType } := by
  have fromLooked := lookup_of_walk from_split fromNonempty from_parent
  have toLooked := lookup_of_walk to_split toNonempty to_parent
  rw [walked] at fromLooked
  obtain ⟨fromDirectory, old, found, named, refers⟩ := find_of_lookup fromLooked.symm
  have fromLive : volume.census.Live fromDir :=
    ⟨used_of_walk closed placed (.inl from_parent), fromDirectory⟩
  have plainOld : Plain old := by
    rw [Plain, named]
    exact plainFrom
  have elsewhere : (fromDir, fromName) ≠ (toDir, toName) := by
    intro same
    have sameDir : fromDir = toDir := congrArg Prod.fst same
    have sameName : fromName = toName := congrArg Prod.snd same
    rw [← sameDir, ← sameName, ← fromLooked] at toLooked
    rcases targeted with ⟨_, absent⟩ | ⟨_, there, differ⟩
    · rw [toLooked] at absent
      cases absent
    · rw [toLooked] at there
      exact differ (Except.ok.inj there).symm
  -- The directory of the old name is not the target, which would not be vacant.
  have fromApart (there : toIno ≠ 0) : fromDir ≠ toIno := by
    intro same
    have vacant := (gone there).2.2 (same ▸ fromDirectory)
    rcases vacant.2 old (same ▸ List.mem_of_find?_eq_some found) with own | up
    · exact plainOld.1 own
    · exact plainOld.2 up
  have toUsed := used_of_walk closed placed (.inl to_parent)
  have toState : volume.census.Live toDir ∧ toName ≠ dot ∧ toName ≠ dotdot ∧
      (toIno ≠ 0 → toDir ≠ toIno) := by
    rcases targeted with ⟨none, absent⟩ | ⟨there, walkedTo, _⟩
    · rw [toLooked] at absent
      obtain ⟨directory, fresh⟩ := find_of_missing absent
      have plain := @plain_of_absent volume placed toDir ⟨toUsed, directory⟩
        { inode := fromIno, name := toName, fileType := 0 } fresh
      exact ⟨⟨toUsed, directory⟩, plain.1, plain.2, fun bad => absurd none bad⟩
    · obtain ⟨directory, apart, vacant⟩ := gone there
      rw [toLooked] at walkedTo
      obtain ⟨_, entry, foundTo, namedTo, refersTo⟩ := find_of_lookup walkedTo
      have memberTo := place_of_entry placed ⟨toUsed, directory⟩ (List.mem_of_find?_eq_some foundTo)
      have plain : toName ≠ dot ∧ toName ≠ dotdot := by
        cases kind : volume.isDir toIno with
        | false =>
            rw [← namedTo]
            exact plain_of_file placed.shaped memberTo (refersTo ▸ kind)
        | true => exact proper there (vacant kind)
      exact ⟨⟨toUsed, directory⟩, plain.1, plain.2, fun _ => apart⟩
  obtain ⟨toLive, notDot, notDotdot, toApart⟩ := toState
  have stays {dir : Ino} (live : volume.census.Live dir) (apart : toIno ≠ 0 → dir ≠ toIno) :
      volume'.census.Live dir := by
    refine ⟨?_, ?_⟩
    · show volume'.inUse dir = true
      rw [spared.inUse dir]
      · exact live.1
      · intro same
        have there : toIno ≠ 0 := same ▸ ne_null placed live.1
        exact apart there same
    · show volume'.isDir dir = true
      rw [spared.isDir]
      exact live.2
  refine ⟨old, fun fileType => ⟨stays fromLive fromApart, stays toLive toApart, ?_, plainOld,
    ⟨notDot, notDotdot⟩, toNonempty, refers.symm, elsewhere⟩⟩
  rw [spared.find fromDir fromName _ elsewhere]
  · exact found
  · by_cases none : toIno = 0
    · exact .inr none
    · exact .inl (fromApart none)

theorem nodeExt2fsRename_formed (calm : steady) (closed : resolver.Closed)
    (formed : volume.WellFormed exact rooted) (fromPath toPath : Path)
    (fromNonempty : ∀ before name, strrchr fromPath = some (before, name) → name ≠ [])
    (toNonempty : ∀ before name, strrchr toPath = some (before, name) → name ≠ [])
    (proper : ∀ target toName toIno, strrchr toPath = some (target, toName) →
      resolver.walk volume toPath = .ok toIno → Vacant volume toIno →
      toName ≠ dot ∧ toName ≠ dotdot)
    (movable : ∀ source fromName target toName fromIno fromDir toIno toDir,
      strrchr fromPath = some (source, fromName) → strrchr toPath = some (target, toName) →
      resolver.walk volume fromPath = .ok fromIno →
      resolver.walk volume (source ++ [slash]) = .ok fromDir →
      resolver.walk volume (target ++ [slash]) = .ok toDir →
      Targeted resolver volume toPath fromIno toIno →
      (toIno ≠ 0 → volume.isDir toIno = true → Vacant volume toIno) →
      Movable resolver rooted volume source fromName toName fromIno fromDir toIno toDir) :
    wp (libext2fs resolver steady) (nodeExt2fsRename fromPath toPath)
      (fun _ volume' => volume'.WellFormed exact rooted) volume := by
  apply wp_rename (follows_of_refines (.refl _)) fromPath toPath fun _ => formed
  intro fromIno toIno _ walked missing present
  apply wp_renameBetween (follows_of_refines (.refl _)) fromPath toPath fromIno toIno fun _ => formed
  intro fromDir toDir source fromName target toName from_split to_split from_parent to_parent _ _
  have targeted : Targeted resolver volume toPath fromIno toIno := by
    by_cases none : toIno = 0
    · exact .inl ⟨none, missing none⟩
    · exact .inr ⟨none, present none⟩
  apply wp_mono (renameTarget_cleared calm closed formed to_split to_parent
    (fun there => (present there).1)
    fun there vacant => proper target toName toIno to_split (present there).1 vacant)
  intro ret volume' outcome
  obtain ⟨formed', done⟩ := outcome
  refine ⟨fun _ => formed', fun zero => ?_⟩
  obtain ⟨gone, cleared⟩ := done zero
  have movable := movable source fromName target toName fromIno fromDir toIno toDir from_split to_split
    walked from_parent to_parent targeted fun there => (gone there).2.2
  obtain ⟨old, moving⟩ := moving_of_spared closed formed.placed from_split to_split
    (fromNonempty source fromName from_split) (toNonempty target toName to_split) walked from_parent
    to_parent targeted movable.proper
    (fun there vacant => proper target toName toIno to_split (present there).1 vacant) gone
    cleared.spared
  exact renameMove_formed calm formed movable cleared formed' moving from_split

end NodeExt2fs.Trees
