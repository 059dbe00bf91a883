import NodeExt2fs.Construction.Js.Listing
import NodeExt2fs.Construction.Library.Listing
import NodeExt2fs.Construction.Library.Reference
import NodeExt2fs.Proof.Library.Pushing

/-!
This file compares what `readdir` returns with the entries of the directory.
-/

namespace NodeExt2fs.Listing
open Programs Structures Glue Js Library
open Program (wp wp_pure wp_bind wp_ite wp_mono)

section Comparing

/-- A comparison that stops at the end of the name finds what the literal begins with. -/
theorem strncmp_literal {name word : Name} (clean : 0 ∉ name) (behind : List UInt8) :
    strncmp name.length (name ++ behind) (literal word) = 0 ↔ name <+: word := by
  induction name generalizing word with
  | nil => exact iff_of_true rfl (List.nil_prefix)
  | cons byte name ih =>
      have nonzero : byte ≠ 0 := fun zero => clean (zero ▸ List.mem_cons_self)
      have cleaner : 0 ∉ name := fun inside => clean (List.mem_cons_of_mem byte inside)
      have apart {other : UInt8} (differ : byte ≠ other) :
          ((byte.toNat : Int) - other.toNat ≠ 0) := by
        intro same
        apply differ
        apply UInt8.toNat_inj.mp
        omega
      cases word with
      | nil =>
          have step : strncmp (byte :: name).length (byte :: name ++ behind) (literal []) =
              byte.toNat - (0 : UInt8).toNat := by
            rw [List.length_cons, List.cons_append, literal, List.nil_append, strncmp, if_pos nonzero]
          rw [step]
          exact iff_of_false (apart nonzero) (by simp)
      | cons other word =>
          have step : strncmp (byte :: name).length (byte :: name ++ behind) (literal (other :: word)) =
              if byte ≠ other then (byte.toNat : Int) - other.toNat
              else strncmp name.length (name ++ behind) (literal word) := by
            rw [List.length_cons, List.cons_append, literal, List.cons_append, strncmp,
              if_neg nonzero]
            rfl
          rw [step, List.cons_prefix_cons]
          by_cases differ : byte ≠ other
          · rw [if_pos differ]
            exact iff_of_false (apart differ) fun both => differ both.1
          · rw [if_neg differ, ih cleaner]
            exact (and_iff_right (not_not.mp differ)).symm

/-- A nonempty name that one of the literals begins with is one of the literals. -/
theorem prefix_dots_iff {name : Name} (nonempty : name ≠ []) :
    ¬name <+: dot ∧ ¬name <+: dotdot ↔ name ≠ dot ∧ name ≠ dotdot := by
  rw [← not_or, ← not_or, not_iff_not]
  apply Iff.intro
  · intro either
    have shorter : name <+: dotdot := either.elim (fun first => first.trans (by decide)) id
    have listed := (List.mem_inits name dotdot).mpr shorter
    have cases : name ∈ [[], dot, dotdot] := listed
    simpa [nonempty] using cases
  · rintro (same | same)
    · exact .inl (same ▸ List.prefix_rfl)
    · exact .inr (same ▸ List.prefix_rfl)

/-- The name of a live entry. -/
def Named (entry : DirEntry) : Prop := entry.name ≠ [] ∧ 0 ∉ entry.name

instance (entry : DirEntry) : Decidable (Named entry) := inferInstanceAs (Decidable (_ ∧ _))

/-- Only the names for the directory and for its parent are left out. -/
theorem copyFilenameFrom_eq {entry : DirEntry} (named : Named entry) (arrayId : Nat)
    (behind : List UInt8) :
    copyFilenameFrom arrayId entry.name.length (entry.name ++ behind) =
      if entry.name ≠ dot ∧ entry.name ≠ dotdot then arrayPushBuffer arrayId entry.name
      else return := by
  obtain ⟨nonempty, clean⟩ := named
  have kept : strncmp entry.name.length (entry.name ++ behind) (literal dot) ≠ 0 ∧
      strncmp entry.name.length (entry.name ++ behind) (literal dotdot) ≠ 0 ↔
        entry.name ≠ dot ∧ entry.name ≠ dotdot := by
    rw [ne_eq, ne_eq, strncmp_literal clean, strncmp_literal clean, prefix_dots_iff nonempty]
  rw [copyFilenameFrom, List.take_left]
  exact if_congr kept rfl rfl

end Comparing

section Pushing

variable {arrayId : Nat} {array : List Name} {entries : List DirEntry}

theorem namesWithin_cons (entry : DirEntry) (entries : List DirEntry) :
    namesWithin (entry :: entries) =
      if entry.name ≠ dot ∧ entry.name ≠ dotdot then entry.name :: namesWithin entries
      else namesWithin entries := by
  rw [namesWithin, List.map_cons, List.filter_cons]
  simp only [decide_eq_true_eq]
  rfl

/-- The callbacks push the other names, each of them once. -/
theorem pushing_copyFilenamesFrom (named : ∀ entry ∈ entries, Named entry)
    (behind : DirEntry → List UInt8) :
    pushing arrayId array (copyFilenamesFrom arrayId behind entries) =
      pure ((), array ++ namesWithin entries) := by
  induction entries generalizing array with
  | nil =>
      rw [show namesWithin [] = [] from rfl, List.append_nil]
      rfl
  | cons entry entries ih =>
      have rest := fun array => @ih array fun other listed => named other (List.mem_cons_of_mem entry listed)
      rw [copyFilenamesFrom, copyFilenameFrom_eq (named entry List.mem_cons_self), pushing_bind,
        namesWithin_cons]
      by_cases kept : entry.name ≠ dot ∧ entry.name ≠ dotdot
      · have pushed : pushing arrayId array (arrayPushBuffer arrayId entry.name) =
            pure ((), if arrayId = arrayId then array ++ [entry.name] else array) := rfl
        rw [if_pos kept, if_pos kept, pushed, if_pos rfl, pure_bind, rest, List.append_assoc]
        rfl
      · rw [if_neg kept, if_neg kept]
        exact rest array

/-- Whatever the names are, the callbacks only push. -/
theorem pushing_copyFilenamesFrom_some (arrayId : Nat) (array : List Name) (entries : List DirEntry)
    (behind : DirEntry → List UInt8) :
    ∃ array', pushing arrayId array (copyFilenamesFrom arrayId behind entries) =
      pure ((), array') := by
  induction entries generalizing array with
  | nil => exact ⟨array, rfl⟩
  | cons entry entries ih =>
      have single : ∃ array', pushing arrayId array (copyFilenameFrom arrayId entry.name.length
          (entry.name ++ behind entry)) = pure ((), array') := by
        rw [copyFilenameFrom, apply_ite (pushing arrayId array)]
        split
        · exact ⟨_, rfl⟩
        · exact ⟨array, rfl⟩
      obtain ⟨array', pushed⟩ := single
      rw [copyFilenamesFrom, pushing_bind, pushed, pure_bind]
      exact ih array'

end Pushing

section Library

variable {path : Path} {ino : Ino} {entries : List DirEntry} {steady : Prop}

/-- A call whose status ends the routine unless it is zero. -/
theorem wp_listing {A : Type} {arrayId : Nat} {array : List Name} (call : Call)
    (other : ∀ number value, call ≠ .arrayPushBuffer number value) {next : Answer call → Routine A}
    {post : A × List Name → Unit → Prop}
    (rest : ∀ answer, (directoryListing path ino entries steady).allows () call answer () →
      wp (directoryListing path ino entries steady) (pushing arrayId array (next answer)) post ()) :
    wp (directoryListing path ino entries steady) (pushing arrayId array (call.perform >>= next)) post
      () :=
  wp_pushing_call call other trivial fun answer _ allowed => rest answer allowed

/-- The iteration sees all entries. -/
theorem iterate_copyFilenameToResult (entries : List DirEntry) :
    DirProc.copyFilenameToResult.iterate entries = (entries, entries) := by
  induction entries with
  | nil => rfl
  | cons entry rest ih =>
      unfold DirProc.iterate
      rw [ih]
      rfl

/-- The routine fails with some status, or leaves the names in the array. -/
theorem nodeExt2fsReaddirFrom_lists (positive : ino ≠ 0) (named : ∀ entry ∈ entries, Named entry)
    (arrayId : Nat) (behind : DirEntry → List UInt8) :
    wp (directoryListing path ino entries steady)
      (pushing arrayId [] (nodeExt2fsReaddirFrom path arrayId behind))
      (fun result _ => result.1 < 0 ∧ ¬steady ∨ result = (0, namesWithin entries)) () := by
  have found : stringToInode path true = (Call.nameiFollow path).perform >>= fun answer =>
      if answer.1 ≠ 0 then pure 0 else pure answer.2 := rfl
  rw [nodeExt2fsReaddirFrom, found, bind_assoc]
  apply wp_listing (.nameiFollow path) nofun
  intro answer located
  by_cases missing : answer.1 ≠ 0
  · rw [if_pos missing, pure_bind, if_pos rfl]
    exact .inl ⟨by decide, fun works => missing (located.1 works)⟩
  rw [if_neg missing, pure_bind, located.2 rfl (not_not.mp missing), if_neg positive]
  apply wp_listing (.fileOpen ino 0) nofun
  intro opened outcome
  dsimp only
  rw [wp_pushing_ite]
  refine ⟨fun bad => .inl ⟨neg_errcode_lt_zero.mpr bad, fun works => bad (outcome.1 works)⟩, fun _ => ?_⟩
  apply wp_listing (.checkDirectory ino) nofun
  intro code outcome
  rw [wp_pushing_ite]
  refine ⟨fun bad => .inl ⟨neg_errcode_lt_zero.mpr bad, fun works => bad (outcome.1 works)⟩, fun _ => ?_⟩
  apply wp_listing (.dirIterate ino .copyFilenameToResult) nofun
  intro iterated outcome
  by_cases fine : iterated.1 = 0
  · have visited : iterated.2 = entries := by
      rw [outcome.2 rfl fine, iterate_copyFilenameToResult]
    rw [pushing_bind, visited, pushing_copyFilenamesFrom named, pure_bind, fine]
    exact .inr rfl
  · obtain ⟨array, pushed⟩ := pushing_copyFilenamesFrom_some arrayId [] iterated.2 behind
    rw [pushing_bind, pushed, pure_bind]
    exact .inl ⟨neg_errcode_lt_zero.mpr fine, fun works => fine (outcome.1 works)⟩

/-- The encoding of the caller is overridden. -/
theorem chosen_encoding {options : OptionsArgument} {chosen : Options}
    (accepted : getOptions options { encoding := some utf8, mode := none, flag := none } = .ok chosen) :
    chosen.encoding = some utf8 := by
  cases options with
  | missing =>
      cases accepted
      rfl
  | text encoding =>
      cases encoding with
      | buffer =>
          cases accepted
          rfl
      | named name isEncoding =>
          cases isEncoding with
          | false => cases accepted
          | true =>
              cases accepted
              rfl
  | object options =>
      obtain ⟨checked, kept⟩ : ∃ checked : assertEncoding options.encoding = .ok (),
          options.spread { encoding := some utf8, mode := none, flag := none } = chosen := by
        rw [getOptions] at accepted
        cases checked : assertEncoding options.encoding with
        | ok _ =>
            rw [checked] at accepted
            exact ⟨rfl, Except.ok.inj accepted⟩
        | error _ =>
            rw [checked] at accepted
            cases accepted
      rw [← kept]
      rfl
  | other type => cases accepted

/-- Whatever options are accepted, a promise that resolves has the texts of the names. -/
theorem readdirNames_lists {raw : List UInt8} (usable : usePath raw = some path) (positive : ino ≠ 0)
    (named : ∀ entry ∈ entries, Named entry) {options : OptionsArgument} {chosen : Options}
    (accepted : getOptions options { encoding := some utf8, mode := none, flag := none } = .ok chosen)
    (arrayId : Nat) (behind : DirEntry → List UInt8) (locals : OpenFiles) :
    Async.wp (directoryListing path ino entries steady) (readdirNames raw options arrayId behind)
      (fun result _ _ => (∃ failure, result = .error failure) ∧ ¬steady ∨
        result = .ok ((namesWithin entries).map fun name => .text (decodeUtf8 name))) locals () := by
  have texts : targetOf chosen.encoding = fun name => .text (decodeUtf8 name) := by
    funext name
    rw [chosen_encoding accepted]
    exact if_neg (by decide)
  rw [readdirNames, Async.wp_bind, Async.wp_lift, wp_pure, accepted, Async.andThen_ok, Async.wp_bind,
    acceptPath, usable, Async.wp_lift, wp_pure, Async.andThen_ok, Async.wp_lift, wp_bind]
  apply wp_mono (nodeExt2fsReaddirFrom_lists positive named arrayId behind)
  intro result _ outcome
  rw [wp_pure, readdirResult, ccallThrowAsync, texts]
  rcases outcome with ⟨negative, unsteady⟩ | same
  · rw [if_pos negative]
    exact .inl ⟨⟨_, rfl⟩, unsteady⟩
  · rw [same, if_neg (Int.lt_irrefl 0)]
    exact .inr rfl

end Library

/-- By every path to the directory, the C function pushes exactly its names in their order, and
`readdir` resolves with exactly these, for all options that are accepted. They fail only where a call of
the library has failed. -/
def ReturnsNames (entries : List DirEntry) : Prop :=
  ∀ (raw : List UInt8) (path : Path) (ino : Ino) (options : OptionsArgument) (chosen : Options)
    (steady : Prop) (arrayId : Nat) (behind : DirEntry → List UInt8) (locals : OpenFiles),
    usePath raw = some path → ino ≠ 0 →
    getOptions options { encoding := some utf8, mode := none, flag := none } = .ok chosen →
    wp (directoryListing path ino entries steady)
      (pushing arrayId [] (nodeExt2fsReaddirFrom path arrayId behind))
      (fun result _ => result.1 < 0 ∧ ¬steady ∨ result = (0, namesWithin entries)) () ∧
    Async.wp (directoryListing path ino entries steady) (readdirNames raw options arrayId behind)
      (fun result _ _ => (∃ failure, result = .error failure) ∧ ¬steady ∨
        ∃ values, result = .ok values ∧ values.map LinkTarget.bytes = namesWithin entries) locals ()

/-- A library on which every path leads to the directory. -/
def listing (ino : Ino) (entries : List DirEntry) : Handler Call Answer Unit := fun call _ =>
  match call with
  | .namei _ | .nameiFollow _ => ((0, ino), ())
  | .dirIterate _ proc => ((0, (proc.iterate entries).1), ())
  | .link _ _ _ _ | .unlink _ _ | .mkdir _ _ _ | .symlink _ _ _ | .expandDir _ | .checkDirectory _ =>
      ((0 : Errcode), ())
  | call => ((reference call (Volume.holding [])).1, ())

theorem listing_honours (path : Path) (ino : Ino) (entries : List DirEntry) :
    (directoryListing path ino entries True).Honoured (listing ino entries) id := by
  intro call state
  cases call with
  | nameiFollow target => exact ⟨fun _ => rfl, fun _ _ => rfl⟩
  | dirIterate dir proc => exact ⟨fun _ => rfl, fun _ _ => rfl⟩
  | _ => exact ⟨fun _ => rfl, trivial⟩

/-- `readdir` returns only texts, so a name that it returns is the encoding of one. -/
theorem encoded_of_returns {entries : List DirEntry} (named : ∀ entry ∈ entries, Named entry)
    (returns : ReturnsNames entries) {name : Name} (member : name ∈ namesWithin entries) :
    encodeUtf8 (decodeUtf8 name) = name := by
  have usable : usePath [slash, 0x61] = some [slash, 0x61] := by decide
  have honoured := listing_honours [slash, 0x61] 12 entries
  have returned := Async.run_of_wp honoured (returns [slash, 0x61] [slash, 0x61] 12 .missing _ True 0
    (fun _ => []) InsertionMap.empty usable (by decide) rfl).2
  have listed := Async.run_of_wp honoured (readdirNames_lists usable (by decide) named
    (show getOptions .missing _ = .ok _ from rfl) 0 (fun _ => []) InsertionMap.empty)
  rcases listed with ⟨_, unsteady⟩ | texts
  · exact absurd trivial unsteady
  rcases returned with ⟨_, unsteady⟩ | ⟨values, resolved, bytes⟩
  · exact absurd trivial unsteady
  have same : values = (namesWithin entries).map fun name => .text (decodeUtf8 name) :=
    Except.ok.inj (resolved.symm.trans texts)
  rw [same, List.map_map] at bytes
  have kept : (namesWithin entries).map (fun name => encodeUtf8 (decodeUtf8 name)) =
      (namesWithin entries).map id := by
    rw [List.map_id]
    exact bytes
  exact List.map_inj_left.mp kept name member

/-- `readdir` returns exactly the names of the live entries other than `.` and `..`, if and only if
each of these is a text. -/
theorem returns_names_iff (entries : List DirEntry) (named : ∀ entry ∈ entries, Named entry) :
    ReturnsNames entries ↔ ∀ name ∈ namesWithin entries, ∃ text, encodeUtf8 text = name := by
  apply Iff.intro
  · exact fun returns name member => ⟨_, encoded_of_returns named returns member⟩
  · intro encoded raw path ino options chosen steady arrayId behind locals usable positive accepted
    refine ⟨nodeExt2fsReaddirFrom_lists positive named arrayId behind, ?_⟩
    apply Async.wp_mono (readdirNames_lists usable positive named accepted arrayId behind locals)
    intro result _ _ outcome
    refine outcome.imp_right fun texts => ⟨_, texts, ?_⟩
    rw [List.map_map]
    calc (namesWithin entries).map (LinkTarget.bytes ∘ fun name => .text (decodeUtf8 name))
        = (namesWithin entries).map id := by
          apply List.map_congr_left
          intro name member
          obtain ⟨text, same⟩ := encoded name member
          show encodeUtf8 (decodeUtf8 name) = name
          rw [← same, decodeUtf8_encodeUtf8]
      _ = namesWithin entries := List.map_id _

/-- Names that begin with a period, one of them with two. -/
abbrev dottedEntries : List DirEntry :=
  [⟨2, dot, 2⟩, ⟨12, [period, period, period], 1⟩, ⟨2, dotdot, 2⟩, ⟨13, [period, 0x61], 1⟩,
    ⟨14, [period, period, 0x62], 1⟩]

/-- Of these, only the names for the directory and for its parent are left out. -/
theorem returns_names_dotted :
    ReturnsNames dottedEntries ∧ namesWithin dottedEntries =
      [[period, period, period], [period, 0x61], [period, period, 0x62]] := by
  have names : namesWithin dottedEntries =
      [['.', '.', '.'], ['.', 'a'], ['.', '.', 'b']].map encodeUtf8 := by decide
  refine ⟨(returns_names_iff dottedEntries (by decide)).mpr fun name member => ?_, by decide⟩
  rw [names] at member
  obtain ⟨text, _, same⟩ := List.mem_map.mp member
  exact ⟨text, same⟩

/-- Two names that are no texts are decoded to one that no entry has. -/
theorem names_garbled :
    ¬∀ entries : List DirEntry, (∀ entry ∈ entries, Named entry) → ReturnsNames entries := by
  intro returns
  have named : ∀ entry ∈ [(⟨12, [0xff], 1⟩ : DirEntry), ⟨13, [0xfe], 1⟩], Named entry := by decide
  have first := encoded_of_returns named (returns _ named) (show [0xff] ∈ _ by decide)
  exact absurd first (by decide)

end NodeExt2fs.Listing
