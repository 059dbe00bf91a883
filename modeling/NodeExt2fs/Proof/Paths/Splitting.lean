import NodeExt2fs.Construction.Js.Paths

/-!
This file proves that a path which was passed on can be split at its last slash.
-/

namespace NodeExt2fs.Paths
open Programs Structures Glue Js

theorem hasNull_iff (path : PathValue) : path.hasNull = true ↔ 0 ∈ path.bytes := by
  cases path with
  | string units =>
      rw [PathValue.hasNull, decide_eq_true_iff, PathValue.bytes, zero_mem_encodeUtf8_iff,
        null_mem_decodeUtf16_iff]
  | buffer bytes =>
      rw [PathValue.hasNull, decide_eq_true_iff, PathValue.bytes, zero_mem_decodeUtf8_iff]

/-- The loop goes back over the slashes at the end. -/
theorem take_stripEnd (buf : List UInt8) {last : Nat} (inside : last ≤ buf.length) :
    buf.take (stripEnd buf last + 1).toNat = rstripSlashes (buf.take last) := by
  induction last with
  | zero => rfl
  | succ last ih =>
      have here : last < buf.length := inside
      have found : buf[last]? = some buf[last] := List.getElem?_eq_getElem here
      rw [stripEnd, List.take_succ_eq_append_getElem here, rstripSlashes]
      by_cases same : buf[last] = slash
      · rw [found, if_pos (congrArg some same), List.rdropWhile_concat_pos _ _ _ (by simp [same])]
        exact ih (Nat.le_of_succ_le inside)
      · rw [found, if_neg (fun equal => same (Option.some.inj equal)),
          List.rdropWhile_concat_neg _ _ _ (by simp [same]),
          ← List.take_succ_eq_append_getElem here]
        congr 1

theorem rstripSlashesBuffer_eq (buf : List UInt8) : rstripSlashesBuffer buf = rstripSlashes buf := by
  rw [rstripSlashesBuffer, take_stripEnd buf (le_refl _), List.take_length]

/-- The string is the bytes without the slashes at their end. -/
structure Stripped (bytes string : List UInt8) : Prop where
  rest : ∃ count, bytes = string ++ List.replicate count slash
  last : string.getLast? ≠ some slash

theorem stripped_rstripSlashes (bytes : List UInt8) : Stripped bytes (rstripSlashes bytes) := by
  constructor
  · have split := bytes.rdropWhile_append_rtakeWhile (p := fun byte => decide (byte = slash))
    refine ⟨(bytes.rtakeWhile fun byte => byte = slash).length, ?_⟩
    have slashes : (bytes.rtakeWhile fun byte => byte = slash) =
        List.replicate (bytes.rtakeWhile fun byte => byte = slash).length slash := by
      apply List.eq_replicate_of_mem
      intro byte member
      have mark := List.mem_rtakeWhile_imp member
      exact of_decide_eq_true mark
    rw [← slashes]
    exact split.symm
  · intro ends
    obtain ⟨front, joined⟩ := List.getLast?_eq_some_iff.mp ends
    have nonempty : rstripSlashes bytes ≠ [] := by
      rw [joined]
      simp
    apply List.rdropWhile_last_not (fun byte => decide (byte = slash)) bytes nonempty
    apply decide_eq_true
    change (rstripSlashes bytes).getLast nonempty = slash
    simp only [joined, List.getLast_append_singleton]

/-- The buffer holds the stripped path and its terminator. -/
theorem usePath_bytes (useBuffer : (length : Nat) → Vector UInt8 length) (path : PathValue) :
    path.usePath useBuffer = (usePath path.bytes).map fun string => string ++ [0] := by
  by_cases null : path.hasNull = true
  · rw [PathValue.usePath, if_pos null, usePath, if_pos ((hasNull_iff path).mp null)]
    rfl
  · rw [PathValue.usePath, if_neg null, usePath, if_neg fun zero => null ((hasNull_iff path).mpr zero),
      rstripSlashesBuffer_eq, Option.map_some]
    apply congrArg some
    generalize rstripSlashes path.bytes = string
    have size : (useBuffer (string.length + 1)).toList.length = string.length + 1 :=
      Vector.length_toList
    have behind : ((useBuffer (string.length + 1)).toList.drop string.length).length = 1 := by
      rw [List.length_drop, size]
      omega
    obtain ⟨byte, single⟩ := List.length_eq_one_iff.mp behind
    rw [overwrite, List.take_zero, List.nil_append, Nat.zero_add, single,
      List.set_append_right _ _ (le_refl _), Nat.sub_self]
    rfl

theorem usePath_eq_some {useBuffer : (length : Nat) → Vector UInt8 length} {path : PathValue}
    {memory : List UInt8} (accepted : path.usePath useBuffer = some memory) :
    0 ∉ path.bytes ∧ memory = rstripSlashes path.bytes ++ [0] := by
  rw [usePath_bytes, usePath] at accepted
  by_cases zero : 0 ∈ path.bytes
  · rw [if_pos zero] at accepted
    cases accepted
  · rw [if_neg zero] at accepted
    exact ⟨zero, (Option.some.inj accepted).symm⟩

/-- The name behind the last slash of a stripped path is not empty. -/
theorem name_of_stripped {bytes string before : List UInt8} {name : Name}
    (stripped : Stripped bytes string) (split : strrchr string = some (before, name)) : name ≠ [] := by
  intro empty
  apply stripped.last
  rw [(strrchr_eq_some split).1, empty]
  rw [List.getLast?_append]
  rfl

/-- A C string that was written by `usePath` is the stripped path, it splits into its parent and a name
when it has a slash, and no function takes the branch for a missing name. -/
theorem usePath_splits (useBuffer : (length : Nat) → Vector UInt8 length) (path : PathValue)
    (memory behind : List UInt8) (accepted : path.usePath useBuffer = some memory) :
    memory = cString (memory ++ behind) ++ [0] ∧ Stripped path.bytes (cString (memory ++ behind)) ∧
      (slash ∈ cString (memory ++ behind) → ∃ parent name,
        parentPath (cString (memory ++ behind)) = some parent ∧
          getFilename (cString (memory ++ behind)) = some name ∧ name ≠ [] ∧ slash ∉ name ∧
          parent ++ name = cString (memory ++ behind)) ∧
      (∀ never mode, createFileOr never (cString (memory ++ behind)) mode =
        createFile (cString (memory ++ behind)) mode) ∧
      ∀ never mode, nodeExt2fsMkdirOr never (cString (memory ++ behind)) mode =
        nodeExt2fsMkdir (cString (memory ++ behind)) mode := by
  obtain ⟨clean, rfl⟩ := usePath_eq_some accepted
  have stripped := stripped_rstripSlashes path.bytes
  have front : 0 ∉ rstripSlashes path.bytes := by
    obtain ⟨count, joined⟩ := stripped.rest
    intro zero
    apply clean
    rw [joined]
    exact List.mem_append_left _ zero
  have ended : cString (rstripSlashes path.bytes ++ [0] ++ behind) = rstripSlashes path.bytes :=
    cString_padded front Nat.one_pos behind
  rw [ended]
  generalize rstripSlashes path.bytes = string at stripped
  have splits (slashed : slash ∈ string) : ∃ parent name, parentPath string = some parent ∧
      getFilename string = some name ∧ name ≠ [] ∧ slash ∉ name ∧ parent ++ name = string := by
    cases split : strrchr string with
    | none => exact absurd slashed (strrchr_eq_none_iff.mp split)
    | some parts =>
        obtain ⟨before, name⟩ := parts
        obtain ⟨joined, single⟩ := strrchr_eq_some split
        have nonempty := name_of_stripped stripped split
        refine ⟨before ++ [slash], name, parentPath_split split, ?_, nonempty, single, ?_⟩
        · rw [getFilename_split split, if_neg nonempty]
        · rw [joined, List.append_assoc]
          rfl
  have named (slashed : slash ∈ string) : getFilename string ≠ none := by
    obtain ⟨_, name, _, found, _⟩ := splits slashed
    rw [found]
    exact Option.some_ne_none name
  exact ⟨rfl, stripped, splits, createFileOr_dead named, nodeExt2fsMkdirOr_dead named⟩

/-- The path "/a/" as a string, in memory that held other bytes. -/
theorem usePath_splits_slashed : Stripped [0x2f, 0x61, 0x2f] [0x2f, 0x61] ∧
    ∃ parent name, parentPath [0x2f, 0x61] = some parent ∧ getFilename [0x2f, 0x61] = some name ∧
      name ≠ [] ∧ slash ∉ name ∧ parent ++ name = [0x2f, 0x61] := by
  have splits := usePath_splits (fun length => Vector.replicate length 9)
    (.string [0x2f, 0x61, 0x2f]) [0x2f, 0x61, 0] [9] (by decide)
  exact ⟨splits.2.1, splits.2.2.1 (by decide)⟩

end NodeExt2fs.Paths
