import NodeExt2fs.Construction.Glue.Calls

/-!
This file translates libext2fs codes to negative errno values.
-/

namespace NodeExt2fs.Glue

/-- The `switch` of `__translate_error`, with its `ret` and `is_err`. -/
def translateCode (err : Errcode) : Int × Bool :=
  if err = EXT2_ET_NO_MEMORY ∨ err = EXT2_ET_TDB_ERR_OOM then (-ENOMEM, false)
  else if err = EXT2_ET_INVALID_ARGUMENT ∨ err = EXT2_ET_LLSEEK_FAILED then (-EINVAL, false)
  else if err = EXT2_ET_NO_DIRECTORY then (-ENOTDIR, false)
  else if err = EXT2_ET_FILE_NOT_FOUND then (-ENOENT, false)
  else if err = EXT2_ET_DIR_NO_SPACE then (-ENOSPC, true)
  else if err = EXT2_ET_TOOSMALL ∨ err = EXT2_ET_BLOCK_ALLOC_FAIL ∨
      err = EXT2_ET_INODE_ALLOC_FAIL ∨ err = EXT2_ET_EA_NO_SPACE then (-ENOSPC, false)
  else if err = EXT2_ET_SYMLINK_LOOP then (-EMLINK, false)
  else if err = EXT2_ET_FILE_TOO_BIG then (-EFBIG, false)
  else if err = EXT2_ET_TDB_ERR_EXISTS ∨ err = EXT2_ET_FILE_EXISTS then (-EEXIST, false)
  else if err = EXT2_ET_MMP_FAILED ∨ err = EXT2_ET_MMP_FSCK_ON then (-EBUSY, false)
  else if err = EXT2_ET_EA_KEY_NOT_FOUND then (-ENODATA, false)
  else if err = EXT2_ET_MAGIC_EXT2_FILE then (-EFAULT, false)
  else if err = EXT2_ET_UNIMPLEMENTED then (-EOPNOTSUPP, false)
  else (Neg.neg EIO, true)

/-- `translate_error`, without the text that it prints on stderr. -/
def translateError (err : Errcode) : Routine Int := do
  if err < EXT2_ET_BASE then
    -- `goto no_translation` keeps the positive code.
    return err
  let (ret, isErr) := translateCode err
  if isErr then
    ext2fsMarkSuperDirty
    let _ ← ext2fsFlush
  return ret

theorem ite_fst_neg {condition : Prop} [Decidable condition] {yes no : Int × Bool}
    (first : yes.1 < 0) (second : no.1 < 0) : (if condition then yes else no).1 < 0 := by
  by_cases chosen : condition
  · rwa [if_pos chosen]
  · rwa [if_neg chosen]

/-- Every translated code is negative. -/
theorem translateCode_neg (err : Errcode) : (translateCode err).1 < 0 := by
  unfold translateCode
  repeat' apply ite_fst_neg
  all_goals decide

end NodeExt2fs.Glue
