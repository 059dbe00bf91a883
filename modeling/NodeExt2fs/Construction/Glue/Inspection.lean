import NodeExt2fs.Construction.Glue.Files

/-!
This file lists directories and reads the fields of open files.
-/

namespace NodeExt2fs.Glue

/-- `strncmp(first, second, count) == 0` of two C strings of which the first has `count` bytes. -/
def equalUpTo (count : Nat) (first second : Name) : Bool := first.take count == second.take count

/-- `copy_filename_to_result`, which also leaves out an empty name. -/
def copyFilenameToResult (arrayId : Nat) (dirent : DirEntry) : Routine Unit := do
  let len := dirent.name.length
  if !equalUpTo len dirent.name dot && !equalUpTo len dirent.name dotdot then
    arrayPushBuffer arrayId dirent.name

/-- The callbacks of one iteration. -/
def copyFilenames (arrayId : Nat) : List DirEntry → Routine Unit
  | [] => return
  | dirent :: rest => do
      copyFilenameToResult arrayId dirent
      copyFilenames arrayId rest

/-- The file that is opened here is not used, and never closed. -/
def nodeExt2fsReaddir (path : Path) (arrayId : Nat) : Routine Int := do
  let ino ← stringToInode path true
  if ino = 0 then
    return -ENOENT
  let (ret, _) ← ext2fsFileOpen ino 0
  if ret ≠ 0 then
    return -ret
  let ret ← ext2fsCheckDirectory ino
  if ret ≠ 0 then
    return -ret
  let (ret, dirents) ← ext2fsDirIterate ino .copyFilenameToResult
  copyFilenames arrayId dirents
  return -ret

/-- The C string at the beginning of the memory. -/
def cString (memory : List UInt8) : Name := memory.takeWhile fun byte => byte ≠ 0

/-- A string without NUL goes on into what lies behind it. -/
theorem cString_append {target : List UInt8} (clean : 0 ∉ target) (rest : List UInt8) :
    cString (target ++ rest) = target ++ cString rest := by
  induction target with
  | nil => rfl
  | cons byte target ih =>
      have nonzero : byte ≠ 0 := fun zero => clean (zero ▸ List.mem_cons_self)
      have kept : cString (byte :: (target ++ rest)) = byte :: cString (target ++ rest) := by
        simp [cString, nonzero]
      rw [List.cons_append, kept, ih fun inside => clean (List.mem_cons_of_mem byte inside)]
      rfl

/-- Zeros end a string. -/
theorem cString_padded {target : List UInt8} (clean : 0 ∉ target) {count : Nat}
    (positive : 0 < count) (behind : List UInt8) :
    cString (target ++ List.replicate count 0 ++ behind) = target := by
  obtain ⟨count, rfl⟩ := Nat.exists_eq_succ_of_ne_zero (Nat.ne_of_gt positive)
  rw [List.append_assoc, cString_append clean, List.replicate_succ]
  simp [cString]

/-- `array_push_buffer(array_id, pathname, strlen(pathname))`, with the bytes at `pathname` and those
that lie behind them in memory. -/
def pushPathname (arrayId : Nat) (pathname behind : List UInt8) : Routine Unit :=
  arrayPushBuffer arrayId (cString (pathname ++ behind))

/-- The memory behind the inode, or behind the buffer, is given. -/
def nodeExt2fsReadlink (path : Path) (arrayId : Nat) (behind : List UInt8) : Routine Int := do
  let ino ← stringToInode path false
  if ino = 0 then
    return -ENOENT
  let (ret, ei) ← ext2fsReadInode ino
  if ret ≠ 0 then
    return -ret
  if !linuxSIslnk ei.iMode then
    return -EINVAL
  if ← ext2fsIsFastSymlink ei then
    pushPathname arrayId ei.iBlock behind
    return 0
  else if ei.iFlags &&& EXT4_INLINE_DATA_FL ≠ 0#32 then
    -- The buffer has `i_size` bytes, and no place for a NUL.
    let ret ← ext2fsGetMem ei.iSize
    if ret ≠ 0 then
      return -ret
    let (ret, buffer) ← ext2fsInlineDataGet ino ei
    if ret ≠ 0 then
      ext2fsFreeMem
      return -ret
    pushPathname arrayId buffer behind
    ext2fsFreeMem
    return 0
  else
    let (ret, blk) ← ext2fsBmap ino ei 0
    if ret ≠ 0 then
      return -ret
    let blocksize ← loadBlocksize
    let ret ← ext2fsGetMem blocksize
    if ret ≠ 0 then
      return -ret
    let (ret, buffer) ← ioChannelReadBlk blk
    if ret ≠ 0 then
      ext2fsFreeMem
      return -ret
    pushPathname arrayId buffer behind
    ext2fsFreeMem
    return 0

/-- The nearest `double` to an unsigned number, with ties to the even significand of 53 bits. -/
def toDouble (value : Nat) : Nat :=
  let unit := 2 ^ (value.log2 - 52)
  let quotient := value / unit
  let rest := value % unit
  if unit < 2 * rest ∨ (2 * rest = unit ∧ quotient % 2 = 1) then (quotient + 1) * unit
  else quotient * unit

def getUInt64Number (hi lo : BitVec 32) : Int :=
  toDouble ((hi.setWidth 64 <<< 32) ||| lo.setWidth 64).toNat

/-- The accessors return a C `int`. -/
def nodeExt2fsStatIMode (file : Ext2File) : Int := (file.inode.iMode.setWidth 32).toInt
def nodeExt2fsStatILinksCount (file : Ext2File) : Int := (file.inode.iLinksCount.setWidth 32).toInt
def nodeExt2fsStatIUid (file : Ext2File) : Int := (file.inode.iUid.setWidth 32).toInt
def nodeExt2fsStatIGid (file : Ext2File) : Int := (file.inode.iGid.setWidth 32).toInt
def nodeExt2fsStatISize (file : Ext2File) : Int :=
  getUInt64Number file.inode.iSizeHigh file.inode.iSize
def nodeExt2fsStatIno (file : Ext2File) : Int := (BitVec.ofNat 32 file.ino).toInt
def nodeExt2fsStatIBlocks (file : Ext2File) : Int := file.inode.iBlocks.toInt
def nodeExt2fsStatIAtime (file : Ext2File) : Int := file.inode.iAtime.toInt
def nodeExt2fsStatIMtime (file : Ext2File) : Int := file.inode.iMtime.toInt
def nodeExt2fsStatICtime (file : Ext2File) : Int := file.inode.iCtime.toInt

/-- The accessors by the names that `lib/binding.js` gives them. -/
inductive InodeStat where
  | ino | iMode | iLinksCount | iUid | iGid | iSize | iBlocks | iAtime | iMtime | iCtime | blocksize
  deriving DecidableEq

def InodeStat.name : InodeStat → String
  | .ino => "node_ext2fs_stat_ino"
  | .iMode => "node_ext2fs_stat_i_mode"
  | .iLinksCount => "node_ext2fs_stat_i_links_count"
  | .iUid => "node_ext2fs_stat_i_uid"
  | .iGid => "node_ext2fs_stat_i_gid"
  | .iSize => "node_ext2fs_stat_i_size"
  | .iBlocks => "node_ext2fs_stat_i_blocks"
  | .iAtime => "node_ext2fs_stat_i_atime"
  | .iMtime => "node_ext2fs_stat_i_mtime"
  | .iCtime => "node_ext2fs_stat_i_ctime"
  | .blocksize => "node_ext2fs_stat_blocksize"

/-- The accessor of a field, from the fields of the open file and the block size. -/
def InodeStat.read (file : Ext2File) (blocksize : BitVec 32) : InodeStat → Int
  | .ino => nodeExt2fsStatIno file
  | .iMode => nodeExt2fsStatIMode file
  | .iLinksCount => nodeExt2fsStatILinksCount file
  | .iUid => nodeExt2fsStatIUid file
  | .iGid => nodeExt2fsStatIGid file
  | .iSize => nodeExt2fsStatISize file
  | .iBlocks => nodeExt2fsStatIBlocks file
  | .iAtime => nodeExt2fsStatIAtime file
  | .iMtime => nodeExt2fsStatIMtime file
  | .iCtime => nodeExt2fsStatICtime file
  | .blocksize => blocksize.toInt

/-- The C function of an accessor, which reads memory only. -/
def InodeStat.routine (field : InodeStat) (file : Ptr) : Routine Int := do
  let opened ← loadFile file
  let blocksize ← loadBlocksize
  return field.read opened blocksize

end NodeExt2fs.Glue
