import Mathlib.Data.BitVec

/-!
This file lists the numbers of the C interface: error codes, open flags and mode bits.
-/

namespace NodeExt2fs.Glue

/-- A libext2fs status, zero or positive: an `EXT2_ET_*` value, or an errno below `EXT2_ET_BASE`. -/
abbrev Errcode := Nat

/-- A code that is negated is negative unless it is zero. -/
theorem neg_errcode_lt_zero {code : Errcode} : -(code : Int) < 0 ↔ code ≠ 0 := by
  rw [Int.neg_lt_zero_iff, Int.natCast_pos, Nat.pos_iff_ne_zero]

/-- The errno values of `lib/wasi.js`, which are those of the C library of the build. -/
abbrev EBADF : Nat := 8
abbrev EBUSY : Nat := 10
abbrev EEXIST : Nat := 20
abbrev EFAULT : Nat := 21
abbrev EFBIG : Nat := 22
abbrev EINVAL : Nat := 28
abbrev EIO : Nat := 29
abbrev EISDIR : Nat := 31
abbrev EMLINK : Nat := 34
abbrev ENOENT : Nat := 44
abbrev ENOMEM : Nat := 48
abbrev ENOSPC : Nat := 51
abbrev ENOTDIR : Nat := 54
abbrev ENOTEMPTY : Nat := 55
/-- The next two are defined by the C library only. -/
abbrev ENODATA : Nat := 116
abbrev EOPNOTSUPP : Nat := 138

abbrev EXT2_ET_BASE : Errcode := 2133571328
abbrev EXT2_ET_MAGIC_EXT2_FILE : Errcode := 2133571343
abbrev EXT2_ET_DIR_NO_SPACE : Errcode := 2133571366
abbrev EXT2_ET_TOOSMALL : Errcode := 2133571372
abbrev EXT2_ET_SYMLINK_LOOP : Errcode := 2133571392
abbrev EXT2_ET_LLSEEK_FAILED : Errcode := 2133571397
abbrev EXT2_ET_NO_MEMORY : Errcode := 2133571398
abbrev EXT2_ET_INVALID_ARGUMENT : Errcode := 2133571399
abbrev EXT2_ET_BLOCK_ALLOC_FAIL : Errcode := 2133571400
abbrev EXT2_ET_INODE_ALLOC_FAIL : Errcode := 2133571401
abbrev EXT2_ET_NO_DIRECTORY : Errcode := 2133571402
abbrev EXT2_ET_FILE_NOT_FOUND : Errcode := 2133571404
abbrev EXT2_ET_DIR_EXISTS : Errcode := 2133571407
abbrev EXT2_ET_UNIMPLEMENTED : Errcode := 2133571408
abbrev EXT2_ET_FILE_TOO_BIG : Errcode := 2133571410
abbrev EXT2_ET_TDB_ERR_OOM : Errcode := 2133571428
abbrev EXT2_ET_TDB_ERR_EXISTS : Errcode := 2133571429
abbrev EXT2_ET_MMP_FAILED : Errcode := 2133571467
abbrev EXT2_ET_MMP_FSCK_ON : Errcode := 2133571468
abbrev EXT2_ET_FILE_EXISTS : Errcode := 2133571483
abbrev EXT2_ET_EA_KEY_NOT_FOUND : Errcode := 2133571490
abbrev EXT2_ET_EA_NO_SPACE : Errcode := 2133571491

/-- The open flags of `glue.c`, equal to those of `lib/fs.js`. -/
abbrev O_WRONLY : BitVec 32 := 0o1#32
abbrev O_RDWR : BitVec 32 := 0o2#32
abbrev O_CREAT : BitVec 32 := 0o100#32
abbrev O_EXCL : BitVec 32 := 0o200#32
abbrev O_TRUNC : BitVec 32 := 0o1000#32
abbrev O_APPEND : BitVec 32 := 0o2000#32
abbrev O_DIRECTORY : BitVec 32 := 0o200000#32
abbrev O_NOFOLLOW : BitVec 32 := 0o400000#32
abbrev O_NOATIME : BitVec 32 := 0o1000000#32

/-- The C test `flags & mask`. -/
def hasFlag (flags mask : BitVec 32) : Bool := flags &&& mask != 0#32

abbrev EXT2_FILE_WRITE : BitVec 32 := 1#32
abbrev EXT2_FILE_CREATE : BitVec 32 := 2#32
abbrev EXT4_EXTENTS_FL : BitVec 32 := 0x00080000#32
abbrev EXT4_INLINE_DATA_FL : BitVec 32 := 0x10000000#32

abbrev LINUX_S_IFMT : BitVec 16 := 0o170000#16
abbrev LINUX_S_IFSOCK : BitVec 16 := 0o140000#16
abbrev LINUX_S_IFLNK : BitVec 16 := 0o120000#16
abbrev LINUX_S_IFREG : BitVec 16 := 0o100000#16
abbrev LINUX_S_IFBLK : BitVec 16 := 0o060000#16
abbrev LINUX_S_IFDIR : BitVec 16 := 0o040000#16
abbrev LINUX_S_IFCHR : BitVec 16 := 0o020000#16
abbrev LINUX_S_IFIFO : BitVec 16 := 0o010000#16

def linuxSIslnk (mode : BitVec 16) : Bool := mode &&& LINUX_S_IFMT == LINUX_S_IFLNK
def linuxSIsreg (mode : BitVec 16) : Bool := mode &&& LINUX_S_IFMT == LINUX_S_IFREG
def linuxSIsdir (mode : BitVec 16) : Bool := mode &&& LINUX_S_IFMT == LINUX_S_IFDIR
def linuxSIschr (mode : BitVec 16) : Bool := mode &&& LINUX_S_IFMT == LINUX_S_IFCHR
def linuxSIsblk (mode : BitVec 16) : Bool := mode &&& LINUX_S_IFMT == LINUX_S_IFBLK
def linuxSIsfifo (mode : BitVec 16) : Bool := mode &&& LINUX_S_IFMT == LINUX_S_IFIFO
def linuxSIssock (mode : BitVec 16) : Bool := mode &&& LINUX_S_IFMT == LINUX_S_IFSOCK

abbrev EXT2_FT_REG_FILE : Nat := 1
abbrev EXT2_FT_DIR : Nat := 2
abbrev EXT2_FT_CHRDEV : Nat := 3
abbrev EXT2_FT_BLKDEV : Nat := 4
abbrev EXT2_FT_FIFO : Nat := 5
abbrev EXT2_FT_SOCK : Nat := 6
abbrev EXT2_FT_SYMLINK : Nat := 7

def ext2FileType (mode : BitVec 16) : Nat :=
  if linuxSIsreg mode then EXT2_FT_REG_FILE
  else if linuxSIsdir mode then EXT2_FT_DIR
  else if linuxSIschr mode then EXT2_FT_CHRDEV
  else if linuxSIsblk mode then EXT2_FT_BLKDEV
  else if linuxSIslnk mode then EXT2_FT_SYMLINK
  else if linuxSIsfifo mode then EXT2_FT_FIFO
  else if linuxSIssock mode then EXT2_FT_SOCK
  else 0

/-- The mode of a new object keeps its permission bits and takes the given type. -/
def withFormat (mode : BitVec 32) (format : BitVec 16) : BitVec 16 :=
  (mode.setWidth 16 &&& ~~~LINUX_S_IFMT) ||| format

@[simp] theorem withFormat_format (mode : BitVec 32) (format : BitVec 16)
    (typed : format &&& LINUX_S_IFMT = format) :
    withFormat mode format &&& LINUX_S_IFMT = format := by
  apply BitVec.eq_of_getElem_eq
  intro index inside
  have bit := congrArg (fun word => word[index]) typed
  simp only [BitVec.getElem_and] at bit
  simp only [withFormat, BitVec.getElem_and, BitVec.getElem_or, BitVec.getElem_not]
  rw [← bit]
  cases format[index] <;> cases LINUX_S_IFMT[index] <;> simp

/-- New permissions leave the type of a mode. -/
theorem permissions_format (mode : BitVec 16) (permissions : BitVec 32) :
    (mode &&& LINUX_S_IFMT ||| (permissions.setWidth 16 &&& ~~~LINUX_S_IFMT)) &&& LINUX_S_IFMT =
      mode &&& LINUX_S_IFMT := by
  rw [BitVec.or_comm]
  apply withFormat_format
  rw [BitVec.and_assoc, BitVec.and_self]

end NodeExt2fs.Glue
