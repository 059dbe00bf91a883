import NodeExt2fs.Construction.Glue.Links
import NodeExt2fs.Construction.Glue.Rename

/-!
This file turns the results of the C functions into values and exceptions.
-/

namespace NodeExt2fs.Js
open Programs Glue

/-- `ERRNO_TO_CODE` of `lib/wasi.js`, which inverts `CODE_TO_ERRNO`. -/
def errnoToCode : List (Int × String) :=
  [(1, "E2BIG"), (2, "EACCES"), (3, "EADDRINUSE"), (4, "EADDRNOTAVAIL"), (5, "EAFNOSUPPORT"),
    (6, "EAGAIN"), (7, "EALREADY"), (8, "EBADF"), (9, "EBADMSG"), (10, "EBUSY"), (11, "ECANCELED"),
    (12, "ECHILD"), (13, "ECONNABORTED"), (14, "ECONNREFUSED"), (15, "ECONNRESET"), (16, "EDEADLOCK"),
    (17, "EDESTADDRREQ"), (18, "EDOM"), (19, "EDQUOT"), (20, "EEXIST"), (21, "EFAULT"), (22, "EFBIG"),
    (23, "EHOSTUNREACH"), (24, "EIDRM"), (25, "EILSEQ"), (26, "EINPROGRESS"), (27, "EINTR"),
    (28, "EINVAL"), (29, "EIO"), (30, "EISCONN"), (31, "EISDIR"), (32, "ELOOP"), (33, "EMFILE"),
    (34, "EMLINK"), (35, "EMSGSIZE"), (36, "EMULTIHOP"), (37, "ENAMETOOLONG"), (38, "ENETDOWN"),
    (39, "ENETRESET"), (40, "ENETUNREACH"), (41, "ENFILE"), (42, "ENOBUFS"), (43, "ENODEV"),
    (44, "ENOENT"), (45, "ENOEXEC"), (46, "ENOLCK"), (47, "ENOLINK"), (48, "ENOMEM"), (49, "ENOMSG"),
    (50, "ENOPROTOOPT"), (51, "ENOSPC"), (52, "ENOSYS"), (53, "ENOTCONN"), (54, "ENOTDIR"),
    (55, "ENOTEMPTY"), (56, "ENOTRECOVERABLE"), (57, "ENOTSOCK"), (59, "ENOTTY"), (60, "ENXIO"),
    (61, "EOVERFLOW"), (62, "EOWNERDEAD"), (63, "EPERM"), (64, "EPIPE"), (65, "EPROTO"),
    (66, "EPROTONOSUPPORT"), (67, "EPROTOTYPE"), (68, "ERANGE"), (69, "EROFS"), (70, "ESPIPE"),
    (71, "ESRCH"), (72, "ESTALE"), (73, "ETIMEDOUT"), (74, "ETXTBSY"), (75, "EXDEV")]

structure ErrnoException where
  errno : Int
  syscall : String
  code : String
  message : String
  deriving DecidableEq

/-- `JSON.stringify` of an array of integers. -/
def stringifyNumbers (args : List Int) : String :=
  "[" ++ ",".intercalate (args.map toString) ++ "]"

/-- The constructor of `ErrnoException`. -/
def errnoException (errno : Int) (syscall : String) (args : List Int) : ErrnoException :=
  let code := (errnoToCode.lookup errno).getD "UNKNOWN"
  { errno := errno
    syscall := syscall
    code := code
    message := syscall ++ " " ++ code ++ " (" ++ toString errno ++ ") args: " ++ stringifyNumbers args }

/-- `ccallThrowAsync`, once the queue has run the C function to its result. -/
def ccallThrowAsync (name : String) (args : List Int) (result : Int) : Except ErrnoException Int :=
  if result < 0 then .error (errnoException (-result) name args) else .ok result

/-- A call rejects exactly on a negative result. -/
theorem ccallThrowAsync_rejects_iff (name : String) (args : List Int) (result : Int) :
    (∃ exception, ccallThrowAsync name args result = .error exception) ↔ result < 0 := by
  unfold ccallThrowAsync
  by_cases negative : result < 0
  · simp [negative]
  · simp [negative]

/-- The operations of `lib/binding.js` that change names or write data, after their arguments have
been read from memory. -/
inductive Operation where
  | unlink (path : Path)
  | rmdir (path : Path)
  | rename (fromPath toPath : Path)
  | link (src dest : Path)
  | symlink (src dest : Path)
  | write (file : Ptr) (flags : BitVec 32) (buffer : Ptr) (length position : BitVec 32)
  deriving DecidableEq

def Operation.name : Operation → String
  | .unlink _ => "node_ext2fs_unlink"
  | .rmdir _ => "node_ext2fs_rmdir"
  | .rename _ _ => "node_ext2fs_rename"
  | .link _ _ => "node_ext2fs_link"
  | .symlink _ _ => "node_ext2fs_symlink"
  | .write _ _ _ _ _ => "node_ext2fs_write"

def Operation.routine : Operation → Routine Int
  | .unlink path => nodeExt2fsUnlink path
  | .rmdir path => nodeExt2fsRmdir path
  | .rename fromPath toPath => nodeExt2fsRename fromPath toPath
  | .link src dest => nodeExt2fsLink src dest
  | .symlink src dest => nodeExt2fsSymlink src dest
  | .write file flags buffer length position => nodeExt2fsWrite file flags buffer length position

end NodeExt2fs.Js
