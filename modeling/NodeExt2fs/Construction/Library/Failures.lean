import NodeExt2fs.Construction.Library.Contract

/-!
This file states how libext2fs fails when no disk does: for a wrong type, or for lack of space or of
memory. It covers the calls that open a file.
-/

namespace NodeExt2fs.Library
open Programs Glue

/-- A volume with the sizes of its inodes. -/
structure Sized where
  volume : Volume
  sizes : Ino → Nat

/-- The calls that open a file. -/
def opening : Call → Bool
  | .namei _ | .nameiFollow _ | .newInode _ _ | .link _ _ _ _ | .expandDir _ | .testInodeBitmap _
  | .inodeAllocStats _ _ _ | .time | .inodeSizeSet _ _ | .hasFeatureInlineData | .hasFeatureExtents
  | .extentOpen _ _ | .extentFree | .writeNewInode _ _ | .inlineDataInit _ | .checkDirectory _
  | .fileOpen _ _ | .fileSetSize _ _ => true
  | _ => false

def truncates : Call → Bool
  | .fileSetSize _ _ => true
  | _ => false

/-- A name is added where it fits, and a directory is expanded where it can be. -/
def Roomy (volume : Volume) : (call : Call) → Answer call → Prop
  | .link dir name _ _, code => code = 0 → volume.fits dir name = true
  | .expandDir dir, code => code = 0 → volume.grows dir = true
  | _, _ => True

/-- What a call does to the sizes. `ext2fs_file_set_size2` writes the size before it frees the blocks,
so that a call which fails may have set it. -/
def Resizes (before : Sized) : (call : Call) → Answer call → (Ino → Nat) → Prop
  | .fileSetSize file size, code, sizes =>
      match before.volume.files file with
      | none => sizes = before.sizes
      | some handle =>
          sizes = Function.update before.sizes handle.ino size ∨ code ≠ 0 ∧ sizes = before.sizes
  | .expandDir _, _, sizes => ∀ ino, before.sizes ino ≤ sizes ino
  | .writeNewInode ino _, _, sizes => ∀ other, other ≠ ino → sizes other = before.sizes other
  | _, _, sizes => sizes = before.sizes

/-- The contract of a library that may fail at each call. A call that fails leaves the volume as it was,
apart from a truncation. -/
def failing (resolver : Resolver) : Contract Call Answer Sized where
  permits _ call := opening call = true
  allows before call answer after :=
    effect resolver False before.volume call answer after.volume ∧
      (call.code answer ≠ 0 → truncates call = false → after.volume = before.volume) ∧
      Roomy before.volume call answer ∧ Resizes before call answer after.sizes

end NodeExt2fs.Library
