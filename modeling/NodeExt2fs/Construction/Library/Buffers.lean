import NodeExt2fs.Construction.Library.Contract
import NodeExt2fs.Construction.Library.Reference

/-!
This file adds the block buffers of the open files to the contract.
-/

namespace NodeExt2fs.Library
open Programs Glue

/-- A volume, and the handles whose buffer has data that is not on the disk yet. -/
@[ext] structure Buffered where
  volume : Volume
  dirty : Ptr → Bool

/-- A new handle has nothing in its buffer, a write of no bytes writes nothing, and a buffer that is
not dirty is not written out. -/
def bufferEffect (before : Buffered) : (call : Call) → Answer call → Buffered → Prop
  | .fileOpen _ _, answer, after =>
      (answer.1 = 0 → after.dirty = Function.update before.dirty answer.2 false) ∧
        (answer.1 ≠ 0 → after.dirty = before.dirty)
  | .fileWrite file _ nbytes, _, after =>
      (∀ other, other ≠ file → after.dirty other = before.dirty other) ∧
        (nbytes = 0 →
          after.dirty = before.dirty ∧ after.volume.entries = before.volume.entries)
  | .fileFlush file, _, after | .fileClose file, _, after =>
      (∀ other, other ≠ file → after.dirty other = before.dirty other) ∧
        (before.dirty file = false →
          after.dirty file = false ∧ after.volume.entries = before.volume.entries)
  | _, _, after => after.dirty = before.dirty

/-- The contract of libext2fs with its buffers. -/
def buffering (resolver : Resolver) (steady : Prop) : Contract Call Answer Buffered where
  permits _ _ := True
  allows before call answer after :=
    effect resolver steady before.volume call answer after.volume ∧
      bufferEffect before call answer after

/-- A call of the library may have each of its effects. -/
theorem wp_buffering {resolver : Resolver} {steady : Prop} {state : Buffered} (call : Call)
    {post : Answer call → Buffered → Prop}
    (rest : ∀ answer after, effect resolver steady state.volume call answer after.volume →
      bufferEffect state call answer after → post answer after) :
    Program.wp (buffering resolver steady) call.perform post state :=
  ⟨trivial, fun answer after allowed => rest answer after allowed.1 allowed.2⟩

/-- Only an open changes what is known of a buffer. -/
def cleaned (dirty : Ptr → Bool) : (call : Call) → Answer call → Ptr → Bool
  | .fileOpen _ _, answer => if answer.1 = 0 then Function.update dirty answer.2 false else dirty
  | _, _ => dirty

/-- The library in memory, with buffers that it never fills. -/
def buffered : Handler Call Answer Buffered := fun call state =>
  let (answer, volume) := reference call state.volume
  (answer, { volume := volume, dirty := cleaned state.dirty call answer })

end NodeExt2fs.Library
