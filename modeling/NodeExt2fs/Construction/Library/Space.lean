import NodeExt2fs.Construction.Library.Failures

/-!
This file states what libext2fs does with the space of directories, on a disk that does not fail.
-/

namespace NodeExt2fs.Library
open Programs Glue

/-- A name fits again where it was removed, and the blocks of one inode are no space of another. -/
def Settles (volume : Volume) : (call : Call) → Answer call → Volume → Prop
  | .unlink dir name, code, volume' => code = 0 → volume'.fits dir name = true
  | .punch ino _, _, volume' => ∀ other, other ≠ ino → volume'.fits other = volume.fits other
  | .flush2, code, _ => code = 0
  | _, _, _ => True

/-- The contract of a library that fails only for reasons in the volume, which its space is one of. -/
def spacious (resolver : Resolver) : Contract Call Answer Volume where
  permits _ _ := True
  allows volume call answer volume' :=
    effect resolver True volume call answer volume' ∧ Roomy volume call answer ∧
      Settles volume call answer volume'

theorem spacious_refines (resolver : Resolver) :
    (spacious resolver).Refines (libext2fs resolver True) :=
  ⟨fun _ _ _ => trivial, fun _ _ _ _ allowed => allowed.1⟩

end NodeExt2fs.Library
