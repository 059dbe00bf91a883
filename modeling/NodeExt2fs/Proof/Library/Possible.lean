import NodeExt2fs.Proof.Library.Effects
import NodeExt2fs.Proof.Library.Reference
import NodeExt2fs.Proof.Library.Requests

/-!
This file says what the parts of the operations may come to on a library that does not fail.
-/

namespace NodeExt2fs.Library
open Programs Glue
open Program (Only wp may may_of_wp may_mono wp_mono)

variable {resolver : Resolver} {volume : Volume}

theorem may_library (call : Call) {post : Answer call → Volume → Prop} (answer : Answer call)
    {volume' : Volume} (allowed : effect resolver True volume call answer volume')
    (rest : post answer volume') : may (libext2fs resolver True) call.perform post volume :=
  ⟨answer, volume', allowed, rest⟩

/-- Every call apart from the lookups has the answer of the library in memory. -/
theorem answered (volume : Volume) (call : Call) (plain : looksUp call = false) :
    ∃ answer volume', (libext2fs resolver True).allows volume call answer volume' := by
  have honoured := reference_honours True call volume
  refine ⟨(reference call volume).1, (reference call volume).2, ?_⟩
  -- Only the lookups depend on the resolver.
  cases call with
  | namei path => cases plain
  | nameiFollow path => cases plain
  | _ => exact honoured

/-- A part without lookups may come to what it always comes to. -/
theorem may_of_plain {A : Type} {routine : Routine A} {post : A → Volume → Prop}
    (plain : routine.Only fun call => looksUp call = false)
    (before : wp (libext2fs resolver True) routine post volume) :
    may (libext2fs resolver True) routine post volume :=
  may_of_wp answered plain before

theorem records_plain (call : Call) (listed : records call = true) : looksUp call = false := by
  rw [records, Bool.and_eq_true_iff, Bool.not_eq_true'] at listed
  exact listed.2

theorem may_updateMtime (ino : Ino) :
    may (libext2fs resolver True) (updateMtime ino none)
      (fun answer volume' => volume' = volume ∧ answer.1 = 0) volume :=
  may_mono (may_of_plain (updateMtime_only records_plain ino none) (updateMtime_none ino))
    fun _ _ stamped => ⟨stamped.1, stamped.2 trivial⟩

end NodeExt2fs.Library
