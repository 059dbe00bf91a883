import NodeExt2fs.Construction.Js.WriteStream
import NodeExt2fs.Proof.Transfers.Exchange

/-!
This file derives the effect of a write on an open file from the C code.
-/

namespace NodeExt2fs.Streams
open Programs Glue Js Transfers
open Program (wp wp_pure wp_bind wp_ite wp_perform wp_mono)

variable {handle buffer : Ptr} {memory : List UInt8}

/-- What libext2fs promises about one handle while the disk works: a seek moves it, a write puts
the bytes behind the buffer, and the other calls leave the data alone. -/
def filing (handle buffer : Ptr) (memory : List UInt8) : Contract Call Answer OpenFile where
  permits _ _ := True
  allows file call answer file' :=
    match call, answer with
    | .fileLlseek target offset whence, code =>
        target = handle ∧ whence = EXT2_SEEK_SET → code = 0 ∧ file' = file.seek offset.toNat
    | .fileWrite target source nbytes, (code, written) =>
        target = handle ∧ source = buffer →
          code = 0 ∧ written = nbytes ∧ file' = file.put (memory.take nbytes.toNat)
    | call, answer => call.code answer = 0 ∧ file' = file

theorem leaves_filing : Leaves (filing handle buffer memory) := by
  intro call file other
  apply And.intro trivial
  intro answer file' allowed
  cases call <;> first | exact allowed | cases other

theorem fileWrite_wp_filing (nbytes : BitVec 32) {file : OpenFile}
    {post : Errcode × BitVec 32 → OpenFile → Prop}
    (rest : post (0, nbytes) (file.put (memory.take nbytes.toNat))) :
    wp (filing handle buffer memory) (ext2fsFileWrite handle buffer nbytes) post file := by
  apply And.intro trivial
  intro answer file' allowed
  obtain ⟨code, written⟩ := answer
  obtain ⟨zero, count, after⟩ := allowed ⟨rfl, rfl⟩
  change code = 0 at zero
  change written = nbytes at count
  rw [zero, count, after]
  exact rest

/-- On a working disk, `node_ext2fs_write` does to the file what the model of the binding says. -/
theorem nodeExt2fsWrite_wp_filing {flags length position : BitVec 32} {file : OpenFile}
    (writable : hasFlag flags (O_WRONLY ||| O_RDWR)) (plain : ¬hasFlag flags O_APPEND) :
    wp (filing handle buffer memory) (nodeExt2fsWrite handle flags buffer length position)
      (fun result file' => (result, file') = bindingWrite file memory length position) file := by
  have sought (post : Errcode → OpenFile → Prop)
      (rest : post 0 (if position ≠ noPosition then file.seek position.toNat else file)) :
      wp (filing handle buffer memory) (seekForWrite handle flags position) post file := by
    unfold seekForWrite
    rw [if_neg plain]
    by_cases moved : position ≠ noPosition
    · rw [if_pos moved]
      rw [if_pos moved] at rest
      apply And.intro trivial
      intro code file' allowed
      obtain ⟨zero, after⟩ := allowed ⟨rfl, rfl⟩
      have same : (position.setWidth 64).toNat = position.toNat := by
        rw [BitVec.toNat_setWidth]
        omega
      rw [zero, after, same]
      exact rest
    · rw [if_neg moved]
      rw [if_neg moved] at rest
      exact rest
  unfold nodeExt2fsWrite
  rw [if_neg (by simp [writable]), wp_bind]
  apply sought
  rw [wp_ite]
  refine ⟨fun bad => absurd rfl bad, fun _ => ?_⟩
  rw [wp_bind]
  apply fileWrite_wp_filing
  rw [wp_ite]
  refine ⟨fun bad => absurd rfl bad, fun _ => ?_⟩
  rw [wp_bind]
  apply leaves_filing.stampWritten
  rw [wp_ite]
  refine ⟨fun bad => absurd rfl bad, fun _ => ?_⟩
  apply leaves_filing.flushWritten
  rfl

end NodeExt2fs.Streams
