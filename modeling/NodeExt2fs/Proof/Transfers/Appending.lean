import NodeExt2fs.Construction.Js.SingleFile
import NodeExt2fs.Proof.Transfers.Replies

/-!
This file follows the content of a file through calls of `appendFile`.
-/

namespace NodeExt2fs.Transfers
open Programs Glue Js Structures
open Program (wp wp_pure wp_bind wp_ite wp_perform wp_mono)

variable {handle : Ptr} {allocation : Allocation}

/-- The flags of `w`, by which `appendFile` opens its file. -/
abbrev truncating : BitVec 32 := O_TRUNC ||| O_CREAT ||| O_WRONLY

theorem openPath_truncates {raw path : List UInt8} (used : usePath raw = some path)
    (file : Option (List UInt8)) (position : Nat) :
    Store.openPath handle raw (.text "w") (some 0o666) ⟨file, position, none⟩ =
      (.ok handle, ⟨some [], 0, some truncating⟩) := by
  have resolved (args : List Int) : ccallThrowAsync "node_ext2fs_open" args (handle : Int) =
      .ok (handle : Int) := if_neg (by omega)
  have opened : bindingOpen ⟨file, position, none⟩ truncating handle =
      ((handle : Int), ⟨some [], 0, none⟩) := by
    cases file <;> rfl
  have flags : stringToFlags (.text "w") = .ok truncating := rfl
  rw [Store.openPath, flags]
  simp only [used, opened, resolved]

/-- The whole data is written at the beginning of the empty file. -/
theorem write_all {data : List UInt8} (short : data.length < 2 ^ 31) :
    Store.write allocation handle data 0 data.length (some 0) ⟨some [], 0, some truncating⟩ =
      (.ok data.length, ⟨some data, data.length, some truncating⟩) := by
  have all : slice data 0 data.length = data := List.take_length
  have content : splice [] 0 data = data := by
    rw [splice]
    by_cases empty : data = []
    · rw [if_pos empty, empty]
    · rw [if_neg empty]
      simp only [List.take_nil, List.length_nil, Nat.sub_self, List.replicate_zero, List.nil_append,
        List.drop_nil, List.append_nil]
  have done : Fs.write ⟨[], 0, []⟩ ⟨handle, truncating⟩ allocation (.buffer data)
      (.number (some 0)) (.number (some data.length)) (.number (some 0)) =
      (.ok (data.length : Int), (OpenFile.mk [] 0 []).put data) := by
    have writable : (Descriptor.mk handle truncating).writable = true :=
      show hasFlag truncating (O_WRONLY ||| O_RDWR) = true by decide
    have plain : (Descriptor.mk handle truncating).appends = false :=
      show hasFlag truncating O_APPEND = false by decide
    have here : writePlace ⟨[], 0, []⟩ ⟨handle, truncating⟩ (.number (some 0)) = 0 := by
      rw [writePlace, plain, if_neg Bool.false_ne_true]
      rfl
    have same := @writeBuffer_writable ⟨[], 0, []⟩ ⟨handle, truncating⟩ allocation writable data 0
      data.length (by omega) short (.number (some 0))
    rw [all, here] at same
    exact same
  have after : ((OpenFile.mk [] 0 []).put data).content = data := content
  have behind : ((OpenFile.mk [] 0 []).put data).position = data.length := Nat.zero_add _
  change (Except.mapError Failure.errno (Fs.write _ _ _ _ _ _ _).1, _) = _
  simp only [Option.getD_some, Option.elim_some, done, after, behind]
  rfl

/-- A call that resolves hands its value to what follows. -/
theorem run_bind_ok {A B : Type} {first : ExceptT Failure (StateM Store) A}
    {next : A → ExceptT Failure (StateM Store) B} {store store' : Store} {value : A}
    (resolved : first.run store = (.ok value, store')) :
    (first >>= next).run store = (next value).run store' := by
  change ExceptT.bindCont next (first.run store).1 (first.run store).2 = _
  rw [resolved]
  rfl

theorem awaitFinally_ok {body last : ExceptT Failure (StateM Store) Unit} {store between after : Store}
    (resolved : body.run store = (.ok (), between)) (closed : last.run between = (.ok (), after)) :
    (awaitFinally body last).run store = (.ok (), after) := by
  change runFinally last (body.run store).1 (body.run store).2 = _
  rw [resolved]
  change (Except.bind (last.run between).1 fun _ => .ok (), (last.run between).2) = _
  rw [closed]
  rfl

/-- `appendFile` replaces the content of the file. -/
theorem appendFile_replaces {raw path : List UInt8} (used : usePath raw = some path) (rounds : Nat)
    {data : List UInt8} (short : data.length < 2 ^ 31) (file : Option (List UInt8)) (position : Nat) :
    (appendFile (storeCalls handle allocation) (rounds + 1) (.path raw) data .missing).run
        ⟨file, position, none⟩ = (.ok (), ⟨some data, data.length, none⟩) := by
  have opened : ((storeCalls handle allocation).openPath raw (.text "w") (some 0o666)).run
      ⟨file, position, none⟩ = _ := openPath_truncates used file position
  have written : ((storeCalls handle allocation).write handle data 0 data.length (some 0)).run
      ⟨some [], 0, some truncating⟩ = _ := write_all short
  change ((storeCalls handle allocation).openPath raw (.text "w") (some 0o666) >>= fun fd =>
    awaitFinally (writeAll (storeCalls handle allocation) fd data (rounds + 1) 0 data.length
      (some 0)) ((storeCalls handle allocation).close fd)).run _ = _
  rw [run_bind_ok opened]
  apply @awaitFinally_ok _ _ _ ⟨some data, data.length, some truncating⟩
  · rw [writeAll, run_bind_ok written, if_pos rfl]
    rfl
  · rfl

/-- Only the last call leaves its data. -/
theorem appendFiles_replaces {raw path : List UInt8} (used : usePath raw = some path) (rounds : Nat)
    {datas : List (List UInt8)} (short : ∀ data ∈ datas, data.length < 2 ^ 31)
    (file : Option (List UInt8)) (position : Nat) :
    ∃ position', (appendFiles (storeCalls handle allocation) (rounds + 1) (.path raw) datas).run
        ⟨file, position, none⟩ = (.ok (), ⟨datas.getLast? <|> file, position', none⟩) := by
  induction datas generalizing file position with
  | nil => exact ⟨position, rfl⟩
  | cons data rest ih =>
      have first := @appendFile_replaces handle allocation raw path used rounds data
        (short data List.mem_cons_self) file position
      obtain ⟨position', later⟩ := ih (fun data member => short data (List.mem_cons_of_mem _ member))
        (some data) data.length
      refine ⟨position', ?_⟩
      rw [appendFiles, run_bind_ok first, later]
      cases rest with
      | nil => rfl
      | cons next more => rw [List.getLast?_cons_cons, List.getLast?_cons]; rfl

/-- All calls resolve, and the file has its bytes followed by the data of the calls. -/
def Appends (handle : Ptr) (allocation : Allocation) (rounds : Nat) (raw : List UInt8)
    (file : Option (List UInt8)) (datas : List (List UInt8)) : Prop :=
  ∃ store, (appendFiles (storeCalls handle allocation) rounds (.path raw) datas).run (.closed file) =
      (.ok (), store) ∧
    store.file.getD [] = file.getD [] ++ datas.flatten

/-- The calls append when nothing was there to be kept before the last of them. -/
theorem appends_iff {raw path : List UInt8} (used : usePath raw = some path) (rounds : Nat)
    {datas : List (List UInt8)} (short : ∀ data ∈ datas, data.length < 2 ^ 31)
    (file : Option (List UInt8)) :
    Appends handle allocation (rounds + 1) raw file datas ↔
      datas = [] ∨ file.getD [] ++ datas.dropLast.flatten = [] := by
  obtain ⟨position, done⟩ := @appendFiles_replaces handle allocation raw path used rounds datas short
    file 0
  have content : Appends handle allocation (rounds + 1) raw file datas ↔
      (datas.getLast? <|> file).getD [] = file.getD [] ++ datas.flatten := by
    apply Iff.intro
    · intro appends
      obtain ⟨store, finished, content⟩ := appends
      have same := congrArg Prod.snd (finished.symm.trans done)
      rw [← content, show store = _ from same]
    · intro content
      exact ⟨_, done, content⟩
  rw [content]
  rcases List.eq_nil_or_concat datas with empty | ⟨front, last, split⟩
  · rw [empty]
    exact iff_of_true (List.append_nil _).symm (.inl rfl)
  · rw [split, List.concat_eq_append, List.getLast?_concat, List.flatten_append,
      List.dropLast_concat]
    change last = file.getD [] ++ (front.flatten ++ (last ++ [])) ↔ _
    rw [List.append_nil, ← List.append_assoc, List.self_eq_append_left]
    simp only [List.append_eq_nil_iff, List.cons_ne_self, and_false, false_or]

/-- One call on a file that does not exist. -/
theorem appends_missing : Appends 4 ⟨8, fun _ => 0⟩ 1 [slash, 97] none [[1, 2]] :=
  (@appends_iff 4 ⟨8, fun _ => 0⟩ [slash, 97] [slash, 97] (by decide) 0 [[1, 2]] (by decide)
    none).mpr (.inr rfl)

/-- A call on a file with a byte loses that byte. -/
theorem append_truncates :
    ¬∀ (handle : Ptr) (allocation : Allocation) (rounds : Nat) (raw path : List UInt8)
      (file : Option (List UInt8)) (datas : List (List UInt8)), usePath raw = some path →
        (∀ data ∈ datas, data.length < 2 ^ 31) →
          Appends handle allocation (rounds + 1) raw file datas := by
  intro all
  have appends := all 4 ⟨8, fun _ => 0⟩ 0 [slash, 97] [slash, 97] (some [1]) [[2]] (by decide)
    (by decide)
  obtain ⟨position, done⟩ := @appendFiles_replaces 4 ⟨8, fun _ => 0⟩ [slash, 97] [slash, 97]
    (by decide) 0 [[2]] (by decide) (some [1]) 0
  obtain ⟨store, finished, content⟩ := appends
  have same := congrArg Prod.snd (finished.symm.trans done)
  rw [show store = _ from same] at content
  change [2] = [1] ++ [2] at content
  exact absurd content (by decide)

end NodeExt2fs.Transfers
