import ApiSurface.Proofs.Action
import ApiSurface.Proofs.Disassembly.Concatenation
import ApiSurface.Run.Extraction
import Mathlib.Algebra.Order.Floor.Div

/-! What the classes are read into does not depend on the batches they are disassembled in. -/

namespace ApiSurface

namespace Extraction

open Chunk

variable {α σ : Type} {disassemble : Disassembler σ} {jar : Path} {block : Text → Text}
  {classes : List Text}

theorem flatten_batchesAfter (size skipped : Nat) (elements : List α) :
    (batchesAfter size skipped elements).flatten = elements.drop skipped := by
  induction elements generalizing skipped with
  | nil => simp [batchesAfter]
  | cons first rest induction =>
      cases skipped with
      | zero => simp [batchesAfter, induction]
      | succ skipped => simp [batchesAfter, induction]

theorem flatten_batches (size : Nat) (elements : List α) :
    (batches size elements).flatten = elements :=
  flatten_batchesAfter size 0 elements

theorem batchesAfter_eq (size skipped : Nat) (elements : List α) :
    batchesAfter size skipped elements = batches size (elements.drop skipped) := by
  induction elements generalizing skipped with
  | nil => simp [batches, batchesAfter]
  | cons first rest induction =>
      cases skipped with
      | zero => rfl
      | succ skipped => rw [batchesAfter, induction, List.drop_succ_cons]

theorem getElem?_batches (size : Nat) (elements : List α) (index : Nat) :
    (batches size elements)[index]? =
      if index * max size 1 < elements.length then
        some ((elements.drop (index * max size 1)).take (max size 1))
      else none := by
  obtain ⟨width, same⟩ : ∃ width, max size 1 = width + 1 := ⟨size - 1, by omega⟩
  have width_eq : size - 1 = width := by omega
  rw [same]
  induction index generalizing elements with
  | zero => cases elements <;> simp [batches, batchesAfter, width_eq]
  | succ index induction =>
      cases elements with
      | nil => simp [batches, batchesAfter]
      | cons first rest =>
          have behind : (index + 1) * (width + 1) = width + index * (width + 1) + 1 := by
            rw [Nat.succ_mul]
            omega
          have fits : index * (width + 1) < rest.length - width ↔
              width + index * (width + 1) + 1 < rest.length + 1 := by
            omega
          rw [batches, batchesAfter, List.getElem?_cons_succ, batchesAfter_eq, induction, width_eq,
            List.length_drop, List.drop_drop, List.length_cons, behind, List.drop_succ_cons]
          simp only [fits]

theorem length_batches (size : Nat) (elements : List α) :
    (batches size elements).length = elements.length ⌈/⌉ max size 1 := by
  refine eq_of_forall_ge_iff fun count => ?_
  rw [ceilDiv_le_iff_le_mul (by omega), ← List.getElem?_eq_none_iff, getElem?_batches,
    Nat.mul_comm]
  simp

theorem bounds_of_getElem?_batches {size index : Nat} {elements batch : List α}
    (found : (batches size elements)[index]? = some batch) :
    batch ≠ [] ∧ batch.length ≤ max size 1 ∧
      (index + 1 < elements.length ⌈/⌉ max size 1 → batch.length = max size 1) := by
  rw [getElem?_batches] at found
  split_ifs at found with inside
  have length : batch.length = min (max size 1) (elements.length - index * max size 1) := by
    rw [← Option.some.inj found, List.length_take, List.length_drop]
  refine ⟨List.ne_nil_of_length_pos (by omega), by omega, fun more => ?_⟩
  rw [lt_iff_not_ge, ceilDiv_le_iff_le_mul (by omega), Nat.mul_comm, Nat.succ_mul] at more
  omega

/-- A disassembler that prints classes one after another, whichever of them it is asked for. -/
def Concatenates (disassemble : Disassembler σ) (jar : Path) (classes : List Text)
    (block : Text → Text) : Prop :=
  ∀ batch, batch ⊆ classes → ∀ state, ∃ after,
    disassemble jar batch state = .ok (batch.flatMap block) after

theorem disassembleAll_eq (concatenates : Concatenates disassemble jar classes block)
    (separate : ∀ name ∈ classes, IsSeparate (block name)) {all : List (List Text)}
    (known : all.flatten ⊆ classes) (index : Nat) (state : RunState σ) :
    ∃ after, disassembleAll disassemble jar index all state =
      .ok (all.flatten.flatMap fun name => Entry.parseAll (block name)) after := by
  induction all generalizing index state with
  | nil => exact ⟨state, rfl⟩
  | cons batch rest induction =>
      rw [List.flatten_cons, List.append_subset] at known
      obtain ⟨middle, printed⟩ := concatenates batch known.1 state
      obtain ⟨after, later⟩ := induction known.2 (index + 1)
        { middle with log := middle.log ++ [.parsed index batch.length
          (Entry.parseAll (batch.flatMap block)).length] }
      refine ⟨after, ?_⟩
      simp only [disassembleAll, Action.bind_eq_ok_iff, Action.note_eq_ok_iff,
        Action.pure_eq_ok_iff]
      refine ⟨_, middle, printed, (), _, ⟨trivial, rfl⟩, _, after, later, ?_, rfl⟩
      rw [List.flatten_cons, List.flatMap_append,
        Entry.parseAll_flatMap fun name member => separate name (known.1 member)]

theorem entries_eq_of_listings (concatenates : Concatenates disassemble jar classes block)
    (listings : ∀ name ∈ classes, block name = [] ∨ IsListing (block name))
    (batchSize : Nat) (state : RunState σ) :
    ∃ after, entries disassemble jar classes batchSize state =
      .ok (classes.flatMap fun name => Entry.parseAll (block name)) after := by
  have separate (name : Text) (member : name ∈ classes) : IsSeparate (block name) := by
    rcases listings name member with empty | listing
    · exact empty ▸ .nil
    · exact listing.isSeparate
  have whole := flatten_batches batchSize classes
  have known : (batches batchSize classes).flatten ⊆ classes := by
    rw [whole]
    exact List.Subset.refl classes
  obtain ⟨after, ran⟩ := disassembleAll_eq concatenates separate known 0 state
  rw [whole] at ran
  exact ⟨after, ran⟩

/-- A class with a marker and carriage returns, one that prints nothing, and one without a
marker. -/
def sampleBlock (name : Text) : Text :=
  if name = "a.B".toList then
    "Compiled from \"B.java\"\r\npublic class a.B \x7b\r\n\x7d\r\n".toList
  else if name = "a.Gone".toList then []
  else "public class ".toList ++ name ++ " \x7b\n  int x;\n\x7d\n".toList

theorem entries_eq_of_listings_sample :
    let disassemble : Disassembler Unit := fun _ batch => pure (batch.flatMap sampleBlock)
    ∃ after,
      entries disassemble [] ["C".toList, "a.Gone".toList, "a.B".toList] 2 ⟨{}, [], [], ()⟩ =
        .ok [⟨[], "C.java".toList, "public class C \x7b\n  int x;\n\x7d\n".toList⟩,
          ⟨"a".toList, "B.java".toList, "public class a.B \x7b\n\x7d\n".toList⟩] after := by
  intro disassemble
  have listings : ∀ name ∈ ["C".toList, "a.Gone".toList, "a.B".toList],
      sampleBlock name = [] ∨ IsListing (sampleBlock name) := by
    simp only [List.forall_mem_cons]
    refine ⟨.inr ?_, .inl (by decide), .inr ?_, by simp⟩
    · exact ⟨by decide, ⟨_, rfl, by decide⟩, ⟨_, rfl, "\x7d\n".toList, by decide, by decide⟩⟩
    · exact ⟨by decide, ⟨_, rfl, by decide⟩, ⟨_, rfl, "\x7d\n".toList, by decide, by decide⟩⟩
  obtain ⟨after, ran⟩ := entries_eq_of_listings (fun batch _ state => ⟨state, rfl⟩ :
    Concatenates disassemble [] _ sampleBlock) listings 2 ⟨{}, [], [], ()⟩
  have parsed : (["C".toList, "a.Gone".toList, "a.B".toList].flatMap fun name =>
      Entry.parseAll (sampleBlock name)) =
        [⟨[], "C.java".toList, "public class C \x7b\n  int x;\n\x7d\n".toList⟩,
          ⟨"a".toList, "B.java".toList, "public class a.B \x7b\n\x7d\n".toList⟩] := by
    decide
  rw [parsed] at ran
  exact ⟨after, ran⟩

end Extraction

end ApiSurface
