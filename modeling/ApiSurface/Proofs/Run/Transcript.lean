import ApiSurface.Proofs.Disassembly.ClassText
import ApiSurface.Proofs.Effect
import ApiSurface.Proofs.Run.Batches

namespace ApiSurface

namespace Extraction

variable {σ : Type} {disassemble : Disassembler σ} {jar : Path} {classes : List Text}
  {state after : RunState σ} {all : List (List Text)}

/-- The texts that are printed for batches in turn. -/
def transcript (disassemble : Disassembler σ) (jar : Path) :
    Nat → List (List Text) → Action σ (List Text)
  | _, [] => pure []
  | index, batch :: rest => do
      let raw ← disassemble jar batch
      Action.note (.parsed index batch.length (Entry.parseAll raw).length)
      let later ← transcript disassemble jar (index + 1) rest
      pure (raw :: later)

theorem disassembleAll_eq_transcript (disassemble : Disassembler σ) (jar : Path) (index : Nat)
    (all : List (List Text)) :
    disassembleAll disassemble jar index all =
      transcript disassemble jar index all >>= fun texts =>
        pure (texts.flatMap Entry.parseAll) := by
  induction all generalizing index with
  | nil => rfl
  | cons batch rest induction =>
      rw [disassembleAll, transcript]
      simp only [induction, bind_assoc, pure_bind, List.flatMap_cons]

theorem disassembleAll_of_transcript {index : Nat} {texts : List Text}
    (printed : transcript disassemble jar index all state = .ok texts after) :
    disassembleAll disassemble jar index all state = .ok (texts.flatMap Entry.parseAll) after := by
  rw [disassembleAll_eq_transcript]
  exact Action.bind_of_ok _ printed

theorem transcript_append (disassemble : Disassembler σ) (jar : Path) (index : Nat)
    (front back : List (List Text)) :
    transcript disassemble jar index (front ++ back) =
      transcript disassemble jar index front >>= fun texts =>
        transcript disassemble jar (index + front.length) back >>= fun later =>
          pure (texts ++ later) := by
  induction front generalizing index with
  | nil => exact (bind_pure _).symm
  | cons batch front induction =>
      have next : index + 1 + front.length = index + (batch :: front).length := by
        rw [List.length_cons]
        omega
      rw [List.cons_append, transcript, transcript]
      simp only [induction, bind_assoc, pure_bind, next, List.cons_append]

theorem transcript_preserves {invariant : RunState σ → Prop}
    (note : ∀ event, Action.Preserves invariant (Action.note event))
    (prints : ∀ classes, Action.Preserves invariant (disassemble jar classes)) (index : Nat)
    (all : List (List Text)) :
    Action.Preserves invariant (transcript disassemble jar index all) := by
  induction all generalizing index with
  | nil => exact .pure []
  | cons batch rest induction =>
      exact (prints batch).bind fun _ => (note _).bind fun _ => (induction _).bind fun _ => .pure _

/-- What a batch of classes is printed as, if each of them is printed as its text. -/
def batchText (printed : Text → ClassText) (batch : List Text) : Text :=
  batch.flatMap fun name => (printed name).text name

/-- A disassembler that prints a text of each class, which may be another one each time, and leaves
the files alone. -/
def PrintsClasses (disassemble : Disassembler σ) (jar : Path) (classes : List Text) : Prop :=
  ∀ batch, batch ⊆ classes → batch.Nodup → ∀ state, ∃ printed after,
    disassemble jar batch state = .ok (batchText printed batch) after ∧ after.files = state.files

theorem batchText_congr {printed other : Text → ClassText} {batch : List Text}
    (same : ∀ name ∈ batch, printed name = other name) :
    batchText printed batch = batchText other batch :=
  List.flatMap_congr fun name member => by rw [same name member]

theorem transcript_succeeds (prints : PrintsClasses disassemble jar classes)
    (known : all.flatten ⊆ classes) (distinct : all.flatten.Nodup) (index : Nat)
    (state : RunState σ) :
    ∃ printed after,
      transcript disassemble jar index all state = .ok (all.map (batchText printed)) after ∧
        after.files = state.files := by
  induction all generalizing index state with
  | nil => exact ⟨fun _ => ⟨none, [], by simp, by simp, by simp⟩, state, rfl, rfl⟩
  | cons batch rest induction =>
      rw [List.flatten_cons] at known distinct
      obtain ⟨knownHere, knownLater⟩ := List.append_subset.mp known
      obtain ⟨distinctHere, distinctLater, apart⟩ := List.nodup_append.mp distinct
      obtain ⟨first, middle, ran, same⟩ := prints batch knownHere distinctHere state
      obtain ⟨later, after, finished, same'⟩ := induction knownLater distinctLater (index + 1)
        { middle with log := middle.log ++ [.parsed index batch.length
          (Entry.parseAll (batchText first batch)).length] }
      let printed (name : Text) : ClassText := if name ∈ batch then first name else later name
      have here : batchText printed batch = batchText first batch :=
        batchText_congr fun name member => if_pos member
      have there : rest.map (batchText printed) = rest.map (batchText later) := by
        refine List.map_congr_left fun other listed => batchText_congr fun name member => ?_
        refine if_neg fun shared => ?_
        exact apart name shared name (List.mem_flatten_of_mem listed member) rfl
      refine ⟨printed, after, ?_, same'.trans same⟩
      rw [List.map_cons, here, there]
      simp only [transcript, Action.bind_eq_ok_iff, Action.note_eq_ok_iff, Action.pure_eq_ok_iff]
      exact ⟨_, middle, ran, (), _, ⟨trivial, rfl⟩, _, after, finished, rfl, rfl⟩

end Extraction

end ApiSurface
