import ApiSurface.Archive.Layout
import ApiSurface.Proofs.Text.LineEnds
import ApiSurface.Run.Extraction
import Mathlib.Tactic.Common

/-! A run looks at what a disassembler prints through the entries in it alone, and these are the
same whichever way its lines end. -/

namespace ApiSurface

open Text (Returned)

variable {text raw : Text}

theorem Chunk.split_of_returned (unified : text.IsUnified) (returned : Returned text raw) :
    split raw = split text := by
  rw [split, split, Text.unifyLineEnds_of_returned unified returned,
    Text.unifyLineEnds_of_isUnified unified]

theorem Entry.parseAll_of_returned (unified : text.IsUnified) (returned : Returned text raw) :
    parseAll raw = parseAll text := by
  rw [parseAll, parseAll, Chunk.split_of_returned unified returned]

namespace Extraction

variable {σ : Type} {disassemble disassemble' : Disassembler σ} {jar : Path}

theorem disassembleAll_cons (disassemble : Disassembler σ) (jar : Path) (index : Nat)
    (batch : List Text) (rest : List (List Text)) :
    disassembleAll disassemble jar index (batch :: rest) =
      (Entry.parseAll <$> disassemble jar batch >>= fun parsed : List Entry =>
        Action.note (.parsed index batch.length parsed.length) >>= fun _ =>
          disassembleAll disassemble jar (index + 1) rest >>= fun later =>
            pure (parsed ++ later)) := by
  rw [disassembleAll, bind_map_left]

theorem disassembleAll_congr
    (same : ∀ classes, Entry.parseAll <$> disassemble jar classes =
      Entry.parseAll <$> disassemble' jar classes) (index : Nat) (all : List (List Text)) :
    disassembleAll disassemble jar index all = disassembleAll disassemble' jar index all := by
  induction all generalizing index with
  | nil => rfl
  | cons batch rest induction =>
      rw [disassembleAll_cons, disassembleAll_cons, same batch, induction (index + 1)]

theorem packageMap_congr [Archive.Reader]
    (same : ∀ classes, Entry.parseAll <$> disassemble jar classes =
      Entry.parseAll <$> disassemble' jar classes) (batchSize : Nat) :
    packageMap disassemble jar batchSize = packageMap disassemble' jar batchSize := by
  have found (classes : List Text) :
      entries disassemble jar classes batchSize = entries disassemble' jar classes batchSize :=
    disassembleAll_congr same 0 (batches batchSize classes)
  unfold packageMap
  simp only [found]

theorem run_congr [Archive.Reader]
    (same : ∀ jar classes, Entry.parseAll <$> disassemble jar classes =
      Entry.parseAll <$> disassemble' jar classes) (config : RunConfig) (scratch : Path) :
    run config disassemble scratch = run config disassemble' scratch := by
  unfold run
  simp only [packageMap_congr (same _)]

/-- Outcomes of two disassemblers, the second of which may print a carriage return in front of a
line feed. -/
inductive EndsLines :
    EStateM.Result Failure (RunState σ) Text → EStateM.Result Failure (RunState σ) Text → Prop
  | printed {text raw : Text} (unified : text.IsUnified) (returned : Returned text raw)
      (after : RunState σ) : EndsLines (.ok text after) (.ok raw after)
  | failed (failure : Failure) (after : RunState σ) :
      EndsLines (.error failure after) (.error failure after)

theorem EndsLines.map_parseAll {state : RunState σ} {classes : List Text}
    (ends : EndsLines (disassemble jar classes state) (disassemble' jar classes state)) :
    (Entry.parseAll <$> disassemble' jar classes) state =
      (Entry.parseAll <$> disassemble jar classes) state := by
  change EStateM.map _ _ state = EStateM.map _ _ state
  unfold EStateM.map
  generalize disassemble jar classes state = outcome at ends
  generalize disassemble' jar classes state = outcome' at ends
  cases ends with
  | printed unified returned after =>
      exact congrArg (EStateM.Result.ok · after) (Entry.parseAll_of_returned unified returned)
  | failed failure after => rfl

/-- Line ends do not matter: neither to what a text splits into and the entries read from it, nor
to a run whose disassembler prints it. -/
theorem line_ends_do_not_matter [Archive.Reader] :
    (∀ text raw : Text, text.IsUnified → Returned text raw →
      Chunk.split raw = Chunk.split text ∧ Entry.parseAll raw = Entry.parseAll text) ∧
    ∀ (σ : Type) (disassemble disassemble' : Disassembler σ),
      (∀ jar classes state,
        EndsLines (disassemble jar classes state) (disassemble' jar classes state)) →
      ∀ config scratch, run config disassemble' scratch = run config disassemble scratch := by
  constructor
  · intro text raw unified returned
    exact ⟨Chunk.split_of_returned unified returned, Entry.parseAll_of_returned unified returned⟩
  · intro σ disassemble disassemble' ends config scratch
    refine run_congr (fun jar classes => ?_) config scratch
    funext state
    exact (ends jar classes state).map_parseAll

theorem line_ends_do_not_matter_sample :
    let text : Text := "Compiled from \"A.java\"\npublic class A \x7b\r  int x;\n\x7d\n".toList
    let raw : Text :=
      "Compiled from \"A.java\"\r\npublic class A \x7b\r  int x;\n\x7d\r\n".toList
    let disassemble : Disassembler Unit := fun _ _ => pure text
    let disassemble' : Disassembler Unit := fun _ _ => pure raw
    text.IsUnified ∧ Returned text raw ∧
      (∀ jar classes state,
        EndsLines (disassemble jar classes state) (disassemble' jar classes state)) ∧
      Chunk.split raw = Chunk.split text ∧ Entry.parseAll raw = Entry.parseAll text ∧
      run ⟨"a.jar".toList, .jar, .print, 1⟩ disassemble' [] =
        run ⟨"a.jar".toList, .jar, .print, 1⟩ disassemble [] := by
  intro text raw disassemble disassemble'
  have unified : text.IsUnified := by decide +kernel
  have taken : Text.unifyLineEnds raw = text := by decide +kernel
  have returned : Returned text raw := taken ▸ Text.returned_unifyLineEnds raw
  have ends (jar : Path) (classes : List Text) (state : RunState Unit) :
      EndsLines (disassemble jar classes state) (disassemble' jar classes state) :=
    .printed unified returned state
  obtain ⟨texts, runs⟩ := line_ends_do_not_matter
  exact ⟨unified, returned, ends, (texts text raw unified returned).1,
    (texts text raw unified returned).2, runs Unit disassemble disassemble' ends _ []⟩

end Extraction

end ApiSurface
