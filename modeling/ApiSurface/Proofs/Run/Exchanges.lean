import ApiSurface.Proofs.Effect
import ApiSurface.Proofs.Run.Batches

/-! What a disassembler is asked for classes, and what it answers.  Whoever listens in hears a
question for each batch, one behind another, up to the first that fails. -/

namespace ApiSurface

/-- A question to a disassembler, with the text that it prints or the reason why it fails. -/
structure Exchange where
  jar : Path
  classes : List Text
  answer : Except Failure Text

namespace Extraction

open ApiSurface.Action

variable {α β σ : Type} {disassemble : Disassembler σ} {jar : Path} {batch : List Text}
  {all : List (List Text)} {heard : List Exchange} {outcome : Except Failure (List Entry)}
  {state after : RunState σ}

def hearing (heard : List Exchange) (state : RunState σ) : RunState (σ × List Exchange) :=
  ⟨state.files, state.report, state.log, (state.disassembler, heard)⟩

def unheard (state : RunState (σ × List Exchange)) : RunState σ :=
  ⟨state.files, state.report, state.log, state.disassembler.1⟩

/-- An outcome for one who has heard so much by then. -/
def outcomeHearing (heard : List Exchange) :
    EStateM.Result Failure (RunState σ) α →
      EStateM.Result Failure (RunState (σ × List Exchange)) α
  | .ok value after => .ok value (hearing heard after)
  | .error failure after => .error failure (hearing heard after)

/-- A disassembler that does the same, while all that it is asked and answers is written down. -/
def overheard (disassemble : Disassembler σ) : Disassembler (σ × List Exchange) :=
  fun jar classes state =>
    let answer := (disassemble jar classes).answer (unheard state)
    outcomeHearing (state.disassembler.2 ++ [⟨jar, classes, answer⟩])
      (disassemble jar classes (unheard state))

/-- What is heard while the entries of classes are read. -/
def exchanges (disassemble : Disassembler σ) (jar : Path) (classes : List Text) (batchSize : Nat)
    (before : RunState σ) : List Exchange :=
  ((entries (overheard disassemble) jar classes batchSize).final
    (hearing [] before)).disassembler.2

/-- Batches are asked for in turn, and what is printed for them is read.  The first failure ends
it. -/
inductive AskedInTurn (jar : Path) :
    List (List Text) → List Exchange → Except Failure (List Entry) → Prop
  | nil : AskedInTurn jar [] [] (.ok [])
  | answered {batch : List Text} {rest : List (List Text)} {later : List Exchange}
      {outcome : Except Failure (List Entry)} (text : Text)
      (inTurn : AskedInTurn jar rest later outcome) :
      AskedInTurn jar (batch :: rest) (⟨jar, batch, .ok text⟩ :: later)
        (outcome.map (Entry.parseAll text ++ ·))
  | failed {batch : List Text} {rest : List (List Text)} (failure : Failure) :
      AskedInTurn jar (batch :: rest) [⟨jar, batch, .error failure⟩] (.error failure)

theorem overheard_hearing (disassemble : Disassembler σ) (jar : Path) (batch : List Text)
    (heard : List Exchange) (state : RunState σ) :
    overheard disassemble jar batch (hearing heard state) =
      outcomeHearing (heard ++ [⟨jar, batch, (disassemble jar batch).answer state⟩])
        (disassemble jar batch state) :=
  rfl

theorem bind_pure_hearing {action : Action σ α} {action' : Action (σ × List Exchange) α}
    {state' : RunState (σ × List Exchange)} (finish : α → β)
    (same : action' state' = outcomeHearing heard (action state)) :
    (action' >>= fun value => pure (finish value)) state' =
      outcomeHearing heard ((action >>= fun value => pure (finish value)) state) := by
  cases ran : action state with
  | ok value after =>
      rw [ran] at same
      rw [bind_of_ok _ ran, bind_of_ok _ same]
      rfl
  | error failure after =>
      rw [ran] at same
      rw [bind_of_error _ ran, bind_of_error _ same]
      rfl

theorem disassembleAll_of_answered {text : Text} (index : Nat) (all : List (List Text))
    (answered : disassemble jar batch state = .ok text after) :
    disassembleAll disassemble jar index (batch :: all) state =
      (disassembleAll disassemble jar (index + 1) all >>= fun later =>
        pure (Entry.parseAll text ++ later))
        { after with
          log := after.log ++ [.parsed index batch.length (Entry.parseAll text).length] } :=
  (bind_of_ok _ answered).trans (bind_of_ok _ rfl)

/-- To listen in changes nothing, and what is heard are questions for the batches in turn. -/
theorem disassembleAll_overheard (disassemble : Disassembler σ) (jar : Path) (index : Nat)
    (all : List (List Text)) (state : RunState σ) (heard : List Exchange) :
    ∃ later, AskedInTurn jar all later ((disassembleAll disassemble jar index all).answer state) ∧
      disassembleAll (overheard disassemble) jar index all (hearing heard state) =
        outcomeHearing (heard ++ later) (disassembleAll disassemble jar index all state) := by
  induction all generalizing index state heard with
  | nil =>
      refine ⟨[], .nil, ?_⟩
      rw [List.append_nil]
      rfl
  | cons batch rest induction =>
      cases asked : disassemble jar batch state with
      | error failure after =>
          have failed : disassembleAll disassemble jar index (batch :: rest) state =
              .error failure after := bind_of_error _ asked
          have listened := overheard_hearing disassemble jar batch heard state
          rw [Action.answer, asked] at listened
          refine ⟨[⟨jar, batch, .error failure⟩], ?_, ?_⟩
          · rw [Action.answer, failed]
            exact .failed failure
          · rw [failed]
            exact bind_of_error _ listened
      | ok text after =>
          let middle : RunState σ := { after with
            log := after.log ++ [.parsed index batch.length (Entry.parseAll text).length] }
          obtain ⟨later, inTurn, ran⟩ :=
            induction (index + 1) middle (heard ++ [⟨jar, batch, .ok text⟩])
          have listened := overheard_hearing disassemble jar batch heard state
          rw [Action.answer, asked] at listened
          have plain := disassembleAll_of_answered index rest asked
          have listening := disassembleAll_of_answered index rest listened
          refine ⟨⟨jar, batch, .ok text⟩ :: later, ?_, ?_⟩
          · have mapped : (disassembleAll disassemble jar index (batch :: rest)).answer state =
                ((disassembleAll disassemble jar (index + 1) rest).answer middle).map
                  (Entry.parseAll text ++ ·) := by
              rw [← answer_bind_pure, Action.answer, plain]
              rfl
            rw [mapped]
            exact .answered text inTurn
          · rw [List.append_cons, listening, plain]
            exact bind_pure_hearing _ ran

theorem AskedInTurn.classes_prefix (inTurn : AskedInTurn jar all heard outcome) :
    heard.map Exchange.classes <+: all := by
  induction inTurn with
  | nil => exact List.prefix_refl []
  | answered text inTurn induction => exact List.cons_prefix_cons.mpr ⟨rfl, induction⟩
  | failed failure => exact List.prefix_append [_] _

theorem AskedInTurn.jar_eq (inTurn : AskedInTurn jar all heard outcome) :
    ∀ exchange ∈ heard, exchange.jar = jar := by
  induction inTurn with
  | nil => exact List.forall_mem_nil _
  | answered text inTurn induction => exact List.forall_mem_cons.mpr ⟨rfl, induction⟩
  | failed failure => exact List.forall_mem_singleton.mpr rfl

theorem AskedInTurn.outcome_cases (inTurn : AskedInTurn jar all heard outcome) :
    (∃ texts : List Text, heard.map Exchange.answer = texts.map .ok ∧
      heard.map Exchange.classes = all ∧ outcome = .ok (texts.flatMap Entry.parseAll)) ∨
    ∃ (texts : List Text) (failure : Failure),
      heard.map Exchange.answer = texts.map .ok ++ [.error failure] ∧
        outcome = .error failure := by
  induction inTurn with
  | nil => exact .inl ⟨[], rfl, rfl, rfl⟩
  | answered text inTurn induction =>
      rcases induction with ⟨texts, answers, classes, rfl⟩ | ⟨texts, failure, answers, rfl⟩
      · refine .inl ⟨text :: texts, congrArg (Except.ok text :: ·) answers, ?_, rfl⟩
        exact congrArg (_ :: ·) classes
      · exact .inr ⟨text :: texts, failure, congrArg (Except.ok text :: ·) answers, rfl⟩
  | failed failure => exact .inr ⟨[], failure, rfl, rfl⟩

theorem entries_overheard (disassemble : Disassembler σ) (jar : Path) (classes : List Text)
    (batchSize : Nat) (before : RunState σ) :
    let heard := exchanges disassemble jar classes batchSize before
    AskedInTurn jar (batches batchSize classes) heard
        ((entries disassemble jar classes batchSize).answer before) ∧
      entries (overheard disassemble) jar classes batchSize (hearing [] before) =
        outcomeHearing heard (entries disassemble jar classes batchSize before) := by
  obtain ⟨later, inTurn, ran⟩ :=
    disassembleAll_overheard disassemble jar 0 (batches batchSize classes) before []
  have heard : exchanges disassemble jar classes batchSize before = later := by
    rw [exchanges, entries, Action.final, ran]
    cases disassembleAll disassemble jar 0 (batches batchSize classes) before <;> rfl
  rw [heard]
  exact ⟨inTurn, ran⟩

/-- Nothing changes when someone listens in.  Every class is asked for once and in order, up to the
first call that fails.  No call is for nothing or for more than a batch holds, and none but the last
batch is smaller.  Either all calls are answered, and the entries are those of all texts in turn, or
the last call fails, and so does the whole. -/
theorem classes_asked_once (disassemble : Disassembler σ) (jar : Path) (classes : List Text)
    (batchSize : Nat) (before : RunState σ) :
    let size := max batchSize 1
    let heard := exchanges disassemble jar classes batchSize before
    let outcome := (entries disassemble jar classes batchSize).answer before
    entries (overheard disassemble) jar classes batchSize (hearing [] before) =
      outcomeHearing heard (entries disassemble jar classes batchSize before) ∧
    heard.flatMap Exchange.classes <+: classes ∧
    (∀ index exchange, heard[index]? = some exchange →
      exchange.jar = jar ∧ exchange.classes ≠ [] ∧ exchange.classes.length ≤ size ∧
        (index + 1 < classes.length ⌈/⌉ size → exchange.classes.length = size)) ∧
    ((∃ texts : List Text, heard.map Exchange.answer = texts.map .ok ∧
        heard.flatMap Exchange.classes = classes ∧ heard.length = classes.length ⌈/⌉ size ∧
        outcome = .ok (texts.flatMap Entry.parseAll)) ∨
      ∃ (texts : List Text) (failure : Failure),
        heard.map Exchange.answer = texts.map .ok ++ [.error failure] ∧
          outcome = .error failure) := by
  intro size heard outcome
  obtain ⟨inTurn, unchanged⟩ := entries_overheard disassemble jar classes batchSize before
  obtain ⟨left, split⟩ := inTurn.classes_prefix
  have whole := flatten_batches batchSize classes
  refine ⟨unchanged, ?_, fun index exchange found => ?_, ?_⟩
  · rw [← whole, ← split, List.flatten_append, List.flatMap_def]
    exact List.prefix_append _ _
  · have asked : (batches batchSize classes)[index]? = some exchange.classes := by
      have here : (heard.map Exchange.classes)[index]? = some exchange.classes := by
        rw [List.getElem?_map, found, Option.map_some]
      rw [← split, List.getElem?_append_left (List.getElem?_eq_some_iff.mp here).1, here]
    exact ⟨inTurn.jar_eq exchange (List.mem_of_getElem? found), bounds_of_getElem?_batches asked⟩
  · refine inTurn.outcome_cases.imp_left fun ⟨texts, answers, all, entries⟩ => ?_
    refine ⟨texts, answers, ?_, ?_, entries⟩
    · rw [List.flatMap_def, all, whole]
    · rw [← length_batches, ← all, List.length_map]

end Extraction

end ApiSurface
