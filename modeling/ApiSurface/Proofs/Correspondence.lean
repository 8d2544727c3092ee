import ApiSurface.Proofs.Effect

/-! Two actions side by side, each on a state of its own.  From states that correspond they come to
the same answer, or fail for like reasons, and leave states that correspond. -/

namespace ApiSurface

/-- States that agree on all but what the disassemblers keep. -/
structure RunState.Agree {σ τ : Type} (own : σ → τ → Prop) (state : RunState σ)
    (state' : RunState τ) : Prop where
  files : state.files = state'.files
  report : state.report = state'.report
  log : state.log = state'.log
  kept : own state.disassembler state'.disassembler

namespace Action

variable {σ τ α β : Type} {states : RunState σ → RunState τ → Prop}
  {failures weaker : Failure → Failure → Prop} {action : Action σ α} {action' : Action τ α}
  {state : RunState σ} {state' : RunState τ}

inductive Matches (states : RunState σ → RunState τ → Prop)
    (failures : Failure → Failure → Prop) :
    EStateM.Result Failure (RunState σ) α → EStateM.Result Failure (RunState τ) α → Prop where
  | ok {after : RunState σ} {after' : RunState τ} (value : α) (left : states after after') :
      Matches states failures (.ok value after) (.ok value after')
  | error {failure failure' : Failure} {after : RunState σ} {after' : RunState τ}
      (alike : failures failure failure') (left : states after after') :
      Matches states failures (.error failure after) (.error failure' after')

def Parallel (states : RunState σ → RunState τ → Prop) (failures : Failure → Failure → Prop)
    (action : Action σ α) (action' : Action τ α) : Prop :=
  ∀ ⦃state : RunState σ⦄ ⦃state' : RunState τ⦄, states state state' →
    Matches states failures (action state) (action' state')

theorem matches_iff {outcome : EStateM.Result Failure (RunState σ) α}
    {outcome' : EStateM.Result Failure (RunState τ) α} :
    Matches states failures outcome outcome' ↔
      (∃ value after after', outcome = .ok value after ∧ outcome' = .ok value after' ∧
        states after after') ∨
      ∃ failure failure' after after', outcome = .error failure after ∧
        outcome' = .error failure' after' ∧ failures failure failure' ∧ states after after' := by
  constructor
  · intro outcomes
    cases outcomes with
    | ok value left => exact .inl ⟨value, _, _, rfl, rfl, left⟩
    | error alike left => exact .inr ⟨_, _, _, _, rfl, rfl, alike, left⟩
  · rintro (⟨value, after, after', rfl, rfl, left⟩ | ⟨_, _, _, _, rfl, rfl, alike, left⟩)
    · exact .ok value left
    · exact .error alike left

theorem Matches.final (outcomes : Matches states failures (action state) (action' state')) :
    states (action.final state) (action'.final state') := by
  rcases matches_iff.mp outcomes with
    ⟨_, _, _, ran, ran', left⟩ | ⟨_, _, _, _, failed, failed', -, left⟩
  · rw [final_of_ok ran, final_of_ok ran']
    exact left
  · rw [final_of_error failed, final_of_error failed']
    exact left

theorem Matches.imp {wider : RunState σ → RunState τ → Prop}
    {outcome : EStateM.Result Failure (RunState σ) α}
    {outcome' : EStateM.Result Failure (RunState τ) α}
    (outcomes : Matches states failures outcome outcome')
    (included : ∀ {after after'}, states after after' → wider after after') :
    Matches wider failures outcome outcome' := by
  cases outcomes with
  | ok value left => exact .ok value (included left)
  | error alike left => exact .error alike (included left)

theorem Parallel.weaken (parallel : Parallel states failures action action')
    (included : ∀ failure failure', failures failure failure' → weaker failure failure') :
    Parallel states weaker action action' := by
  intro state state' together
  refine matches_iff.mpr ((matches_iff.mp (parallel together)).imp_right ?_)
  rintro ⟨failure, failure', after, after', failed, failed', alike, left⟩
  exact ⟨failure, failure', after, after', failed, failed', included _ _ alike, left⟩

theorem Matches.bind {next : α → Action σ β} {next' : α → Action τ β}
    (first : Matches states failures (action state) (action' state'))
    (later : ∀ {value after after'}, action state = .ok value after →
      action' state' = .ok value after' → states after after' →
      Matches states failures (next value after) (next' value after')) :
    Matches states failures ((action >>= next) state) ((action' >>= next') state') := by
  rcases matches_iff.mp first with
    ⟨value, after, after', ran, ran', left⟩ | ⟨_, _, _, _, failed, failed', alike, left⟩
  · rw [bind_of_ok _ ran, bind_of_ok _ ran']
    exact later ran ran' left
  · rw [bind_of_error _ failed, bind_of_error _ failed']
    exact .error alike left

theorem Parallel.bind {next : α → Action σ β} {next' : α → Action τ β}
    (first : Parallel states failures action action')
    (later : ∀ value, Parallel states failures (next value) (next' value)) :
    Parallel states failures (action >>= next) (action' >>= next') :=
  fun _ _ together => (first together).bind fun _ _ left => later _ left

/-- Questions that may be answered differently, in a way that what follows does not depend on. -/
theorem Parallel.ask?_bind (alike : Option α → Option α → Prop) {failure : Failure}
    {question : FileSystem → Except FileSystem.Fault α} {next : Option α → Action σ β}
    {next' : Option α → Action τ β} (fails : failures failure failure)
    (answers : ∀ ⦃state : RunState σ⦄ ⦃state' : RunState τ⦄, states state state' →
      (question state.files = .error .refused ∧ question state'.files = .error .refused) ∨
        ∃ answer answer', Answers (question state.files) answer ∧
          Answers (question state'.files) answer' ∧ alike answer answer')
    (later : ∀ answer answer', alike answer answer' →
      Parallel states failures (next answer) (next' answer')) :
    Parallel states failures (ask? failure question >>= next)
      (ask? failure question >>= next') := by
  intro state state' together
  rcases answers together with ⟨refused, refused'⟩ | ⟨answer, answer', asked, asked', same⟩
  · rw [bind_of_error next (ask?_eq_error_iff.mpr ⟨refused, rfl, rfl⟩),
      bind_of_error next' (ask?_eq_error_iff.mpr ⟨refused', rfl, rfl⟩)]
    exact .error fails together
  · rw [bind_of_ok next (ask?_eq_ok_iff.mpr ⟨asked, rfl⟩),
      bind_of_ok next' (ask?_eq_ok_iff.mpr ⟨asked', rfl⟩)]
    exact later answer answer' same together

theorem Parallel.pure (value : α) :
    Parallel states failures (pure value : Action σ α) (pure value : Action τ α) :=
  fun _ _ together => .ok value together

theorem Parallel.throw {failure failure' : Failure} (alike : failures failure failure') :
    Parallel states failures (throw failure : Action σ α) (throw failure' : Action τ α) :=
  fun _ _ together => .error alike together

theorem Parallel.forM {items : List β} {step : β → Action σ Unit} {step' : β → Action τ Unit}
    (each : ∀ item ∈ items, Parallel states failures (step item) (step' item)) :
    Parallel states failures (items.forM step) (items.forM step') := by
  induction items with
  | nil => exact .pure ()
  | cons item items induction =>
      obtain ⟨here, others⟩ := List.forall_mem_cons.mp each
      exact here.bind fun _ => induction others

theorem Parallel.ask {failure : Failure} {question : FileSystem → Except FileSystem.Fault α}
    (fails : failures failure failure)
    (same : ∀ ⦃state : RunState σ⦄ ⦃state' : RunState τ⦄, states state state' →
      question state.files = question state'.files) :
    Parallel states failures (ask failure question : Action σ α)
      (ask failure question : Action τ α) := by
  intro state state' together
  unfold Action.ask
  rw [bind_get, bind_get, same together]
  cases question state'.files with
  | ok answer => exact .ok answer together
  | error fault => exact .error fails together

theorem Parallel.ask? {failure : Failure} {question : FileSystem → Except FileSystem.Fault α}
    (fails : failures failure failure)
    (same : ∀ ⦃state : RunState σ⦄ ⦃state' : RunState τ⦄, states state state' →
      question state.files = question state'.files) :
    Parallel states failures (ask? failure question : Action σ (Option α))
      (ask? failure question : Action τ (Option α)) := by
  intro state state' together
  unfold Action.ask?
  rw [bind_get, bind_get, same together]
  cases question state'.files with
  | ok answer => exact .ok (some answer) together
  | error fault =>
      cases fault with
      | absent => exact .ok none together
      | refused => exact .error fails together

section

open RunState

variable {own : σ → τ → Prop}

theorem note_agree (event : Log.Event) :
    Parallel (Agree own) Eq (note event) (note event) :=
  fun _ _ agree =>
    .ok () ⟨agree.files, agree.report, congrArg (· ++ _) agree.log, agree.kept⟩

theorem write_agree (text : Text) : Parallel (Agree own) Eq (write text) (write text) :=
  fun _ _ agree =>
    .ok () ⟨agree.files, congrArg (· ++ _) agree.report, agree.log, agree.kept⟩

theorem createDirectories_agree (path : Path) :
    Parallel (Agree own) Eq (createDirectories path) (createDirectories path) := by
  intro state state' agree
  unfold createDirectories
  rw [bind_get, bind_get, agree.files]
  obtain ⟨result, files⟩ := state'.files.createDirectories path
  cases result with
  | ok => exact .ok () ⟨rfl, agree.report, agree.log, agree.kept⟩
  | error fault => exact .error rfl ⟨rfl, agree.report, agree.log, agree.kept⟩

theorem writeFile_agree (failure : FileSystem.WriteFault → Failure) (path : Path)
    (content : Bytes) :
    Parallel (Agree own) Eq (writeFile failure path content)
      (writeFile failure path content) := by
  intro state state' agree
  unfold writeFile
  rw [bind_get, bind_get, agree.files]
  obtain ⟨result, files⟩ := state'.files.write path content
  cases result with
  | ok => exact .ok () ⟨rfl, agree.report, agree.log, agree.kept⟩
  | error fault => exact .error rfl ⟨rfl, agree.report, agree.log, agree.kept⟩

theorem withScratch_agree {path : Path} {action : Action σ α} {action' : Action τ α}
    (parallel : Parallel (Agree own) Eq action action') :
    Parallel (Agree own) Eq (withScratch path action) (withScratch path action') := by
  intro state state' agree
  unfold withScratch
  rw [agree.files]
  cases state'.files.createDirectory path with
  | error fault => exact .error rfl agree
  | ok files =>
      have together : Agree own { state with files } { state' with files } :=
        ⟨rfl, agree.report, agree.log, agree.kept⟩
      dsimp only
      rcases matches_iff.mp (parallel together) with
        ⟨value, after, after', ran, ran', left⟩ |
        ⟨failure, _, after, after', failed, failed', rfl, left⟩
      · rw [ran, ran']
        dsimp only
        rw [left.files]
        cases after'.files.remove path with
        | ok files => exact .ok value ⟨rfl, left.report, left.log, left.kept⟩
        | error fault => exact .ok value left
      · rw [failed, failed']
        dsimp only
        rw [left.files]
        cases after'.files.remove path with
        | ok files => exact .error rfl ⟨rfl, left.report, left.log, left.kept⟩
        | error fault => exact .error rfl left

end

end Action

end ApiSurface
