import ApiSurface.Action
import Mathlib.Tactic.Common

namespace ApiSurface

namespace Action

variable {σ α β : Type} {state after : RunState σ}

theorem bind_eq_ok_iff {first : Action σ α} {next : α → Action σ β} {answer : β} :
    (first >>= next) state = .ok answer after ↔
      ∃ value middle, first state = .ok value middle ∧ next value middle = .ok answer after := by
  change EStateM.bind first next state = .ok answer after ↔ _
  rw [EStateM.bind]
  cases first state <;> simp

theorem bind_eq_error_iff {first : Action σ α} {next : α → Action σ β} {failure : Failure} :
    (first >>= next) state = .error failure after ↔
      first state = .error failure after ∨
        ∃ value middle, first state = .ok value middle ∧
          next value middle = .error failure after := by
  change EStateM.bind first next state = .error failure after ↔ _
  rw [EStateM.bind]
  cases first state <;> simp

theorem bind_pure_eq_error_iff {action : Action σ α} {finish : α → β} {failure : Failure} :
    (action >>= fun value => pure (finish value)) state = .error failure after ↔
      action state = .error failure after := by
  rw [bind_eq_error_iff]
  apply or_iff_left
  rintro ⟨value, middle, -, failed⟩
  cases failed

theorem bind_of_ok {first : Action σ α} {value : α} (next : α → Action σ β)
    (ran : first state = .ok value after) : (first >>= next) state = next value after := by
  change EStateM.bind first next state = _
  rw [EStateM.bind, ran]

theorem bind_of_error {first : Action σ α} {failure : Failure} (next : α → Action σ β)
    (failed : first state = .error failure after) :
    (first >>= next) state = .error failure after :=
  bind_eq_error_iff.mpr (.inl failed)

theorem bind_congr {first : Action σ α} {other : RunState σ} (next : α → Action σ β)
    (same : first state = first other) : (first >>= next) state = (first >>= next) other := by
  change EStateM.bind first next state = EStateM.bind first next other
  rw [EStateM.bind, EStateM.bind, same]

theorem ne_ok_of_run_eq_none {action : Action σ α} (failed : action.run' state = none)
    (answer : α) (after : RunState σ) : action state ≠ .ok answer after := by
  intro ran
  delta EStateM.run' EStateM.run at failed
  rw [ran] at failed
  cases failed

theorem exists_error_iff {action : Action σ α} :
    (∃ failure after, action state = .error failure after) ↔
      ¬ ∃ value after, action state = .ok value after := by
  cases action state <;> simp

theorem fail_together {first second : Action σ α}
    (succeeds : (∃ value after, second state = .ok value after) ↔
      ∃ value after, first state = .ok value after) :
    ((∃ failure after, first state = .error failure after) ∧
        ∃ failure after, second state = .error failure after) ∨
      ∃ value after value' after', first state = .ok value after ∧
        second state = .ok value' after' := by
  by_cases through : ∃ value after, first state = .ok value after
  · obtain ⟨value, after, ran⟩ := through
    obtain ⟨value', after', ran'⟩ := succeeds.mpr ⟨value, after, ran⟩
    exact .inr ⟨value, after, value', after', ran, ran'⟩
  · exact .inl ⟨exists_error_iff.mpr through, exists_error_iff.mpr (mt succeeds.mp through)⟩

theorem pure_eq_ok_iff {value answer : α} :
    (pure value : Action σ α) state = .ok answer after ↔ answer = value ∧ after = state := by
  change EStateM.Result.ok value state = .ok answer after ↔ _
  simp [@eq_comm _ value, @eq_comm _ state]

theorem forM_cons_eq_ok_iff {item : β} {items : List β} {step : β → Action σ Unit}
    {answer : Unit} :
    (item :: items).forM step state = .ok answer after ↔
      ∃ middle, step item state = .ok () middle ∧ items.forM step middle = .ok answer after := by
  change (step item >>= fun _ => items.forM step) state = .ok answer after ↔ _
  exact bind_eq_ok_iff.trans ⟨fun ⟨_, ran⟩ => ran, fun ran => ⟨(), ran⟩⟩

theorem bind_get (next : RunState σ → Action σ α) :
    (get >>= next) state = next state state := rfl

theorem bind_set (middle : RunState σ) (next : PUnit → Action σ α) :
    (set middle >>= next) state = next ⟨⟩ middle := rfl

theorem write_apply (text : Text) (state : RunState σ) :
    write text state = .ok () { state with report := state.report ++ text } := rfl

theorem bind_write (text : Text) (next : Unit → Action σ α) :
    (write text >>= next) state = next () { state with report := state.report ++ text } := rfl

theorem note_eq_ok_iff {event : Log.Event} {answer : Unit} :
    note event state = .ok answer after ↔
      answer = () ∧ after = { state with log := state.log ++ [event] } := by
  change EStateM.Result.ok () _ = .ok answer after ↔ _
  simp [@eq_comm _ _ after]

theorem ask_of_ok {question : FileSystem → Except FileSystem.Fault α} {answer : α}
    (failure : Failure) (answered : question state.files = .ok answer) :
    ask failure question state = .ok answer state := by
  unfold ask
  rw [bind_get, answered]
  rfl

/-- An answer to a question that takes absence for an answer. -/
def Answers (asked : Except FileSystem.Fault α) : Option α → Prop
  | some answer => asked = .ok answer
  | none => asked = .error .absent

theorem ask?_eq_ok_iff {failure : Failure}
    {question : FileSystem → Except FileSystem.Fault α} {answer : Option α} :
    ask? failure question state = .ok answer after ↔
      Answers (question state.files) answer ∧ after = state := by
  unfold ask?
  rw [bind_get]
  cases question state.files with
  | ok held =>
      rw [pure_eq_ok_iff]
      cases answer <;> simp [Answers, @eq_comm _ held]
  | error fault =>
      cases fault with
      | absent =>
          rw [pure_eq_ok_iff]
          cases answer <;> simp [Answers]
      | refused =>
          change EStateM.Result.error failure state = .ok answer after ↔ _
          cases answer <;> simp [Answers]

theorem ask?_eq_error_iff {given failure : Failure}
    {question : FileSystem → Except FileSystem.Fault α} :
    ask? given question state = .error failure after ↔
      question state.files = .error .refused ∧ failure = given ∧ after = state := by
  have answer (value : Option α) :
      (pure value : Action σ (Option α)) state ≠ .error failure after := fun same => by cases same
  unfold ask?
  rw [bind_get]
  cases question state.files with
  | ok held => simp [answer]
  | error fault =>
      cases fault with
      | absent => simp [answer]
      | refused =>
          change EStateM.Result.error given state = .error failure after ↔ _
          simp [@eq_comm _ given, @eq_comm _ state]

theorem createDirectories_eq_ok_iff {path : Path} {answer : Unit} :
    createDirectories path state = .ok answer after ↔
      ∃ files, state.files.createDirectories path = (.ok (), files) ∧
        after = { state with files } := by
  unfold createDirectories
  rw [bind_get]
  obtain ⟨result, files⟩ := state.files.createDirectories path
  dsimp only
  rw [bind_set]
  cases result with
  | ok =>
      rw [pure_eq_ok_iff]
      simp
  | error fault =>
      change EStateM.Result.error _ _ = .ok answer after ↔ _
      simp

theorem createDirectories_eq_error_iff {path : Path} {failure : Failure} :
    createDirectories path state = .error failure after ↔
      ∃ fault files, state.files.createDirectories path = (.error fault, files) ∧
        failure = .system .createDirectory path ∧ after = { state with files } := by
  unfold createDirectories
  rw [bind_get]
  obtain ⟨result, files⟩ := state.files.createDirectories path
  dsimp only
  rw [bind_set]
  cases result with
  | ok =>
      change EStateM.Result.ok _ _ = .error failure after ↔ _
      simp
  | error fault =>
      change EStateM.Result.error _ _ = .error failure after ↔ _
      simp [@eq_comm _ failure, @eq_comm _ after]

theorem writeFile_eq_ok_iff {failure : FileSystem.WriteFault → Failure} {path : Path}
    {content : Bytes} {answer : Unit} :
    writeFile failure path content state = .ok answer after ↔
      ∃ files, state.files.write path content = (.ok (), files) ∧
        after = { state with files } := by
  unfold writeFile
  rw [bind_get]
  obtain ⟨result, files⟩ := state.files.write path content
  dsimp only
  rw [bind_set]
  cases result with
  | ok =>
      rw [pure_eq_ok_iff]
      simp
  | error fault =>
      change EStateM.Result.error _ _ = .ok answer after ↔ _
      simp

theorem withScratch_of_refused {path : Path} {fault : FileSystem.Fault} (action : Action σ α)
    (refused : state.files.createDirectory path = .error fault) :
    withScratch path action state = .error (.system .createScratch path) state := by
  unfold withScratch
  rw [refused]

theorem withScratch_of_ok {path : Path} {action : Action σ α} {made files : FileSystem}
    {answer : α} (created : state.files.createDirectory path = .ok made)
    (ran : action { state with files := made } = .ok answer after)
    (removed : after.files.remove path = .ok files) :
    withScratch path action state = .ok answer { after with files } := by
  simp only [withScratch, created, ran, removed]

theorem withScratch_of_error {path : Path} {action : Action σ α} {made files : FileSystem}
    {failure : Failure} (created : state.files.createDirectory path = .ok made)
    (failed : action { state with files := made } = .error failure after)
    (removed : after.files.remove path = .ok files) :
    withScratch path action state = .error failure { after with files } := by
  simp only [withScratch, created, failed, removed]

end Action

end ApiSurface
