import ApiSurface.Proofs.Action
import Mathlib.Order.Defs.Unbundled

/-! What an action does to the files, whether it succeeds or fails on the way. -/

namespace ApiSurface

namespace Action

variable {σ α β : Type} {relation : FileSystem → FileSystem → Prop} {action : Action σ α}
  {next : α → Action σ β}

/-- The state that an action leaves, whatever its outcome. -/
def final (action : Action σ α) (state : RunState σ) : RunState σ :=
  match action state with
  | .ok _ after => after
  | .error _ after => after

/-- What an action gives, or why it fails. -/
def answer (action : Action σ α) (state : RunState σ) : Except Failure α :=
  match action state with
  | .ok value _ => .ok value
  | .error failure _ => .error failure

theorem final_of_ok {state after : RunState σ} {answer : α}
    (ran : action state = .ok answer after) : action.final state = after := by
  rw [final, ran]

theorem final_of_error {state after : RunState σ} {failure : Failure}
    (failed : action state = .error failure after) : action.final state = after := by
  rw [final, failed]

theorem final_congr {state other : RunState σ} (same : action state = action other) :
    action.final state = action.final other := by
  rw [final, final, same]

theorem answer_eq_ok_iff {state : RunState σ} {value : α} :
    action.answer state = .ok value ↔ ∃ after, action state = .ok value after := by
  unfold answer
  cases action state <;> simp

theorem answer_eq_error_iff {state : RunState σ} {failure : Failure} :
    action.answer state = .error failure ↔ ∃ after, action state = .error failure after := by
  unfold answer
  cases action state <;> simp

theorem final_bind (action : Action σ α) (next : α → Action σ β) (state : RunState σ) :
    (action >>= next).final state =
      match action state with
      | .ok value middle => (next value).final middle
      | .error _ middle => middle := by
  change (match EStateM.bind action next state with
    | .ok _ after => after
    | .error _ after => after) = _
  rw [EStateM.bind]
  cases action state with
  | ok value middle => rfl
  | error failure middle => rfl

theorem answer_bind_pure {state : RunState σ} (action : Action σ α) (finish : α → β) :
    (action >>= fun value => pure (finish value)).answer state =
      (action.answer state).map finish := by
  unfold answer
  cases ran : action state with
  | ok value after => rw [bind_of_ok _ ran]; rfl
  | error failure after => rw [bind_of_error _ ran]; rfl

/-- The files that an action leaves are so related to those that it found. -/
def Leaves (relation : FileSystem → FileSystem → Prop) (action : Action σ α) : Prop :=
  ∀ state, relation state.files (action.final state).files

theorem Leaves.bind [IsTrans FileSystem relation] (first : Leaves relation action)
    (later : ∀ value, Leaves relation (next value)) : Leaves relation (action >>= next) := by
  intro state
  have here := first state
  rw [final_bind]
  unfold final at here
  cases ran : action state with
  | ok value middle =>
      rw [ran] at here
      exact IsTrans.trans _ _ _ here (later value middle)
  | error failure middle =>
      rw [ran] at here
      exact here

section

variable [Std.Refl relation]

theorem Leaves.pure (value : α) : Leaves relation (pure value : Action σ α) :=
  fun state => Std.Refl.refl state.files

theorem Leaves.get : Leaves relation (get : Action σ (RunState σ)) :=
  fun state => Std.Refl.refl state.files

theorem Leaves.note (event : Log.Event) : Leaves relation (note event : Action σ Unit) :=
  fun state => Std.Refl.refl state.files

theorem Leaves.write (text : Text) : Leaves relation (write text : Action σ Unit) :=
  fun state => Std.Refl.refl state.files

theorem Leaves.ask? (failure : Failure)
    (question : FileSystem → Except FileSystem.Fault α) :
    Leaves relation (ask? failure question : Action σ (Option α)) := by
  intro state
  unfold Action.ask? final
  rw [bind_get]
  cases question state.files with
  | ok answer => exact Std.Refl.refl state.files
  | error fault => cases fault <;> exact Std.Refl.refl state.files

theorem Leaves.forM [IsTrans FileSystem relation] {step : β → Action σ Unit} {items : List β}
    (each : ∀ item ∈ items, Leaves relation (step item)) :
    Leaves relation (items.forM step) := by
  induction items with
  | nil => exact .pure ()
  | cons item items induction =>
      obtain ⟨here, others⟩ := List.forall_mem_cons.mp each
      exact here.bind fun _ => induction others

end

theorem final_createDirectories (path : Path) (state : RunState σ) :
    (createDirectories path).final state =
      { state with files := (state.files.createDirectories path).2 } := by
  unfold createDirectories final
  rw [bind_get]
  obtain ⟨result, files⟩ := state.files.createDirectories path
  cases result <;> rfl

theorem Leaves.createDirectories {path : Path}
    (creates : ∀ files : FileSystem, relation files (files.createDirectories path).2) :
    Leaves relation (createDirectories path : Action σ Unit) := by
  intro state
  rw [final_createDirectories]
  exact creates state.files

theorem final_writeFile (failure : FileSystem.WriteFault → Failure) (path : Path)
    (content : Bytes) (state : RunState σ) :
    (writeFile failure path content).final state =
      { state with files := (state.files.write path content).2 } := by
  unfold writeFile final
  rw [bind_get]
  obtain ⟨result, files⟩ := state.files.write path content
  cases result <;> rfl

theorem Leaves.writeFile {failure : FileSystem.WriteFault → Failure} {path : Path}
    {content : Bytes}
    (writes : ∀ files : FileSystem, relation files (files.write path content).2) :
    Leaves relation (writeFile failure path content : Action σ Unit) := by
  intro state
  rw [final_writeFile]
  exact writes state.files

theorem final_withScratch_of_refused {path : Path} {fault : FileSystem.Fault}
    (action : Action σ α) {state : RunState σ}
    (refused : state.files.createDirectory path = .error fault) :
    (withScratch path action).final state = state :=
  final_of_error (withScratch_of_refused action refused)

theorem disassembler_final_withScratch {path : Path} {made : FileSystem} (action : Action σ α)
    {state : RunState σ} (created : state.files.createDirectory path = .ok made) :
    ((withScratch path action).final state).disassembler =
      (action.final { state with files := made }).disassembler := by
  unfold final withScratch
  rw [created]
  dsimp only
  cases action { state with files := made } with
  | ok value after =>
      dsimp only
      cases after.files.remove path <;> rfl
  | error failure after =>
      dsimp only
      cases after.files.remove path <;> rfl

def Preserves (invariant : RunState σ → Prop) (action : Action σ α) : Prop :=
  ∀ ⦃state⦄, invariant state → invariant (action.final state)

section

variable {invariant : RunState σ → Prop}

theorem Preserves.bind (first : Preserves invariant action)
    (later : ∀ value, Preserves invariant (next value)) :
    Preserves invariant (action >>= next) := by
  intro state holds
  have here := first holds
  rw [final_bind]
  unfold final at here
  cases ran : action state with
  | ok value middle =>
      rw [ran] at here
      exact later value here
  | error failure middle =>
      rw [ran] at here
      exact here

theorem Preserves.pure (value : α) : Preserves invariant (pure value : Action σ α) :=
  fun _ holds => holds

theorem Preserves.throw (failure : Failure) :
    Preserves invariant (throw failure : Action σ α) :=
  fun _ holds => holds

theorem Preserves.ask (failure : Failure) (question : FileSystem → Except FileSystem.Fault α) :
    Preserves invariant (ask failure question : Action σ α) := by
  intro state holds
  unfold Action.ask final
  rw [bind_get]
  cases question state.files with
  | ok answer => exact holds
  | error fault => exact holds

theorem Preserves.writeFile {failure : FileSystem.WriteFault → Failure} {path : Path}
    {content : Bytes}
    (writes : ∀ state, invariant state →
      invariant { state with files := (state.files.write path content).2 }) :
    Preserves invariant (writeFile failure path content : Action σ Unit) := by
  intro state holds
  rw [final_writeFile]
  exact writes state holds

theorem Preserves.createDirectories {path : Path}
    (creates : ∀ state, invariant state →
      invariant { state with files := (state.files.createDirectories path).2 }) :
    Preserves invariant (createDirectories path : Action σ Unit) := by
  intro state holds
  rw [final_createDirectories]
  exact creates state holds

theorem Preserves.forM {step : β → Action σ Unit} {items : List β}
    (each : ∀ item ∈ items, Preserves invariant (step item)) :
    Preserves invariant (items.forM step) := by
  induction items with
  | nil => exact .pure ()
  | cons item items induction =>
      obtain ⟨here, others⟩ := List.forall_mem_cons.mp each
      exact here.bind fun _ => induction others

end

end Action

end ApiSurface
