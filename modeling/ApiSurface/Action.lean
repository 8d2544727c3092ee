import ApiSurface.Failure
import ApiSurface.Files.FileSystem
import ApiSurface.Log.Event

/-!
What a run does is an action on its state: the files, the report written so far, the events noted
so far, and whatever the disassembler keeps for itself.  A failed action leaves the state as
it was when it failed.
-/

namespace ApiSurface

structure RunState (σ : Type) where
  files : FileSystem
  report : Text
  log : List Log.Event
  disassembler : σ

abbrev Action (σ α : Type) := EStateM Failure (RunState σ) α

namespace Action

variable {σ α : Type}

/-- Adds to the report.  Whoever takes the report is assumed to take all of it. -/
def write (text : Text) : Action σ Unit :=
  modify fun state => { state with report := state.report ++ text }

def note (event : Log.Event) : Action σ Unit :=
  modify fun state => { state with log := state.log ++ [event] }

/-- A question to the file system.  If it has no answer, the action fails with `failure`. -/
def ask (failure : Failure)
    (question : FileSystem → Except FileSystem.Fault α) : Action σ α := do
  let state ← get
  match question state.files with
  | .ok answer => pure answer
  | .error _ => throw failure

/-- A question whose answer may also be that something is absent. -/
def ask? (failure : Failure)
    (question : FileSystem → Except FileSystem.Fault α) : Action σ (Option α) := do
  let state ← get
  match question state.files with
  | .ok answer => pure (some answer)
  | .error .absent => pure none
  | .error .refused => throw failure

def createDirectories (path : Path) : Action σ Unit := do
  let state ← get
  let (result, files) := state.files.createDirectories path
  set { state with files }
  match result with
  | .ok () => pure ()
  | .error _ => throw (.system .createDirectory path)

/-- Writes a file.  What a write that fails has stored already stays. -/
def writeFile (failure : FileSystem.WriteFault → Failure) (path : Path) (content : Bytes) :
    Action σ Unit := do
  let state ← get
  let (result, files) := state.files.write path content
  set { state with files }
  match result with
  | .ok () => pure ()
  | .error fault => throw (failure fault)

/-- Runs an action with a fresh directory at `path`, which is gone afterwards whatever the
outcome. -/
def withScratch (path : Path) (action : Action σ α) : Action σ α := fun state =>
  let dismiss (after : RunState σ) : RunState σ :=
    match after.files.remove path with
    | .ok files => { after with files }
    | .error _ => after
  match state.files.createDirectory path with
  | .error _ => .error (.system .createScratch path) state
  | .ok files =>
      match action { state with files } with
      | .ok answer after => .ok answer (dismiss after)
      | .error failure after => .error failure (dismiss after)

end Action

end ApiSurface
