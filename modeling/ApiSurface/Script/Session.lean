import ApiSurface.Script.Pattern
import ApiSurface.Script.Syntax
import ApiSurface.Host.Machine

/-!
The state of a shell that runs a script, and the steps that a shell is made of.  A step may stop the
shell, and leaves the state as it is then.
-/

namespace ApiSurface

namespace Script

open Host (Machine Descriptors Ending)

structure Variable where
  value : Option Text
  exported : Bool := false
  fixed : Bool := false
deriving DecidableEq, Repr

structure Options where
  stopsOnFailure : Bool := false
  refusesUnset : Bool := false
  traces : Bool := false
  ignoresPatterns : Bool := false
  runsNothing : Bool := false
  exportsAll : Bool := false
  keepsFiles : Bool := false
  echoesInput : Bool := false
  readsInput : Bool := false
deriving DecidableEq, Repr

inductive Skip where
  | nothing
  | leaveLoops (count : Nat)
  | nextRound (count : Nat)
  | leaveFunction
deriving DecidableEq, Repr

structure Shell where
  name : Text
  arguments : List Text
  bindings : List (Text × Variable) := []
  functions : List (Text × Command) := []
  aliases : List (Text × Text) := []
  documents : List (Nat × Document) := []
  nextDocument : Nat := 0
  options : Options := {}
  status : Nat := 0
  /-- The status of the latest command whose output was taken. -/
  outputStatus : Nat := 0
  line : Nat := 1
  lineRead : Nat := 1
  command : Option Text := none
  descriptors : Descriptors
  directory : Path
  loops : Nat := 0
  functionDepth : Nat := 0
  skip : Skip := .nothing
  /-- What is done on a signal.  The signal zero is the end of the shell. -/
  traps : List (Nat × Text) := []
  pending : List Nat := []
  /-- The status with which the shell ends, once that is settled. -/
  exitStatus : Option Nat := none
  /-- For each scope, the variables it has changed as they were before. -/
  scopes : List (List (Text × Option Variable)) := []
  savedOptions : List (Option Options) := []
  process : Nat
  ownProcess : Nat
  latestJob : Option Nat := none
  /-- The programs that were searched for, and where they were found. -/
  searched : List (Text × Text) := []
  optionIndex : Nat := 1
  optionOffset : Option Nat := none
  mask : Nat := 0o022
  /-- How much the programs it starts may write into a file, in bytes. -/
  fileBytes : Option Nat := none

structure Job where
  process : Nat
  task : Option (Command × Shell)
  ending : Option Ending := none

structure Session where
  machine : Machine
  shell : Shell
  jobs : List Job := []

inductive Stop where
  | exit
  | failure
  | killed (signal : Nat)
deriving DecidableEq, Repr

abbrev Run := EStateM Stop Session

namespace Run

def host {α : Type} (act : Host.Act α) : Run α := do
  let session ← get
  let (result, machine) := act session.machine
  set { session with machine }
  pure result

def shell : Run Shell := do
  pure (← get).shell

def change (f : Shell → Shell) : Run Unit :=
  modify fun session => { session with shell := f session.shell }

def setStatus (status : Nat) : Run Unit :=
  change fun shell => { shell with status }

def printTo (descriptor : Nat) (text : Text) : Run Bool := do
  match (← shell).descriptors.lookup descriptor with
  | none => pure text.isEmpty
  | some stream =>
      match ← host (Host.write stream text) with
      | .ok () => pure true
      | .error _ => pure false

def warn (message : Text) : Run Unit := do
  let shell ← shell
  let command := (shell.command.map fun name => name ++ ": ".toList).getD []
  let _ ← printTo 2
    (shell.name ++ ": ".toList ++ showNat shell.line ++ ": ".toList ++ command ++ message ++ ['\n'])

def fail {α : Type} (message : Text) : Run α := do
  warn message
  setStatus 2
  throw .failure

def tick : Run Unit := do
  let session ← get
  match session.machine.patience with
  | 0 => throw (.killed 9)
  | patience + 1 => set { session with machine := { session.machine with patience } }

def blanks : Text :=
  " \t\n".toList

def value? (name : Text) : Run (Option Text) := do
  pure (((← shell).bindings.lookup name).bind Variable.value)

def replaced (bindings : List (Text × Variable)) (name : Text) (binding : Variable) :
    List (Text × Variable) :=
  match bindings with
  | [] => [(name, binding)]
  | (key, old) :: rest =>
      if key = name then (key, binding) :: rest else (key, old) :: replaced rest name binding

def noticeValue (name : Text) (value : Option Text) : Run Unit := do
  if name = "OPTIND".toList then
    let index :=
      match value.bind (integer? (some 10)) with
      | some number => if 0 < number then number.toNat else 1
      | none => 1
    change fun shell => { shell with optionIndex := index, optionOffset := none }
  else if name = "PATH".toList then change fun shell => { shell with searched := [] }

def put (name : Text) (binding : Variable) : Run Unit := do
  change fun shell => { shell with bindings := replaced shell.bindings name binding }
  noticeValue name binding.value

def assign (name value : Text) (exports : Bool) : Run Unit := do
  if !isName name then fail (name ++ ": bad variable name".toList)
  let shell ← shell
  match shell.bindings.lookup name with
  | some binding =>
      if binding.fixed then fail (name ++ ": is read only".toList)
      put name
        { binding with
          value := some value
          exported := binding.exported || exports || shell.options.exportsAll }
  | none => put name ⟨some value, exports || shell.options.exportsAll, false⟩

def unassign (name : Text) : Run Unit := do
  match (← shell).bindings.lookup name with
  | none => pure ()
  | some binding =>
      if binding.fixed then fail (name ++ ": is read only".toList)
      change fun shell =>
        { shell with bindings := shell.bindings.filter fun entry => entry.1 ≠ name }
      noticeValue name none

def dividers : Run Text := do
  pure ((← value? "IFS".toList).getD blanks)

def enterScope : Run Unit :=
  change fun shell =>
    { shell with scopes := [] :: shell.scopes, savedOptions := none :: shell.savedOptions }

def localize (name : Text) : Run Unit := do
  match (← shell).scopes with
  | [] => pure ()
  | scope :: outer =>
      if (scope.lookup name).isNone then
        change fun shell =>
          { shell with scopes := ((name, shell.bindings.lookup name) :: scope) :: outer }

def restore (saved : Text × Option Variable) : Run Unit := do
  match saved with
  | (name, some binding) => put name binding
  | (name, none) =>
      change fun shell =>
        { shell with bindings := shell.bindings.filter fun entry => entry.1 ≠ name }
      noticeValue name none

def leaveScope : Run Unit := do
  let shell ← shell
  match shell.scopes, shell.savedOptions with
  | scope :: outer, saved :: options =>
      scope.forM restore
      change fun shell =>
        { shell with
          scopes := outer
          savedOptions := options
          options := saved.getD shell.options }
  | _, _ => pure ()

def andThen {α : Type} (step : Run α) (after : Run Unit) : Run α := fun session =>
  match step session with
  | .ok result middle =>
      match after middle with
      | .ok () last => .ok result last
      | .error stop last => .error stop last
  | .error stop middle =>
      match after middle with
      | .ok () last => .error stop last
      | .error _ last => .error stop last

def succeeds (step : Run Unit) : Run Bool := fun session =>
  match step session with
  | .ok () after => .ok true after
  | .error .failure after => .ok false after
  | .error stop after => .error stop after

end Run

end Script

end ApiSurface
