import ApiSurface.Archive.Layout
import ApiSurface.Disassembly.Javap
import ApiSurface.Log.Filter
import ApiSurface.Log.Line
import ApiSurface.Run.Extraction

/-!
The whole program: it reads the command line and the environment, runs, and ends with an exit
status, what it printed, and what it complained about.
-/

namespace ApiSurface

namespace Program

open Host (Act Ending FirstProgram Invocation)

def programName : Text :=
  "api-snapshot".toList

/-- How the program ended.  A complete run closes with the time it took. -/
structure Exit where
  status : Nat
  complete : Bool
  output : Text
  complaints : Text
  files : FileSystem

def errorMark : Text :=
  "Error: ".toList

/-- The first line of the complaints that is marked as an error. -/
def Exit.errorLine (exit : Exit) : Option Text :=
  (exit.complaints.lines.map Text.lineBody).find? fun line => line.startsWith errorMark

/-- All that the program prints, if it took `elapsed` milliseconds. -/
def Exit.printed (exit : Exit) (elapsed : Text) : Text :=
  if exit.complete then exit.output ++ "time taken: ".toList ++ elapsed ++ " ms\n".toList
  else exit.output

/-- The run that a command line asks for.  `scratchName` is the name of the directory in which an
aar is unpacked. -/
def action (first : FirstProgram) (commandLine : CommandLine) (environment : Environment)
    (scratchName : Text) : Action Unit (List Mismatch) := do
  let config ← RunConfig.ofCommandLine commandLine environment
  let state ← get
  let program := Javap.resolve environment state.files
  Action.note (.starting program config.shown)
  Extraction.run config (Javap.disassembleFrom first environment program)
    (Path.join environment.scratchParent scratchName)

def usageStatus : UsageError → Nat
  | .helpRequested => 0
  | _ => 2

def crashStatus : Nat := 101

/-- Which events are logged.  A filter that cannot be read counts as that for warnings. -/
def filter (environment : Environment) : Except Text Log.Filter :=
  match environment.lookup Environment.logVariable with
  | none => .ok .warnings
  | some given =>
      match Log.Filter.parse given with
      | .ok read => .ok read
      | .error .malformed => .ok .warnings
      | .error (.splitCharacter directive) => .error directive

def runLogged (log : List Log.Event → Text) (first : FirstProgram) (arguments : List Text)
    (environment : Environment) (scratchName : Text) (files : FileSystem) : Exit :=
  match CommandLine.parse arguments with
  | .error problem =>
      let helps := problem = .helpRequested
      { status := usageStatus problem
        complete := false
        output := if helps then CommandLine.help else []
        complaints := if helps then [] else problem.message ++ ['\n']
        files }
  | .ok commandLine =>
      let failed (failure : Failure) (state : RunState Unit) : Exit :=
        { status := 1
          complete := false
          output := state.report
          complaints := log state.log ++ errorMark ++ failure.message ++ ['\n']
          files := state.files }
      match action first commandLine environment scratchName ⟨files, [], [], ()⟩ with
      | .error failure state => failed failure state
      | .ok mismatches state =>
          match Snapshot.verdict mismatches with
          | .error failure => failed failure state
          | .ok () =>
              { status := 0
                complete := true
                output := state.report
                complaints := log state.log
                files := state.files }

def runFirst (start : Invocation → Act Ending) (arguments : List Text) (environment : Environment)
    (scratchName : Text) (files : FileSystem) : Exit :=
  match filter environment with
  | .error directive =>
      { status := crashStatus
        complete := false
        output := []
        complaints := "the log filter is cut within a character: ".toList ++ directive ++ ['\n']
        files }
  | .ok filter =>
      let log (events : List Log.Event) : Text :=
        (events.filter filter.admits).flatMap (Log.shown environment.isStyled)
      let first : FirstProgram := { words := programName :: arguments, start }
      runLogged log first arguments environment scratchName files

/-- The program as one that it runs starts it again, with a scratch directory of its own.  It is
taken to be started in the same directory, and to ignore the signal that comes with a file that
would grow too large. -/
def runAgain (run : List Text → Environment → Text → FileSystem → Exit) (scratchName : Text)
    (invocation : Invocation) : Act Ending := do
  let machine ← get
  let { limits, .. } := machine.files
  let ended := run (invocation.arguments.map Script.toText)
    (invocation.environment.map fun (name, value) => (Script.toText name, Script.toText value))
    (scratchName ++ ['+'])
    { machine.files with limits := { limits with fileBytes := fun _ _ => invocation.fileBytes } }
  set { machine with files := { ended.files with limits } }
  let _ ← invocation.print 1 (Script.ofText (ended.printed ['0']))
  let _ ← invocation.print 2 (Script.ofText ended.complaints)
  pure (.exited ended.status)

/-- Runs the program, which can start itself again so many times from within. -/
def runAt : Nat → List Text → Environment → Text → FileSystem → Exit
  | 0, arguments, environment, scratchName =>
      runFirst (fun _ => pure (.killed 11)) arguments environment scratchName
  | depth + 1, arguments, environment, scratchName =>
      runFirst (runAgain (runAt depth) scratchName) arguments environment scratchName

def run (arguments : List Text) (environment : Environment) (scratchName : Text)
    (files : FileSystem) : Exit :=
  runAt 1000 arguments environment scratchName files

end Program

end ApiSurface
