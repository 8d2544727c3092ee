import ApiSurface.Script.Builtin.Jobs

namespace ApiSurface

namespace Script

open Host (Refusal Ending Invocation)

def standardPath : Text :=
  "/usr/local/sbin:/usr/local/bin:/usr/sbin:/usr/bin:/sbin:/bin".toList

def nameNumber (name : Text) : Nat :=
  ((name.headD ' ').toNat * 16 + (name.map Char.toNat).foldl Nat.add 0) % 39

def exportedVariables (shell : Shell) : List (Text × Text) :=
  let exported := shell.bindings.filterMap fun (name, found) =>
    if found.exported then found.value.map fun value => (name, value) else none
  exported.mergeSort fun left right => nameNumber left.1 ≤ nameNumber right.1

def searchPath (standard : Bool) : Run Text := do
  if standard then pure standardPath
  else pure ((← Run.value? "PATH".toList).getD standardPath)

def firstProgram (directory : Path) : Refusal → List Text → Host.Act (Except Refusal Text)
  | refusal, [] => pure (.error refusal)
  | refusal, path :: rest => do
      match Host.find (← get).files (Host.located directory (toText path)) with
      | .ok (_, .file data) =>
          if data.executable then pure (.ok path) else firstProgram directory .accessDenied rest
      | .ok (_, .directory _) => firstProgram directory .accessDenied rest
      | .error .noEntry => firstProgram directory refusal rest
      | .error .notDirectory => firstProgram directory refusal rest
      | .error other => firstProgram directory other rest

/-- The file of the program that a name stands for.  A name with a slash is taken as it is. -/
def program (standard : Bool) (name : Text) : Run (Except Refusal Text) := do
  if name.contains '/' then pure (.ok name)
  else
    let shell ← Run.shell
    let found := Host.candidates (← searchPath standard) name
    let result ← Run.host (firstProgram shell.directory .noEntry found)
    if let .ok path := result then
      if !standard && (shell.searched.lookup name).isNone then
        Run.change fun shell => { shell with searched := shell.searched ++ [(name, path)] }
    pure result

def programMessage (name : Text) (refusal : Refusal) : Text :=
  let reason :=
    match refusal with
    | .noEntry | .notDirectory => "not found".toList
    | _ => refusal.message
  name ++ ": ".toList ++ reason

def refusalStatus : Refusal → Nat
  | .noEntry | .notDirectory | .nameTooLong => 127
  | _ => 126

def ignoredSignals (shell : Shell) : List Nat :=
  (shell.traps.filter fun trap => trap.2.isEmpty).map Prod.fst

def launchFile (below : Interpreter) (path name : Text) (arguments : List Text) :
    Run (Except Refusal Ending) := do
  let shell ← Run.shell
  let invocation : Invocation :=
    { name
      arguments
      environment := exportedVariables shell
      descriptors := shell.descriptors
      directory := shell.directory
      ignored := ignoredSignals shell
      fileBytes := shell.fileBytes }
  match ← Run.host (below.launch path invocation) with
  | .error .unknownFormat =>
      let shellPath := "/bin/sh".toList
      Run.host (below.launch shellPath
        { invocation with name := shellPath, arguments := path :: arguments })
  | result => pure result

end Script

end ApiSurface
