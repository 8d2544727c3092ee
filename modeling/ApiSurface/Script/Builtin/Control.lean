import ApiSurface.Script.Grammar
import ApiSurface.Script.Search

namespace ApiSurface

namespace Script

namespace Builtin

def leaveLoop (skip : Nat → Skip) : Action := fun words => do
  let count ←
    match words with
    | [] => pure 1
    | text :: _ =>
        let value ← number text
        if value = 0 then illegalNumber text
        pure value
  let loops := (← Run.shell).loops
  if loops ≠ 0 then Run.change fun shell => { shell with skip := skip (min count loops) }
  pure 0

def giveBack : Action := fun words => do
  let status ←
    match words with
    | [] => pure (← Run.shell).status
    | text :: _ => number text
  Run.change fun shell => { shell with skip := .leaveFunction }
  pure status

def exit : Action := fun words => do
  match words with
  | [] => pure ()
  | text :: _ =>
      let status ← number text
      Run.change fun shell => { shell with exitStatus := some (status % 256) }
  throw .exit

def evaluate (below : Interpreter) (tested : Bool) : Action := fun words =>
  below.script tested (List.intercalate [' '] words)

def scriptPath (name : Text) : Run Text := do
  if name.contains '/' then pure name
  else
    let shell ← Run.shell
    let candidates := Host.candidates (← searchPath false) name
    let found ← Run.host (candidates.findM? fun path => do
      match ← Host.find? shell.directory (toText path) with
      | some (_, .file _) => pure true
      | _ => pure false)
    match found with
    | some path => pure path
    | none => Run.fail (name ++ ": not found".toList)

def source (below : Interpreter) : Action := fun words => do
  match (← options "" words).2 with
  | [] => pure 0
  | name :: _ =>
      let path ← scriptPath name
      let shell ← Run.shell
      match ← Run.host (Host.openFile shell.directory (toText path) .reading) with
      | .error refusal => Run.fail (openMessage .reading path refusal)
      | .ok stream =>
          let text :=
            match ← Run.host (Host.unread stream) with
            | .error _ => []
            | .ok text => text
          Run.change fun shell => { shell with command := some path }
          let status ← below.script false text
          let after ← Run.shell
          if after.skip = .leaveFunction then
            Run.change fun shell => { shell with skip := .nothing }
          pure status

def replace (below : Interpreter) : Action := fun words => do
  match words with
  | [] => pure 0
  | name :: arguments =>
      let refuse (refusal : Host.Refusal) : Run Nat := do
        Run.warn (programMessage name refusal)
        Run.change fun shell => { shell with exitStatus := some (refusalStatus refusal) }
        throw .exit
      match ← program false name with
      | .error refusal => refuse refusal
      | .ok path =>
          match ← launchFile below path name arguments with
          | .error refusal => refuse refusal
          | .ok (.killed signal) => throw (.killed signal)
          | .ok (.exited status) =>
              Run.change fun shell => { shell with traps := [], exitStatus := some status }
              throw .exit

def plainNames : List Text :=
  ["[", "alias", "bg", "cd", "chdir", "command", "echo", "false", "fg", "getopts", "hash", "jobs",
    "kill", "printf", "pwd", "read", "test", "true", "type", "ulimit", "umask", "unalias",
    "wait"].map String.toList

def isBuiltin (name : Text) : Bool :=
  plainNames.contains name || specialCommands.contains name

/-- What is known about a name.  The short form is what could be written to the same effect. -/
def describe (short standard : Bool) (name : Text) : Run Nat := do
  let shell ← Run.shell
  let say (brief long : Text) : Run Nat :=
    print (if short then brief ++ ['\n'] else name ++ long ++ ['\n'])
  if keywords.contains name then say name " is a shell keyword".toList
  else
    match shell.aliases.lookup name with
    | some value =>
        say ("alias ".toList ++ name ++ '=' :: singleQuoted value)
          (" is an alias for ".toList ++ value)
    | none =>
        if (shell.functions.lookup name).isSome then say name " is a shell function".toList
        else if specialCommands.contains name then
          say name " is a special shell builtin".toList
        else if isBuiltin name then say name " is a shell builtin".toList
        else
          let found ←
            if name.contains '/' then
              Run.host (firstProgram shell.directory .noEntry [name])
            else program standard name
          let isKnown := (shell.searched.lookup name).isSome
          match found with
          | .ok path =>
              let link := if isKnown then " is a tracked alias for " else " is "
              say path (link.toList ++ path)
          | .error _ =>
              if !short then
                let _ ← print (name ++ ": not found\n".toList)
              pure 127

def searchNumber (name : Text) : Nat :=
  ((name.headD ' ').toNat * 16 + (name.map Char.toNat).foldl Nat.add 0) % 31

def hash : Action := fun words => do
  let (found, rest) ← options "rv" words
  if (found.lookup 'r').isSome then
    Run.change fun shell => { shell with searched := [] }
    pure 0
  else if rest.isEmpty then
    let sorted := (← Run.shell).searched.mergeSort fun left right =>
      searchNumber left.1 ≤ searchNumber right.1
    print (sorted.flatMap fun (_, path) => path ++ ['\n'])
  else
    rest.foldlM
      (fun status name => do
        if isBuiltin name || ((← Run.shell).functions.lookup name).isSome then pure status
        else
          match ← program false name with
          | .ok _ => pure status
          | .error _ =>
              Run.warn (name ++ ": not found".toList)
              pure 1)
      0

def typeOf : Action := fun words => do
  let (_, rest) ← options "" words
  rest.foldlM
    (fun status name => do
      let found ← describe false false name
      pure (if found = 0 then status else found))
    0

/-- The command that tells about another one.  If it is to run it instead, it never gets here. -/
def command : Action := fun words => do
  let (found, rest) ← options "pvV" words
  let standard := (found.lookup 'p').isSome
  match rest with
  | name :: _ =>
      if (found.lookup 'v').isSome then describe true standard name
      else if (found.lookup 'V').isSome then describe false standard name
      else pure 0
  | [] => pure 0

end Builtin

end Script

end ApiSurface
