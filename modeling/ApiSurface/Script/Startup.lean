import ApiSurface.Script.Evaluation

/-! The shell as a program: what it makes of its arguments and its environment. -/

namespace ApiSurface

namespace Script

open Host

def ownVariables (process : Nat) : List (Text × Text) :=
  [("IFS".toList, Run.blanks), ("OPTIND".toList, ['1']), ("PPID".toList, showNat process)]

def standardVariables (invocation : Invocation) : List (Text × Text) :=
  [("PATH".toList, standardPath), ("PS1".toList, "# ".toList), ("PS2".toList, "> ".toList),
    ("PS4".toList, "+ ".toList)]
    |>.filter fun (name, _) => (invocation.environment.lookup name).isNone

def initialVariables (invocation : Invocation) (process : Nat) : List (Text × Variable) :=
  let own := ownVariables process
  let given := invocation.environment.filter fun (name, _) => isName name && name ≠ "PWD".toList
  let imported := given.map fun (name, value) =>
    (name, { value := some ((own.lookup name).getD value), exported := true : Variable })
  let kept := (own ++ standardVariables invocation).filter fun (name, _) =>
    (imported.lookup name).isNone
  let directory := ofText (absolutePath invocation.directory)
  imported ++ kept.map (fun (name, value) => (name, { value := some value : Variable }))
    ++ [("PWD".toList, { value := some directory, exported := true })]

def Shell.ofInvocation (invocation : Invocation) (process : Nat) : Shell where
  name := invocation.name
  arguments := []
  bindings := initialVariables invocation (process - 1)
  line := 0
  descriptors := invocation.descriptors
  directory := invocation.directory
  traps := invocation.ignored.map fun signal => (signal, [])
  process := process
  ownProcess := process
  fileBytes := invocation.fileBytes

/-- Reads the options in front of the arguments of a shell.  Tells whether a command follows, and
gives what is left. -/
def startupOptions : Nat → (isCommand : Bool) → List Text → Run (Bool × List Text)
  | 0, isCommand, words => pure (isCommand, words)
  | _ + 1, isCommand, [] => pure (isCommand, [])
  | fuel + 1, isCommand, word :: rest => do
      match word with
      | ['-'] | ['-', '-'] => pure (isCommand, rest)
      | sign :: letters =>
          if (sign ≠ '-' && sign ≠ '+') then pure (isCommand, word :: rest)
          else
            let on : Bool := sign = '-'
            let (found, after) ← letters.foldlM
              (fun ((found, rest) : Bool × List Text) letter => do
                if letter = 'c' then pure (true, rest)
                else if letter = 'l' then pure (found, rest)
                else if letter = 'o' then
                  match rest with
                  | [] =>
                      let _ ← Builtin.print (← Builtin.optionTable on)
                      pure (found, [])
                  | name :: others =>
                      Builtin.setNamedOption name on
                      pure (found, others)
                else
                  Builtin.setOption letter on
                  pure (found, rest))
              (isCommand, rest)
            startupOptions fuel found after
      | [] => pure (isCommand, word :: rest)

def inputScript (invocation : Invocation) : Run Text := do
  match ← Run.host invocation.readInput with
  | .ok text => pure text
  | .error _ => pure []

def fileScript (invocation : Invocation) (path : Text) : Run Text := do
  match ← Run.host (invocation.readFile path) with
  | .ok text => pure text
  | .error .isDirectory => pure []
  | .error refusal => Run.fail (openMessage .reading path refusal)

def chosenScript (invocation : Invocation) : Run Text := do
  let given := invocation.arguments
  let (isCommand, rest) ← startupOptions (given.length + 1) false given
  let fromInput := (← Run.shell).options.readsInput
  match isCommand, rest with
  | true, [] => Run.fail "-c requires an argument".toList
  | true, text :: others =>
      Run.change fun shell =>
        { shell with name := others.headD shell.name, arguments := others.drop 1 }
      pure text
  | false, [] =>
      Run.change fun shell => { shell with options := { shell.options with readsInput := true } }
      inputScript invocation
  | false, path :: others =>
      if fromInput then
        Run.change fun shell => { shell with arguments := rest }
        inputScript invocation
      else
        let text ← fileScript invocation path
        Run.change fun shell => { shell with name := path, arguments := others }
        pure text

/-- Runs a shell from its start to its end, and then what it has left in the background. -/
def runShell (below : Interpreter) (invocation : Invocation) : Act Ending := fun machine =>
  let shell := Shell.ofInvocation invocation machine.processes
  let step : Run Unit := do
    let text ← chosenScript invocation
    let _ ← below.script false (text.filter (· ≠ zero))
  let (ending, after) := life below step ⟨machine, shell, []⟩
  match runJobs below after with
  | .ok () last => (ending, last.machine)
  | .error _ last => (ending, last.machine)

end Script

end ApiSurface
