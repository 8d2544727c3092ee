import ApiSurface.Script.Builtin.Control
import ApiSurface.Script.Builtin.Variables

namespace ApiSurface

namespace Script

open Host (Refusal Ending Descriptors)

section

variable (below : Interpreter)

/-- Does what is asked for on the signals that have arrived.  The status stays as it is. -/
def runTraps : Run Unit := do
  Builtin.receive
  let shell ← Run.shell
  if !shell.pending.isEmpty && shell.skip = .nothing then
    let status := shell.exitStatus.getD shell.status
    Run.change fun shell => { shell with pending := [], exitStatus := some status }
    shell.pending.forM fun signal => do
      match (← Run.shell).traps.lookup signal with
      | some action =>
          let _ ← below.script false action
          if (← Run.shell).skip ≠ .leaveFunction then Run.setStatus status
      | none => pure ()
    Run.change fun after => { after with exitStatus := shell.exitStatus }

def builtinAction (tested : Bool) (name : Text) : Builtin.Action :=
  match String.ofList name with
  | ":" | "true" => fun _ => pure 0
  | "false" => fun _ => pure 1
  | "." => Builtin.source below
  | "[" => Builtin.bracket
  | "alias" => Builtin.aliasCommand
  | "break" => Builtin.leaveLoop Skip.leaveLoops
  | "bg" | "fg" => Builtin.resume
  | "cd" | "chdir" => Builtin.cd
  | "command" => Builtin.command
  | "continue" => Builtin.leaveLoop Skip.nextRound
  | "echo" => Builtin.echo
  | "eval" => Builtin.evaluate below tested
  | "exec" => Builtin.replace below
  | "exit" => Builtin.exit
  | "export" => Builtin.exportVariables
  | "getopts" => Builtin.getOptions
  | "hash" => Builtin.hash
  | "kill" => Builtin.kill
  | "local" => Builtin.localVariables
  | "printf" => Builtin.printf
  | "pwd" => Builtin.pwd
  | "read" => Builtin.readVariables
  | "readonly" => Builtin.fixVariables
  | "return" => Builtin.giveBack
  | "set" => Builtin.setCommand
  | "shift" => Builtin.shift
  | "test" => Builtin.test
  | "times" => Builtin.times
  | "trap" => Builtin.trap
  | "type" => Builtin.typeOf
  | "ulimit" => Builtin.limits
  | "umask" => Builtin.maskCommand
  | "unalias" => Builtin.unaliasCommand
  | "unset" => Builtin.unsetVariables
  | "wait" => Builtin.wait below
  | _ => fun _ => pure 0

def takesAssignments (name : Text) : Bool :=
  (["alias", "export", "local", "readonly"].map String.toList).contains name

/-- Runs a built-in command.  Unless it is a special one, its failure is only its own. -/
def runBuiltin (tested special : Bool) (name : Text) (arguments : List Text) : Run Unit := do
  let outer := (← Run.shell).command
  Run.change fun shell => { shell with command := some name }
  let step : Run Unit := do
    Run.setStatus (← builtinAction below tested name arguments)
  let restoring := Run.andThen step (Run.change fun shell => { shell with command := outer })
  if special then restoring
  else
    let _ ← Run.succeeds restoring

def functionLimit : Nat := 1000

def runFunction (tested : Bool) (body : Command) (arguments : List Text) : Run Unit := do
  let outer ← Run.shell
  if functionLimit ≤ outer.functionDepth then
    Run.fail ("Maximum function recursion depth (".toList ++ showNat functionLimit
      ++ ") reached".toList)
  Run.change fun shell =>
    { shell with
      arguments
      loops := 0
      functionDepth := shell.functionDepth + 1
      optionIndex := 1
      optionOffset := none }
  Run.andThen (below.run tested body) do
    Run.change fun shell =>
      { shell with
        arguments := outer.arguments
        loops := outer.loops
        functionDepth := outer.functionDepth
        optionIndex := outer.optionIndex
        optionOffset := outer.optionOffset
        skip := if shell.skip = .leaveFunction then .nothing else shell.skip }

/-- Runs a program and waits for it.  Waiting gives the jobs in the background time to run. -/
def runProgram (standard : Bool) (name : Text) (arguments : List Text) : Run Unit := do
  match ← program standard name with
  | .error refusal =>
      Run.warn (programMessage name refusal)
      Run.setStatus 127
  | .ok path =>
      if name = "sleep".toList then runJobs below
      let _ ← newProcess
      match ← launchFile below path name arguments with
      | .error refusal =>
          Run.warn (programMessage name refusal)
          Run.setStatus (refusalStatus refusal)
      | .ok ending => Run.setStatus (← noticeEnding ending)

inductive Callee where
  | nothing
  | function (body : Command)
  | builtin (name : Text)
  | program (name : Text)

structure Call where
  callee : Callee := .nothing
  special : Bool := false
  /-- Whether assignments in front of the command are for it alone. -/
  temporary : Bool := false
  standard : Bool := false
  leading : List Text := []
  name : Text := []
  arguments : List Text := []

def calleeOf (pastFunctions : Bool) (name : Text) : Run Callee := do
  match pastFunctions, (← Run.shell).functions.lookup name with
  | false, some body => pure (.function body)
  | _, _ => pure (if Builtin.isBuiltin name then .builtin name else .program name)

def firstFields : List Text → List Word → Run (List Text × List Word)
  | field :: fields, words => pure (field :: fields, words)
  | [], [] => pure ([], [])
  | [], word :: rest => do firstFields (← expandFields below word) rest

def expandArguments (assigning : Bool) (words : List Word) : Run (List Text) := do
  let lists ← words.mapM fun word => do
    if assigning && word.isAssignment then
      pure [← expandText below { assigns := true } word]
    else expandFields below word
  pure lists.flatten

/-- What the options of `command` ask for: what they are, whether to search in the standard path,
and the fields and words from the command on that is to be run.  There is none if it is to be
described. -/
def commandOptions : Nat → List Text → Bool → List Text → List Word →
    Run (Option (List Text × Bool × List Text × List Word))
  | 0, _, _, _, _ => pure none
  | fuel + 1, taken, standard, fields, words => do
      match ← firstFields below fields words with
      | ([], _) => pure none
      | (['-', '-'] :: fields, words) =>
          match ← firstFields below fields words with
          | ([], _) => pure none
          | (fields, words) => pure (some (taken ++ [['-', '-']], standard, fields, words))
      | (('-' :: c :: letters) :: fields, words) =>
          if (c :: letters).all (· = 'p') then
            commandOptions fuel (taken ++ ['-' :: c :: letters]) true fields words
          else pure none
      | (fields, words) => pure (some (taken, standard, fields, words))

/-- Finds out what a command calls.  `command` in front passes functions over and makes special
commands plain. -/
def resolveCall : Nat → (first : Bool) → Call → List Text → List Word → Run Call
  | 0, _, call, _, _ => pure call
  | fuel + 1, first, call, fields, words => do
      match ← firstFields below fields words with
      | ([], _) => pure call
      | (name :: fields, words) =>
          let callee ← calleeOf (!first) name
          let complete (call : Call) (assigning : Bool) : Run Call := do
            let others ← expandArguments below assigning words
            pure { call with callee, name, arguments := fields ++ others }
          match callee with
          | .builtin found =>
              let call :=
                if first then
                  let special := specialCommands.contains found
                  { call with special, temporary := !special }
                else call
              if found = "command".toList then
                match ← commandOptions below (words.length + fields.length + 2) [] call.standard
                  fields words with
                | some (taken, standard, fields, words) =>
                    let leading := call.leading ++ name :: taken
                    resolveCall fuel false { call with standard, leading } fields words
                | none => complete call false
              else complete call (takesAssignments found)
          | _ => complete (if first then { call with temporary := true } else call) false

def traceMark : Run Text := do
  let mark := (← Run.value? "PS4".toList).getD []
  if mark.any fun c => c = '$' || c.toNat = 0x60 then
    let parse : Parser Word := do
      let first ← Parser.takeJoined
      let (draft, _) ← scan Grammar.standard.inner (.document [zero] false) .double first
      pure draft.word
    match parse { rest := mark } with
    | .ok word _ => expandText below { quoted := true } word
    | .error _ _ => pure mark
  else pure mark

/-- Shows a command before it is run, through the descriptors from before its redirections. -/
def trace (descriptors : Descriptors) (assigned : List Text) (call : Call) : Run Unit := do
  let shell ← Run.shell
  if shell.options.traces then
    Run.change fun shell => { shell with options := { shell.options with traces := false } }
    let mark ← traceMark below
    Run.change fun shell => { shell with options := { shell.options with traces := true } }
    let called : List Text :=
      match call.callee with
      | .nothing => []
      | _ => call.leading ++ call.name :: call.arguments
    match descriptors.lookup 2 with
    | some stream =>
        let line := mark ++ List.intercalate [' '] (assigned ++ called) ++ ['\n']
        let _ ← Run.host (Host.write stream line)
    | none => pure ()

def assignAll (call : Call) (exports : Bool) (words : List Word) : Run (List Text) :=
  words.mapM fun word => do
    let text ← expandText below { assigns := true } word
    match text.cutFirst '=' with
    | some (name, value) =>
        if call.temporary then
          Run.localize name
          Run.assign name value true
        else Run.assign name value exports
    | none => pure ()
    pure text

def runCallee (tested : Bool) (call : Call) : Run Unit := do
  match call.callee with
  | .nothing => Run.setStatus (← Run.shell).outputStatus
  | .function body => runFunction below tested body call.arguments
  | .builtin name => runBuiltin below tested call.special name call.arguments
  | .program name => runProgram below call.standard name call.arguments

def isReplacement (call : Call) : Bool :=
  match call.callee with
  | .builtin name => name = "exec".toList
  | _ => false

def runSimple (tested : Bool) (line : Nat) (assignments words : List Word)
    (redirections : List Redirection) : Run Unit := do
  Run.change fun shell => { shell with line, outputStatus := 0 }
  let call ← resolveCall below (words.length + 2) true {} [] words
  let before := (← Run.shell).descriptors
  let step : Run Unit := do
    let prepared ← redirections.mapM (prepare below)
    if ← redirect below prepared then
      let exports := isReplacement call && !call.arguments.isEmpty
      let assigned ← assignAll below call exports assignments
      trace below before assigned call
      runCallee below tested call
    else if call.special then throw .failure
  let restored : Run Unit :=
    if isReplacement call then step
    else Run.andThen step (Run.change fun shell => { shell with descriptors := before })
  if call.temporary then
    Run.enterScope
    Run.andThen restored Run.leaveScope
  else restored

/-- Runs one stage of a pipeline, which reads from one stream and writes to another. -/
def runStage (tested : Bool) (input output : Option Nat) (command : Command) : Run Ending :=
  inSubshell below do
    Run.change fun shell =>
      let redirected := (input.map (Descriptors.assign shell.descriptors 0)).getD shell.descriptors
      { shell with
        descriptors := (output.map (Descriptors.assign redirected 1)).getD redirected }
    below.run tested command

/-- Searches for the program of a command ahead, if it is plain to see which one it is. -/
def searchAhead : Command → Run Unit
  | .simple _ _ (word :: _) _ => do
      match Word.plain? word with
      | some name =>
          let isProgram : Bool :=
            isName name && !Builtin.isBuiltin name
              && ((← Run.shell).functions.lookup name).isNone
          if isProgram then
            let _ ← program false name
      | none => pure ()
  | _ => pure ()

/-- Runs the stages of a pipeline one after the other, each on what the one before has written. -/
def runStages (tested : Bool) : Option Nat → List Command → Run Unit
  | _, [] => pure ()
  | input, [command] => do
      searchAhead command
      Run.setStatus (← noticeEnding (← runStage below tested input none command))
  | input, command :: rest => do
      searchAhead command
      let buffer ← Run.host (Host.addBuffer [] .writing)
      let _ ← noticeEnding (← runStage below tested input (some buffer) command)
      let text ← Run.host (Host.bufferText buffer)
      let next ← Run.host (Host.addBuffer text .reading)
      runStages tested (some next) rest

def startJob (command : Command) : Run Unit := do
  let number ← newProcess
  let empty ← Run.host (Host.addStream ⟨.nothing, .reading, 0⟩)
  modify fun session =>
    let forked := session.shell.forked number
    let shell := { forked with descriptors := Descriptors.assign forked.descriptors 0 empty }
    { session with
      shell := { session.shell with latestJob := some number }
      jobs := session.jobs ++ [⟨number, some (command, shell), none⟩] }
  Run.setStatus 0

def settleSkip : Run Bool := do
  let shell ← Run.shell
  let set (skip : Skip) : Run Unit := Run.change fun shell => { shell with skip }
  match shell.skip with
  | .nothing => pure true
  | .leaveLoops count =>
      set (if count ≤ 1 then .nothing else .leaveLoops (count - 1))
      pure false
  | .nextRound count =>
      if count ≤ 1 then
        set .nothing
        pure true
      else
        set (.nextRound (count - 1))
        pure false
  | .leaveFunction => pure false

def inLoop (step : Run Unit) : Run Unit := do
  Run.change fun shell => { shell with loops := shell.loops + 1 }
  Run.andThen step (Run.change fun shell => { shell with loops := shell.loops - 1 })

def runRounds (tested wanted : Bool) (condition body : Command) : Nat → Nat → Run Unit
  | 0, _ => throw (.killed 9)
  | fuel + 1, status => do
      Run.tick
      below.run true condition
      let shell ← Run.shell
      match shell.skip with
      | .nothing =>
          if (shell.status = 0) = wanted then
            below.run tested body
            let result := (← Run.shell).status
            if ← settleSkip then runRounds tested wanted condition body fuel result
            else Run.setStatus result
          else Run.setStatus status
      | .leaveFunction => pure ()
      | _ =>
          if ← settleSkip then runRounds tested wanted condition body fuel status
          else Run.setStatus status

def runEach (tested : Bool) (name : Text) (body : Command) : Nat → List Text → Run Unit
  | status, [] => Run.setStatus status
  | _, value :: rest => do
      Run.tick
      Run.assign name value false
      below.run tested body
      let result := (← Run.shell).status
      if ← settleSkip then runEach tested name body result rest else Run.setStatus result

def anyMatches (subject : Text) : List Word → Run Bool
  | [] => pure false
  | word :: rest => do
      let pattern ← expandPattern below word
      if isMatch pattern subject then pure true else anyMatches subject rest

def runBranches (tested : Bool) (subject : Text) :
    List (List Word × Option Command) → Run Unit
  | [] => Run.setStatus 0
  | (patterns, body) :: rest => do
      if ← anyMatches below subject patterns then
        match body with
        | some command => below.run tested command
        | none => Run.setStatus 0
      else runBranches tested subject rest

def runSequence (tested : Bool) : List Command → Run Unit
  | [] => pure ()
  | command :: rest => do
      below.run tested command
      if (← Run.shell).skip = .nothing then runSequence tested rest

def runBody (tested : Bool) : Command → Run Bool
  | .simple line assignments words redirections => do
      runSimple below tested line assignments words redirections
      pure true
  | .redirected line body redirections => do
      Run.change fun shell => { shell with line }
      keepingDescriptors do
        let prepared ← redirections.mapM (prepare below)
        if ← redirect below prepared then below.run tested body
      pure false
  | .subshell line body redirections => do
      Run.change fun shell => { shell with line }
      let prepared ← redirections.mapM (prepare below)
      let ending ← inSubshell below do
        prepared.forM (redirectOne below)
        below.run tested body
      Run.setStatus (← noticeEnding ending)
      pure true
  | .background line body redirections => do
      Run.change fun shell => { shell with line }
      startJob (if redirections.isEmpty then body else .redirected line body redirections)
      pure true
  | .pipeline commands background => do
      if background then startJob (.pipeline commands false)
      else runStages below tested none commands
      pure true
  | .negation body => do
      below.run true body
      let shell ← Run.shell
      if shell.skip = .nothing then Run.setStatus (if shell.status = 0 then 1 else 0)
      pure false
  | .sequence commands => do
      runSequence below tested commands
      pure false
  | .both first second => do
      below.run true first
      let shell ← Run.shell
      if shell.status = 0 && shell.skip = .nothing then below.run tested second
      pure false
  | .either first second => do
      below.run true first
      let shell ← Run.shell
      if shell.status ≠ 0 && shell.skip = .nothing then below.run tested second
      pure false
  | .conditional condition consequence alternative => do
      below.run true condition
      let shell ← Run.shell
      if shell.skip = .nothing then
        if shell.status = 0 then below.run tested consequence
        else
          match alternative with
          | some other => below.run tested other
          | none => Run.setStatus 0
      pure false
  | .loop wanted condition body => do
      inLoop do
        runRounds below tested wanted condition body ((← get).machine.patience + 1) 0
      pure false
  | .each line name words body => do
      Run.change fun shell => { shell with line }
      let lists ← words.mapM (expandFields below)
      inLoop (runEach below tested name body 0 lists.flatten)
      pure false
  | .select line subject branches => do
      Run.change fun shell => { shell with line }
      let text ← expandText below { tilde := true } subject
      runBranches below tested text branches
      pure false
  | .define _ name body => do
      Run.change fun shell =>
        { shell with
          functions := (name, body) :: shell.functions.filter fun entry => entry.1 ≠ name }
      Run.setStatus 0
      pure false

def runCommand (tested : Bool) (command : Command) : Run Unit := do
  if !(← Run.shell).options.runsNothing then
    runTraps below
    let counts ← runBody below tested command
    runTraps below
    let shell ← Run.shell
    if counts && !tested && shell.options.stopsOnFailure && shell.status ≠ 0 then
      Run.change fun shell => { shell with exitStatus := none }
      throw .exit

def nextCommands (rest : Text) (line : Nat) : Run (Option (Option Command × Text × Nat)) := do
  let shell ← Run.shell
  let reader : Reader :=
    { rest, line, nextDocument := shell.nextDocument, aliases := shell.aliases }
  match readLine reader with
  | .ok found after =>
      Run.change fun shell =>
        { shell with
          documents := after.documents ++ shell.documents
          nextDocument := after.nextDocument
          lineRead := after.line }
      if shell.options.echoesInput then
        let _ ← Run.printTo 2 (rest.take (rest.length - after.rest.length))
      pure (found.map fun command => (command, after.rest, after.line))
  | .error (.at line message) _ =>
      Run.change fun shell => { shell with line }
      Run.fail ("Syntax error: ".toList ++ message)
  | .error .tooDeep _ => throw (.killed 11)

def runFrom (tested : Bool) : Nat → Nat → Text → Nat → Run Nat
  | 0, status, _, _ => pure status
  | fuel + 1, status, rest, line => do
      match ← nextCommands rest line with
      | none => pure status
      | some (command, after, next) =>
          let result ←
            match command with
            | none => pure status
            | some found =>
                below.run tested found
                pure (← Run.shell).status
          if (← Run.shell).skip = .nothing then runFrom tested fuel result after next
          else pure result

def runScript (tested : Bool) (text : Text) : Run Nat := do
  let lineRead := (← Run.shell).lineRead
  Run.andThen (runFrom below tested (text.length + 2) 0 text 1)
    (Run.change fun shell => { shell with lineRead })

end

end Script

end ApiSurface
