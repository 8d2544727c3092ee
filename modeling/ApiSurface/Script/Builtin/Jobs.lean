import ApiSurface.Script.Builtin.Basic

/-! Built-in commands about signals and about commands in the background. -/

namespace ApiSurface

namespace Script

namespace Builtin

open Host

def receive : Run Unit := do
  let session ← get
  let own := session.shell.ownProcess
  let arrived := (session.machine.signals.filter fun entry => entry.1 = own).map Prod.snd
  if !arrived.isEmpty then
    set { session with
      machine :=
        { session.machine with
          signals := session.machine.signals.filter fun entry => entry.1 ≠ own } }
    arrived.forM fun signal => do
      match (← Run.shell).traps.lookup signal with
      | some [] => if signal = Signal.kill then throw (.killed signal)
      | some _ =>
          if signal = Signal.kill then throw (.killed signal)
          Run.change fun shell => { shell with pending := shell.pending ++ [signal] }
      | none => if Signal.endsPrograms signal then throw (.killed signal)

def sentTo (signal : Nat) (job : Job) : Job :=
  match job.task with
  | some (_, shell) =>
      let isIgnored : Bool := shell.traps.lookup signal = some [] && signal ≠ Signal.kill
      if Signal.endsPrograms signal && !isIgnored then
        { job with task := none, ending := some (.killed signal) }
      else job
  | none => job

def send (signal process : Nat) : Run Bool := do
  let session ← get
  let shell := session.shell
  match session.jobs.find? fun job => job.process = process with
  | some job =>
      set { session with
        jobs := session.jobs.map fun (other : Job) =>
          if other.process = process then sentTo signal other else other }
      pure (job.task.isSome)
  | none =>
      if process = shell.ownProcess || process = shell.process then
        if signal ≠ 0 then
          set { session with
            machine :=
              { session.machine with
                signals := session.machine.signals ++ [(process, signal)] } }
          receive
        pure true
      else pure false

def killUsage : Text :=
  "Usage: kill [-s sigspec | -signum | -sigspec] [pid | job]... or\nkill -l [exitstatus]".toList

def listSignals (words : List Text) : Run Nat := do
  match words with
  | [] =>
      print ((['0'] :: Signal.names).flatMap fun name => name ++ ['\n'])
  | word :: _ =>
      let value ← number word
      let signal := if 128 < value then value - 128 else value
      match Signal.name? signal with
      | some name => if 0 < signal then print (name ++ ['\n']) else illegalNumber word
      | none => Run.fail ("invalid signal number or exit status: ".toList ++ word)

/-- The signal that the front of the arguments chooses, and the processes behind it. -/
def chosenSignal (words : List Text) : Run (Nat × List Text) := do
  let bad {α : Type} (text : Text) : Run α :=
    Run.fail ("invalid signal number or name: ".toList ++ text)
  match words with
  | ['-', '-'] :: rest => pure (Signal.terminate, rest)
  | ['-', 's'] :: name :: rest =>
      match Signal.ofText? name with
      | some signal => pure (signal, rest)
      | none => bad name
  | ('-' :: name) :: rest =>
      match Signal.ofText? name with
      | some signal =>
          match rest with
          | ['-', '-'] :: others => pure (signal, others)
          | _ => pure (signal, rest)
      | none => Run.fail ("Illegal option -".toList ++ name.take 1)
  | _ => pure (Signal.terminate, words)

def kill : Action := fun words => do
  match words with
  | [] => Run.fail killUsage
  | ['-', 'l'] :: rest => listSignals rest
  | _ =>
      let (signal, targets) ← chosenSignal words
      if targets.isEmpty then Run.fail killUsage
      targets.foldlM
        (fun status target => do
          match natural? target with
          | none =>
              match integer? (some 10) target with
              | some _ => pure status
              | none => illegalNumber target
          | some process =>
              if ← send signal process then pure status
              else
                Run.warn ("No such process\n".toList)
                pure 1)
        0

def trapListing : Run Text := do
  let traps := (← Run.shell).traps.mergeSort fun left right => left.1 ≤ right.1
  pure (traps.flatMap fun (signal, action) =>
    "trap -- ".toList ++ singleQuoted action ++ ' ' :: (Signal.name? signal).getD [] ++ ['\n'])

def setTrap (signal : Nat) (action : Option Text) : Run Unit :=
  Run.change fun shell =>
    let others := shell.traps.filter fun trap => trap.1 ≠ signal
    { shell with traps := others ++ (action.map fun text => (signal, text)).toList }

def trap : Action := fun words => do
  let (_, rest) ← options "" words
  match rest with
  | [] => print (← trapListing)
  | first :: others =>
      let (action, signals) :=
        if others.isEmpty then (none, rest)
        else (if first = ['-'] then none else some first, others)
      let attempt (status : Nat) (name : Text) : Run Nat := do
        if status ≠ 0 then pure status
        else
          match Signal.ofText? name with
          | some signal =>
              setTrap signal action
              pure 0
          | none =>
              let _ ← Run.printTo 2 ("trap: ".toList ++ name ++ ": bad trap\n".toList)
              pure 1
      signals.foldlM attempt 0

section

variable (below : Interpreter)

def waitFor (process : Nat) : Run Nat := do
  match (← get).jobs.find? fun job => job.process = process with
  | none => pure 127
  | some job =>
      let finished ← runJob below job
      modify fun session =>
        { session with jobs := session.jobs.filter fun other => other.process ≠ process }
      noticeEnding (finished.ending.getD (.exited 0))

def wait : Action := fun words => do
  let (_, rest) ← options "" words
  if rest.isEmpty then
    runJobs below
    modify fun session => { session with jobs := [] }
    pure 0
  else
    rest.foldlM
      (fun _ target => do
        match target with
        | '%' :: _ =>
            match (← get).jobs.getLast? with
            | some job => waitFor below job.process
            | none => Run.fail ("No such job: ".toList ++ target)
        | _ => waitFor below (← number target))
      0

end

def resume : Action := fun _ =>
  Run.fail "No current job".toList

def times : Action := fun _ =>
  print "0m0.000000s 0m0.000000s\n0m0.000000s 0m0.000000s\n".toList

def blockBytes : Nat := 512

def showLimit (bytes : Option Nat) : Run Nat :=
  print ((bytes.map fun count => showNat (count / blockBytes)).getD "unlimited".toList ++ ['\n'])

def setFileLimit (value : Text) : Run Nat := do
  let bytes := (natural? value).map (· * blockBytes)
  Run.change fun shell => { shell with fileBytes := bytes }
  pure 0

/-- Shows a limit or sets it.  Only that on the sizes of files is kept, which is meant if no other
one is named. -/
def limits : Action := fun words => do
  let isFlag (word : Text) : Bool := word.head? = some '-'
  let concernsFiles : Bool :=
    (words.filter isFlag).all fun word => word.tail.all fun letter => "fHS".toList.contains letter
  match concernsFiles, words.filter fun word => !isFlag word with
  | true, [] => showLimit (← Run.shell).fileBytes
  | true, value :: _ => setFileLimit value
  | false, [] => showLimit none
  | false, _ => pure 0

end Builtin

end Script

end ApiSurface
