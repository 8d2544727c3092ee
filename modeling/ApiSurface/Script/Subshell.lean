import ApiSurface.Host.Signal
import ApiSurface.Script.Interpreter

/-!
Shells inside shells.  A subshell starts with a copy of the shell around it and gives nothing of it
back, while what it does to the machine stays.
-/

namespace ApiSurface

namespace Script

open Host

def newProcess : Run Nat := do
  let session ← get
  let number := session.machine.processes + 1
  set { session with machine := { session.machine with processes := number } }
  pure number

def Shell.forked (shell : Shell) (process : Nat) : Shell :=
  { shell with
    ownProcess := process
    traps := shell.traps.filter fun trap => trap.2.isEmpty
    pending := []
    exitStatus := none }

section

variable (below : Interpreter)

/-- Runs what was asked for at the end of a shell.  `status` is what the shell ends with, unless the
trap itself decides on another one. -/
def runExitTrap (status : Nat) : Run Unit := do
  let shell ← Run.shell
  match shell.traps.lookup 0 with
  | none => Run.change fun shell => { shell with exitStatus := some status }
  | some action =>
      Run.change fun shell =>
        { shell with
          traps := shell.traps.filter fun trap => trap.1 ≠ 0
          exitStatus := some status
          skip := .nothing }
      let _ ← below.script false action

def endingOf : EStateM.Result Stop Session Unit → Ending × Session
  | .ok () session => (.exited (session.shell.exitStatus.getD session.shell.status), session)
  | .error .exit session =>
      (.exited (session.shell.exitStatus.getD session.shell.status), session)
  | .error .failure session => (.exited session.shell.status, session)
  | .error (.killed signal) session => (.killed signal, session)

def life (step : Run Unit) (session : Session) : Ending × Session :=
  match endingOf (step session) with
  | (.killed signal, after) => (.killed signal, after)
  | (.exited status, after) => endingOf (runExitTrap below status after)

def runJob (job : Job) : Run Job := do
  match job.task with
  | none => pure job
  | some (command, shell) =>
      let outer ← get
      let (ending, after) := life below (below.run false command) ⟨outer.machine, shell, []⟩
      set { outer with machine := after.machine }
      pure { job with task := none, ending := some ending }

def runJobs : Run Unit := do
  let jobs ← (← get).jobs.mapM (runJob below)
  modify fun session => { session with jobs }

def inSubshell (step : Run Unit) : Run Ending := do
  let number ← newProcess
  let outer ← get
  let (ending, after) := life below step ⟨outer.machine, outer.shell.forked number, []⟩
  match runJobs below after with
  | .ok () last => set { outer with machine := last.machine }
  | .error _ last => set { outer with machine := last.machine }
  pure ending

def noticeEnding (ending : Ending) : Run Nat := do
  match ending with
  | .exited status => pure status
  | .killed signal =>
      if signal ≠ Signal.interrupt && signal ≠ Signal.brokenPipe then
        let _ ← Run.printTo 2 (Signal.description signal ++ ['\n'])
      pure ending.status

def takeOutput (body : Option Command) : Run Text := do
  match body with
  | none => pure []
  | some command =>
      let buffer ← Run.host (Host.addBuffer [] .writing)
      let ending ← inSubshell below do
        Run.change fun shell =>
          { shell with
            descriptors := (1, buffer) :: shell.descriptors.filter fun entry => entry.1 ≠ 1 }
        below.run false command
      let status ← noticeEnding ending
      Run.change fun shell => { shell with outputStatus := status }
      let text ← Run.host (Host.bufferText buffer)
      pure ((text.reverse.dropWhile (· = '\n')).reverse.filter (· ≠ zero))

end

end Script

end ApiSurface
