import ApiSurface.Host.Machine

/-! How a program is started: with arguments, an environment, streams and a directory. -/

namespace ApiSurface

namespace Host

structure Invocation where
  name : Text
  arguments : List Text
  environment : List (Text × Text)
  descriptors : Descriptors
  directory : Path
  ignored : List Nat := []
  /-- How much the program may write into a file, in bytes. -/
  fileBytes : Option Nat := none

abbrev Launcher := Text → Invocation → Act (Except Refusal Ending)

/-- The program that is the first process: what it was called with, and how it is started again. -/
structure FirstProgram where
  words : List Text := []
  start : Invocation → Act Ending := fun _ => pure (.exited 127)

def standardSearchPath : Text :=
  "/bin:/usr/bin".toList

/-- Where a program of a given name can be.  A name with a slash is not searched for. -/
def candidates (searchPath name : Text) : List Text :=
  if name.contains '/' then [name]
  else
    (searchPath.splitOn ':').map fun directory =>
      if directory.isEmpty then name else directory ++ '/' :: name

/-- Tries one candidate after the other.  A refusal for want of the file or of permission leaves it
to the next one. -/
def launchFirst (launch : Launcher) (invocation : Invocation) :
    Refusal → List Text → Act (Except Refusal Ending)
  | refusal, [] => pure (.error refusal)
  | refusal, path :: rest => do
      match ← launch path invocation with
      | .ok ending => pure (.ok ending)
      | .error .noEntry => launchFirst launch invocation refusal rest
      | .error .notDirectory => launchFirst launch invocation refusal rest
      | .error .accessDenied => launchFirst launch invocation .accessDenied rest
      | .error other => pure (.error other)

def launchNamed (launch : Launcher) (name : Text) (invocation : Invocation) :
    Act (Except Refusal Ending) := do
  if name.isEmpty then return .error .noEntry
  let searchPath := (invocation.environment.lookup "PATH".toList).getD standardSearchPath
  launchFirst launch invocation .noEntry (candidates searchPath name)

namespace Invocation

def print (invocation : Invocation) (descriptor : Nat) (text : Text) :
    Act (Except Refusal Unit) := do
  match invocation.descriptors.lookup descriptor with
  | some stream => write stream text
  | none => pure (if text.isEmpty then .ok () else .error .badDescriptor)

def complain (invocation : Invocation) (message : Text) : Act Unit := do
  let _ ← invocation.print 2 (invocation.name ++ ": ".toList ++ message ++ ['\n'])

def readAll (stream : Nat) : Act (Except Refusal Text) := do
  match ← unread stream with
  | .ok text =>
      skip stream text.length
      pure (.ok text)
  | .error refusal => pure (.error refusal)

def readInput (invocation : Invocation) : Act (Except Refusal Text) := do
  match invocation.descriptors.lookup 0 with
  | some stream => readAll stream
  | none => pure (.error .badDescriptor)

def readFile (invocation : Invocation) (path : Text) : Act (Except Refusal Text) := do
  match ← openFile invocation.directory (Script.toText path) .reading with
  | .ok stream => readAll stream
  | .error refusal => pure (.error refusal)

end Invocation

end Host

end ApiSurface
