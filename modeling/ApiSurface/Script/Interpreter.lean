import ApiSurface.Host.Invocation
import ApiSurface.Script.Field
import ApiSurface.Script.Session

/-!
What the parts of an interpreter need of each other.  Words hold commands and commands hold words,
so each part is written for an interpreter one level down.
-/

namespace ApiSurface

namespace Script

structure Mode where
  /-- Whether the word is divided into fields afterwards. -/
  divides : Bool := false
  /-- Whether a tilde in front stands for a home directory. -/
  tilde : Bool := false
  /-- Whether the word is an assignment, with tildes behind its marks too. -/
  assigns : Bool := false
  quoted : Bool := false
  inside : Bool := false
deriving DecidableEq, Repr

structure Interpreter where
  expand : Mode → Word → Run (List Segment)
  /-- Runs a command.  If `tested`, its failure is taken notice of. -/
  run : (tested : Bool) → Command → Run Unit
  /-- Runs a text as a script, and gives the status of its last command. -/
  script : (tested : Bool) → Text → Run Nat
  launch : Host.Launcher

end Script

end ApiSurface
