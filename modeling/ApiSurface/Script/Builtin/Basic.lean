import ApiSurface.Script.Condition
import ApiSurface.Script.Formatting
import ApiSurface.Script.Redirecting

/-! What built-in commands have in common, and those of them that print. -/

namespace ApiSurface

namespace Script

namespace Builtin

abbrev Action := List Text → Run Nat

/-- Prints what a command has to say.  If that is impossible, the command has failed. -/
def print (text : Text) : Run Nat := do
  if ← Run.printTo 1 text then pure 0
  else
    let name := ((← Run.shell).command).getD []
    Run.warn (name ++ ": I/O error".toList)
    pure 1

def illegalNumber {α : Type} (text : Text) : Run α :=
  Run.fail ("Illegal number: ".toList ++ text)

def number (text : Text) : Run Nat := do
  match integer? (some 10) text with
  | some value =>
      if 0 ≤ value && value < Int.pow 2 31 then pure value.toNat else illegalNumber text
  | none => illegalNumber text

/-- Takes options off the front of arguments.  `known` lists their letters, with a colon behind
those that take a value. -/
def takeOptions (known : Text) : Nat → List (Char × Text) → List Text →
    Run (List (Char × Text) × List Text)
  | 0, found, arguments => pure (found.reverse, arguments)
  | fuel + 1, found, arguments => do
      match arguments with
      | ['-', '-'] :: rest => pure (found.reverse, rest)
      | ('-' :: c :: letters) :: rest =>
          match known.cutFirst c with
          | none => Run.fail ("Illegal option -".toList ++ [c])
          | some (_, after) =>
              if c ≠ ':' && after.head? = some ':' then
                match letters, rest with
                | [], [] => Run.fail ("No arg for -".toList ++ [c] ++ " option".toList)
                | [], value :: others => takeOptions known fuel ((c, value) :: found) others
                | _, _ => takeOptions known fuel ((c, letters) :: found) rest
              else if letters.isEmpty then takeOptions known fuel ((c, []) :: found) rest
              else takeOptions known fuel ((c, []) :: found) (('-' :: letters) :: rest)
      | _ => pure (found.reverse, arguments)

def options (known : String) (arguments : List Text) : Run (List (Char × Text) × List Text) :=
  takeOptions known.toList (arguments.flatten.length + arguments.length + 1) [] arguments

def singleQuoted (text : Text) : Text :=
  '\'' :: (text.flatMap fun c => if c = '\'' then "'\"'\"'".toList else [c]) ++ ['\'']

def echo : Action := fun words =>
  print (echoText words)

def printf : Action := fun words => do
  match (← options "" words).2 with
  | [] => Run.fail "usage: printf format [arg ...]".toList
  | format :: arguments =>
      let outcome := Formatting.outcome format arguments
      outcome.complaints.forM Run.warn
      let status ← print outcome.printed
      match outcome.malformed with
      | some message => Run.fail message
      | none => pure (if outcome.complaints.isEmpty then status else 1)

def test : Action := fun words => do
  let session ← get
  match Condition.holds ⟨session.machine, session.shell.directory⟩ words with
  | .ok true => pure 0
  | .ok false => pure 1
  | .error message => Run.fail message

def bracket : Action := fun words => do
  if words.getLast?.bind List.head? = some ']' then test words.dropLast
  else Run.fail "missing ]".toList

def tidied (path : Path) : Path :=
  let steps := (Path.steps path).foldl
    (fun (found : List Text) step =>
      match step with
      | .stay => found
      | .up => found.drop 1
      | .into name => name :: found)
    []
  '/' :: List.intercalate ['/'] steps.reverse

def changeDirectory (target : Text) (prints : Bool) : Run Nat := do
  let shell ← Run.shell
  let before := Host.absolutePath shell.directory
  if target.isEmpty then return (← if prints then print (ofText before ++ ['\n']) else pure 0)
  let after := tidied (Path.join before (toText target))
  match ← Run.host (Host.find? [] after) with
  | some (_, .directory _) =>
      Run.change fun shell => { shell with directory := Host.directoryAt after }
      Run.assign "OLDPWD".toList (ofText before) true
      Run.assign "PWD".toList (ofText after) true
      if prints then print (ofText after ++ ['\n']) else pure 0
  | _ => Run.fail ("can't cd to ".toList ++ target)

/-- The directory that a name reaches from one of those in which directories are searched for. -/
def reached (target : Text) : Run (Option Text) := do
  let isPlain : Bool :=
    !(target.head? = some '/' || target = ['.'] || target = ['.', '.']
      || "./".toList.isPrefixOf target || "../".toList.isPrefixOf target)
  match ← Run.value? "CDPATH".toList with
  | none => pure none
  | some bases =>
      if !isPlain || bases.isEmpty then return none
      let before := Host.absolutePath (← Run.shell).directory
      let isThere (base : Text) : Run Bool := do
        let path := tidied (Path.join before (toText (base ++ '/' :: target)))
        match ← Run.host (Host.find? [] path) with
        | some (_, .directory _) => pure true
        | _ => pure false
      let found ← (bases.splitOn ':').findM? fun base =>
        isThere (if base.isEmpty then ['.'] else base)
      pure (found.bind fun base =>
        if base.isEmpty then none else some (base ++ '/' :: target))

def cd : Action := fun words => do
  let (_, rest) ← options "LP" words
  match rest with
  | [] =>
      changeDirectory ((← Run.value? "HOME".toList).getD []) false
  | ['-'] :: _ =>
      changeDirectory ((← Run.value? "OLDPWD".toList).getD []) true
  | target :: _ =>
      match ← reached target with
      | some path => changeDirectory path true
      | none => changeDirectory target false

def pwd : Action := fun _ => do
  print (ofText (Host.absolutePath (← Run.shell).directory) ++ ['\n'])

end Builtin

end Script

end ApiSurface
