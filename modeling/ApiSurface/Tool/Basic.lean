import ApiSurface.Host.Invocation

namespace ApiSurface

namespace Tool

open Host

abbrev Utility := Launcher → Invocation → Act Ending

structure Known where
  letter : Char
  long : String := ""
  takesValue : Bool := false

structure Given where
  options : List (Char × Text) := []
  operands : List Text := []

namespace Given

def has (given : Given) (letter : Char) : Bool :=
  (given.options.lookup letter).isSome

def value? (given : Given) (letter : Char) : Option Text :=
  given.options.reverse.lookup letter

def values (given : Given) (letter : Char) : List Text :=
  (given.options.filter fun option => option.1 = letter).map Prod.snd

def addOption (given : Given) (letter : Char) (value : Text) : Given :=
  { given with options := given.options ++ [(letter, value)] }

def addOperand (given : Given) (operand : Text) : Given :=
  { given with operands := given.operands ++ [operand] }

end Given

def quoted (text : Text) : Text :=
  '\'' :: text ++ ['\'']

/-- The options in a cluster of letters, and whether the last of them took the next argument. -/
def takeLetters (known : List Known) (next : Option Text) :
    Given → Text → Except Text (Given × Bool)
  | given, [] => .ok (given, false)
  | given, letter :: rest =>
      match known.find? fun option => option.letter = letter with
      | none => .error ("invalid option -- ".toList ++ quoted [letter])
      | some option =>
          if option.takesValue then
            if rest.isEmpty then
              match next with
              | some value => .ok (given.addOption letter value, true)
              | none => .error ("option requires an argument -- ".toList ++ quoted [letter])
            else .ok (given.addOption letter rest, false)
          else takeLetters known next (given.addOption letter []) rest

def takeLong (known : List Known) (next : Option Text) (given : Given) (argument : Text) :
    Except Text (Given × Bool) :=
  let (name, value) : Text × Option Text :=
    match argument.cutFirst '=' with
    | some (name, value) => (name, some value)
    | none => (argument, none)
  let exact := known.filter fun option => option.long.toList = name
  let partly := known.filter fun option =>
    option.long ≠ "" && name.isPrefixOf option.long.toList
  match (if exact.isEmpty then partly else exact) with
  | [option] =>
      if option.takesValue then
        match value, next with
        | some text, _ => .ok (given.addOption option.letter text, false)
        | none, some text => .ok (given.addOption option.letter text, true)
        | none, none =>
            .error ("option ".toList ++ quoted ("--".toList ++ option.long.toList)
              ++ " requires an argument".toList)
      else
        match value with
        | none => .ok (given.addOption option.letter [], false)
        | some _ =>
            .error ("option ".toList ++ quoted ("--".toList ++ option.long.toList)
              ++ " doesn't allow an argument".toList)
  | _ => .error ("unrecognized option ".toList ++ quoted ("--".toList ++ argument))

/-- Sorts arguments into options and operands, wherever they stand.  If `strict`, the first operand
ends the options. -/
def takeArguments (known : List Known) (strict : Bool) :
    Nat → Given → List Text → Except Text Given
  | 0, given, _ => .ok given
  | _ + 1, given, [] => .ok given
  | fuel + 1, given, argument :: rest =>
      let goOn (result : Except Text (Given × Bool)) : Except Text Given := do
        let (found, tookNext) ← result
        takeArguments known strict fuel found (if tookNext then rest.drop 1 else rest)
      match argument with
      | ['-', '-'] => .ok { given with operands := given.operands ++ rest }
      | '-' :: '-' :: name => goOn (takeLong known rest.head? given name)
      | '-' :: c :: letters => goOn (takeLetters known rest.head? given (c :: letters))
      | _ =>
          if strict then .ok { given with operands := given.operands ++ argument :: rest }
          else takeArguments known strict fuel (given.addOperand argument) rest

def arguments (known : List Known) (strict : Bool) (given : List Text) : Except Text Given :=
  takeArguments known strict (given.length + 1) {} given

def success : Ending :=
  .exited 0

def hintAt (invocation : Invocation) : Text :=
  "Try '".toList ++ invocation.name ++ " --help' for more information.".toList

def misused (invocation : Invocation) (status : Nat) (message : Text) : Act Ending := do
  invocation.complain message
  let _ ← invocation.print 2 (hintAt invocation ++ ['\n'])
  pure (.exited status)

def withArguments (known : List Known) (invocation : Invocation) (status : Nat)
    (act : Given → Act Ending) : Act Ending := do
  match arguments known false invocation.arguments with
  | .ok given => act given
  | .error message => misused invocation status message

def finish (invocation : Invocation) (status : Nat) (text : Text) : Act Ending := do
  match ← invocation.print 1 text with
  | .ok () => pure (.exited status)
  | .error refusal =>
      invocation.complain ("write error: ".toList ++ refusal.message)
      pure (.exited (if status = 0 then 1 else status))

def readOperand (invocation : Invocation) (operand : Text) : Act (Except Refusal Text) :=
  if operand = ['-'] then invocation.readInput else invocation.readFile operand

/-- Reads operands, or the input if there are none.  Complains about those that cannot be read. -/
def readOperands (invocation : Invocation) (operands : List Text) :
    Act (List (Text × Text) × Bool) := do
  let named := if operands.isEmpty then [['-']] else operands
  named.foldlM
    (fun (found, sound) operand => do
      match ← readOperand invocation operand with
      | .ok text => pure (found ++ [(operand, text)], sound)
      | .error refusal =>
          invocation.complain (operand ++ ": ".toList ++ refusal.message)
          pure (found, false))
    ([], true)

def linesOf (text : Text) : List Text × Bool :=
  if text.isEmpty then ([], true)
  else
    let parts := text.splitOn '\n'
    if parts.getLast? = some [] then (parts.dropLast, true) else (parts, false)

def unlines (lines : List Text) : Text :=
  lines.flatMap fun line => line ++ ['\n']

end Tool

end ApiSurface
