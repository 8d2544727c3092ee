import ApiSurface.Host.Signal
import ApiSurface.Script.Condition
import ApiSurface.Script.Formatting
import ApiSurface.Tool.Basic

/-! Programs that print what they are told, and programs that do little else. -/

namespace ApiSurface

namespace Tool

open Host Script

def succeed : Utility := fun _ _ => pure success

def failing : Utility := fun _ _ => pure (.exited 1)

def hexEscape? (text : Text) : Option (Char × Nat) :=
  match text with
  | 'x' :: rest =>
      let digits := (rest.take 2).takeWhile (isDigitIn 16)
      if digits.isEmpty then none else some (Char.ofNat (valueIn 16 digits), digits.length + 1)
  | _ => none

def resolveEscapes : Nat → Text → Text × Bool
  | 0, _ => ([], false)
  | _ + 1, [] => ([], false)
  | fuel + 1, c :: rest =>
      let keep (shown : Char) (count : Nat) : Text × Bool :=
        let (others, ended) := resolveEscapes fuel (rest.drop count)
        (shown :: others, ended)
      if c ≠ '\\' then keep c 0
      else
        match rest with
        | 'c' :: _ => ([], true)
        | '0' :: _ =>
            let digits := ((rest.drop 1).take 3).takeWhile isOctal
            keep (Char.ofNat (valueIn 8 digits % 256)) (digits.length + 1)
        | _ =>
            match hexEscape? rest, letterEscape? (rest.headD ' ') with
            | some (shown, count), _ => keep shown count
            | none, some shown => keep shown 1
            | none, none => keep c 0

/-- The options in front of what is echoed: whether the line is left open, and whether escapes are
resolved. -/
def echoOptions : (isOpen resolves : Bool) → List Text → Bool × Bool × List Text
  | isOpen, resolves, ('-' :: c :: letters) :: rest =>
      let all := c :: letters
      if all.all fun letter => letter = 'n' || letter = 'e' || letter = 'E' then
        let last := (all.filter (· ≠ 'n')).getLast?
        echoOptions (isOpen || all.contains 'n')
          (match last with
            | some letter => letter = 'e'
            | none => resolves) rest
      else (isOpen, resolves, ('-' :: all) :: rest)
  | isOpen, resolves, words => (isOpen, resolves, words)

def echo : Utility := fun _ invocation => do
  let (isOpen, resolves, words) := echoOptions false false invocation.arguments
  let line := List.intercalate [' '] words
  let (text, ended) := if resolves then resolveEscapes (line.length + 1) line else (line, false)
  finish invocation 0 (if isOpen || ended then text else text ++ ['\n'])

def printf : Utility := fun _ invocation => do
  match invocation.arguments with
  | [] => misused invocation 1 "missing operand".toList
  | format :: rest =>
      let outcome := Formatting.outcome format rest
      outcome.complaints.forM invocation.complain
      if let some message := outcome.malformed then invocation.complain message
      let sound := outcome.complaints.isEmpty && outcome.malformed.isNone
      finish invocation (if sound then 0 else 1) outcome.printed

def judge (invocation : Invocation) (words : List Text) : Act Ending := do
  match Condition.holds ⟨← get, invocation.directory⟩ words with
  | .ok true => pure success
  | .ok false => pure (.exited 1)
  | .error message =>
      invocation.complain message
      pure (.exited 2)

def test : Utility := fun _ invocation => judge invocation invocation.arguments

def bracket : Utility := fun _ invocation => do
  if invocation.arguments.getLast? = some [']'] then judge invocation invocation.arguments.dropLast
  else
    invocation.complain "missing ']'".toList
    pure (.exited 2)

def withoutSlashes (path : Text) : Text :=
  (path.reverse.dropWhile (· = '/')).reverse

def lastPart (path : Text) : Text :=
  let trimmed := withoutSlashes path
  if trimmed.isEmpty then (if path.isEmpty then [] else ['/'])
  else
    match trimmed.cutLast '/' with
    | some (_, name) => name
    | none => trimmed

def parentPart (path : Text) : Text :=
  let trimmed := withoutSlashes path
  if trimmed.isEmpty then (if path.isEmpty then ['.'] else ['/'])
  else
    match trimmed.cutLast '/' with
    | some (directory, _) =>
        let parent := withoutSlashes directory
        if parent.isEmpty then ['/'] else parent
    | none => ['.']

def dropSuffix (suffix name : Text) : Text :=
  if suffix ≠ name then (Text.dropEnding? name suffix).getD name else name

def basename : Utility := fun _ invocation =>
  let known : List Known := [{ letter := 'a', long := "multiple" },
    { letter := 's', long := "suffix", takesValue := true }, { letter := 'z', long := "zero" }]
  match arguments known true invocation.arguments with
  | .error message => misused invocation 1 message
  | .ok given =>
      let ending : Text := if given.has 'z' then [Char.ofNat 0] else ['\n']
      let many := given.has 'a' || given.has 's'
      match given.operands with
      | [] => misused invocation 1 "missing operand".toList
      | path :: rest =>
          if many then
            let suffix := (given.value? 's').getD []
            finish invocation 0 (given.operands.flatMap fun operand =>
              dropSuffix suffix (lastPart operand) ++ ending)
          else
            match rest with
            | [] => finish invocation 0 (lastPart path ++ ending)
            | [suffix] => finish invocation 0 (dropSuffix suffix (lastPart path) ++ ending)
            | _ :: extra :: _ => misused invocation 1 ("extra operand ".toList ++ quoted extra)

def dirname : Utility := fun _ invocation =>
  match arguments [{ letter := 'z', long := "zero" }] true invocation.arguments with
  | .error message => misused invocation 1 message
  | .ok given =>
      let ending : Text := if given.has 'z' then [Char.ofNat 0] else ['\n']
      if given.operands.isEmpty then misused invocation 1 "missing operand".toList
      else finish invocation 0 (given.operands.flatMap fun path => parentPart path ++ ending)

def pwd : Utility := fun _ invocation =>
  finish invocation 0 (ofText (absolutePath invocation.directory) ++ ['\n'])

def whoami : Utility := fun _ invocation =>
  finish invocation 0 "root\n".toList

def sleep : Utility := fun _ invocation => do
  if invocation.arguments.isEmpty then misused invocation 1 "missing operand".toList
  else
    let isInterval (text : Text) : Bool :=
      match realAt? text with
      | some (_, rest) => rest.isEmpty || ["s", "m", "h", "d"].contains (String.ofList rest)
      | none => false
    match invocation.arguments.find? fun text => !isInterval text with
    | some text => misused invocation 1 ("invalid time interval ".toList ++ quoted text)
    | none => pure success

def yes : Utility := fun _ invocation => do
  let words := if invocation.arguments.isEmpty then [['y']] else invocation.arguments
  let line := List.intercalate [' '] words ++ ['\n']
  let count := 131072 / line.length + 1
  match ← invocation.print 1 (List.replicate count line).flatten with
  | .ok () => pure (.killed Signal.brokenPipe)
  | .error refusal =>
      invocation.complain ("standard output: ".toList ++ refusal.message)
      pure (.exited 1)

def countUp (step last : Int) : Nat → Int → List Int
  | 0, _ => []
  | fuel + 1, value =>
      if (0 < step && last < value) || (step < 0 && value < last) then []
      else value :: countUp step last fuel (value + step)

def seq : Utility := fun _ invocation => do
  let known : List Known := [{ letter := 's', long := "separator", takesValue := true },
    { letter := 'w', long := "equal-width" }]
  let isNumber (text : Text) : Bool :=
    match text with
    | '-' :: c :: _ => c.isDigit
    | _ => false
  let isOption (text : Text) : Bool := text.head? = some '-' && !isNumber text
  let settings := invocation.arguments.takeWhile isOption
  let separate : Bool := settings.getLast? = some ['-', 's']
  let count := settings.length + if separate then 1 else 0
  match arguments known true (invocation.arguments.take count) with
  | .error message => misused invocation 1 message
  | .ok given =>
      let operands := given.operands ++ invocation.arguments.drop count
      match operands.find? fun text => (integer? (some 10) text).isNone with
      | some text =>
          misused invocation 1 ("invalid floating point argument: ".toList ++ quoted text)
      | none =>
          let numbers := operands.filterMap (integer? (some 10))
          let listed (first step last : Int) : Act Ending :=
            let values := countUp step last ((last - first).natAbs + 2) first
            let texts := values.map showInt
            let width := (texts.map List.length).foldl max 0
            let shown := if given.has 'w' then
              values.map fun value => { zeros := true, width : NumberFormat }.signed value
              else texts
            if shown.isEmpty then pure success
            else
              finish invocation 0
                (List.intercalate ((given.value? 's').getD ['\n']) shown ++ ['\n'])
          match numbers with
          | [last] => listed 1 1 last
          | [first, last] => listed first 1 last
          | [first, step, last] =>
              if step = 0 then
                misused invocation 1
                  ("invalid Zero increment value: ".toList ++ quoted ((operands[1]?).getD []))
              else listed first step last
          | [] => misused invocation 1 "missing operand".toList
          | _ =>
              misused invocation 1
                ("extra operand ".toList ++ quoted ((operands[3]?).getD []))

end Tool

end ApiSurface
