import ApiSurface.Script.Builtin.Basic

namespace ApiSurface

namespace Script

namespace Builtin

def listing (mark : Text) (keep : Variable → Bool) : Run Text := do
  let shell ← Run.shell
  let kept := shell.bindings.filter fun entry => keep entry.2
  let sorted := kept.mergeSort fun left right => !decide (right.1 < left.1)
  pure (sorted.flatMap fun (name, found) =>
    let value := (found.value.map fun text => '=' :: singleQuoted text).getD []
    mark ++ name ++ value ++ ['\n'])

def markVariables (word : String) (mark : Variable → Variable) (isMarked : Variable → Bool) :
    Action := fun words => do
  let (found, rest) ← options "p" words
  if rest.isEmpty || !found.isEmpty then
    print (← listing (word.toList ++ [' ']) isMarked)
  else
    rest.forM fun argument => do
      let (name, value) :=
        match argument.cutFirst '=' with
        | some (name, value) => (name, some value)
        | none => (argument, none)
      if !isName name then Run.fail (name ++ ": bad variable name".toList)
      match value with
      | some text => Run.assign name text false
      | none => pure ()
      let current := ((← Run.shell).bindings.lookup name).getD ⟨none, false, false⟩
      Run.put name (mark current)
    pure 0

def exportVariables : Action :=
  markVariables "export" (fun found => { found with exported := true }) Variable.exported

def fixVariables : Action :=
  markVariables "readonly" (fun found => { found with fixed := true }) Variable.fixed

def localVariables : Action := fun words => do
  if (← Run.shell).scopes.isEmpty then Run.fail "not in a function".toList
  words.forM fun argument => do
    if argument = ['-'] then
      Run.change fun shell =>
        { shell with savedOptions := some shell.options :: shell.savedOptions.drop 1 }
    else
      match argument.cutFirst '=' with
      | some (name, value) =>
          if !isName name then Run.fail (name ++ ": bad variable name".toList)
          Run.localize name
          Run.assign name value false
      | none =>
          if !isName argument then Run.fail (argument ++ ": bad variable name".toList)
          Run.localize argument
  pure 0

def unsetVariables : Action := fun words => do
  let (found, rest) ← options "vf" words
  let ofFunctions : Bool := (found.getLast?.map Prod.fst) = some 'f'
  rest.forM fun name => do
    if ofFunctions then
      Run.change fun shell =>
        { shell with functions := shell.functions.filter fun entry => entry.1 ≠ name }
    else
      if !isName name then Run.fail (name ++ ": bad variable name".toList)
      Run.unassign name
  pure 0

def optionNames : List (Text × Char) :=
  [("errexit", 'e'), ("noglob", 'f'), ("ignoreeof", 'I'), ("interactive", 'i'), ("monitor", 'm'),
    ("noexec", 'n'), ("stdin", 's'), ("xtrace", 'x'), ("verbose", 'v'), ("vi", 'V'),
    ("emacs", 'E'), ("noclobber", 'C'), ("allexport", 'a'), ("notify", 'b'), ("nounset", 'u'),
    ("privileged", 'p'), ("nolog", ' '), ("debug", ' ')].map
      fun (name, letter) => (name.toList, letter)

def Options.with? (options : Options) (letter : Char) (on : Bool) : Option Options :=
  match letter with
  | 'e' => some { options with stopsOnFailure := on }
  | 'u' => some { options with refusesUnset := on }
  | 'x' => some { options with traces := on }
  | 'f' => some { options with ignoresPatterns := on }
  | 'n' => some { options with runsNothing := on }
  | 'a' => some { options with exportsAll := on }
  | 'C' => some { options with keepsFiles := on }
  | 'v' => some { options with echoesInput := on }
  | 's' => some { options with readsInput := on }
  | 'I' | 'i' | 'm' | 'V' | 'E' | 'b' | 'p' => some options
  | _ => none

def Options.isOn (options : Options) (letter : Char) : Bool :=
  (optionLetters options).contains letter

def setOption (letter : Char) (on : Bool) : Run Unit := do
  match Options.with? (← Run.shell).options letter on with
  | some options => Run.change fun shell => { shell with options }
  | none => Run.fail ("Illegal option -".toList ++ [letter])

def setNamedOption (name : Text) (on : Bool) : Run Unit := do
  match optionNames.lookup name with
  | some ' ' => pure ()
  | some letter => setOption letter on
  | none => Run.fail ("Illegal option -o ".toList ++ name)

def optionTable (asTable : Bool) : Run Text := do
  let options := (← Run.shell).options
  let line (entry : Text × Char) : Text :=
    let isOn := Options.isOn options entry.2
    if asTable then
      entry.1 ++ List.replicate (16 - entry.1.length) ' '
        ++ (if isOn then "on\n".toList else "off\n".toList)
    else
      "set ".toList ++ (if isOn then "-o ".toList else "+o ".toList) ++ entry.1 ++ ['\n']
  let heading := if asTable then "Current option settings\n".toList else []
  pure (heading ++ optionNames.flatMap line)

/-- Reads the options in front of arguments.  Gives the arguments behind them, if there are any or
if two dashes say that there are none. -/
def takeSettings : Nat → List Text → Run (Option (List Text))
  | 0, words => pure (some words)
  | _ + 1, [] => pure none
  | _ + 1, ['-'] :: rest => do
      setOption 'x' false
      setOption 'v' false
      pure (if rest.isEmpty then none else some rest)
  | _ + 1, ['-', '-'] :: rest => pure (some rest)
  | fuel + 1, (sign :: letters) :: rest => do
      if (sign ≠ '-' && sign ≠ '+') || letters.isEmpty then pure (some ((sign :: letters) :: rest))
      else
        let on : Bool := sign = '-'
        let after ← letters.foldlM
          (fun (rest : List Text) letter => do
            if letter = 'o' then
              match rest with
              | [] =>
                  let _ ← print (← optionTable on)
                  pure []
              | name :: others =>
                  setNamedOption name on
                  pure others
            else
              setOption letter on
              pure rest)
          rest
        takeSettings fuel after
  | _ + 1, [] :: rest => pure (some ([] :: rest))

def setArguments (arguments : List Text) : Run Unit :=
  Run.change fun shell => { shell with arguments, optionIndex := 1, optionOffset := none }

def setCommand : Action := fun words => do
  if words.isEmpty then print (← listing [] fun found => found.value.isSome)
  else
    match ← takeSettings (words.length + 1) words with
    | some arguments => setArguments arguments
    | none => pure ()
    pure 0

def shift : Action := fun words => do
  let count ←
    match words with
    | [] => pure 1
    | text :: _ => number text
  let shell ← Run.shell
  if shell.arguments.length < count then Run.fail "can't shift that many".toList
  setArguments (shell.arguments.drop count)
  pure 0

/-- A line of input as far as its end, and how many bytes it takes.  A backslash protects the
character after it, and joins the next line to this one. -/
def inputLine (raw : Bool) : Nat → Text → List Sign × Nat × Bool
  | 0, _ => ([], 0, false)
  | _ + 1, [] => ([], 0, false)
  | fuel + 1, c :: rest =>
      let more (signs : List Sign) (count : Nat) (rest : Text) : List Sign × Nat × Bool :=
        let (others, length, ended) := inputLine raw fuel rest
        (signs ++ others, length + count, ended)
      if c = '\n' then ([], 1, true)
      else if c = zero then more [] 1 rest
      else if c = '\\' && !raw then
        match rest with
        | [] => ([], 1, false)
        | '\n' :: after => more [] 2 after
        | d :: after => more [(d, true)] 2 after
      else more [(c, false)] 1 rest

def readVariables : Action := fun words => do
  let (found, names) ← options "p:r" words
  if let some prompt := found.lookup 'p' then
    let _ ← Run.printTo 2 prompt
  if names.isEmpty then Run.fail "arg count".toList
  let shell ← Run.shell
  let raw := (found.lookup 'r').isSome
  let (signs, ended) ←
    match shell.descriptors.lookup 0 with
    | none => pure ([], false)
    | some stream =>
        match ← Run.host (Host.unread stream) with
        | .error _ => pure ([], false)
        | .ok text =>
            let (signs, length, ended) := inputLine raw (text.length + 1) text
            Run.host (Host.skip stream length)
            pure (signs, ended)
  let dividers ← Run.dividers
  let start := signs.dropWhile (isLineBlank dividers)
  let values := lineFields dividers names.length start
  (names.zip (values ++ List.replicate names.length [])).forM fun (name, value) =>
    Run.assign name value false
  pure (if ended then 0 else 1)

structure OptionStep where
  letter : Char
  value : Option Text
  index : Nat
  offset : Option Nat
  done : Bool
  complaint : Option Text := none

def knownOption? (known : Text) (c : Char) : Option Bool :=
  match Text.cutFirst c (known.dropWhile (· = ':')) with
  | some (_, after) => if c = ':' then none else some (after.head? = some ':')
  | none => none

/-- The next option among arguments.  `index` counts from one and `offset` is a place inside the
argument before it. -/
def optionStep (known : Text) (index : Nat) (offset : Option Nat) (arguments : List Text) :
    OptionStep :=
  let isQuiet : Bool := known.head? = some ':'
  let inside : Text :=
    match offset with
    | some place => if 1 < index then ((arguments[index - 2]?).getD []).drop place else []
    | none => []
  let current := arguments[index - 1]?
  let start : Option (Text × Nat) :=
    if !inside.isEmpty then some (inside, index)
    else
      match current with
      | some ('-' :: c :: letters) => some (c :: letters, index + 1)
      | _ => none
  match start with
  | none => ⟨'?', none, index, none, true, none⟩
  | some (['-'], next) =>
      if inside.isEmpty then ⟨'?', none, next, none, true, none⟩
      else ⟨'?', none, next, none, false, none⟩
  | some ([], next) => ⟨'?', none, next, none, true, none⟩
  | some (c :: letters, next) =>
      let word := (arguments[next - 2]?).getD []
      let later : Option Nat := some (word.length - letters.length)
      match knownOption? known c with
      | none =>
          if isQuiet then ⟨'?', some [c], next, later, false, none⟩
          else ⟨'?', none, next, later, false, some ("Illegal option -".toList ++ [c])⟩
      | some false => ⟨c, some [], next, later, false, none⟩
      | some true =>
          if !letters.isEmpty then ⟨c, some letters, next, none, false, none⟩
          else
            match arguments[next - 1]? with
            | some value => ⟨c, some value, next + 1, none, false, none⟩
            | none =>
                if isQuiet then ⟨':', some [c], next, none, false, none⟩
                else
                  ⟨'?', none, next, none, false,
                    some ("No arg for -".toList ++ [c] ++ " option".toList)⟩

def getOptions : Action := fun words => do
  match words with
  | known :: name :: given =>
      let shell ← Run.shell
      let arguments := if given.isEmpty then shell.arguments else given
      let step := optionStep known shell.optionIndex shell.optionOffset arguments
      if let some complaint := step.complaint then
        let _ ← Run.printTo 2 (complaint ++ ['\n'])
      if !step.done then
        match step.value with
        | some value => Run.assign "OPTARG".toList value false
        | none => Run.unassign "OPTARG".toList
      Run.assign "OPTIND".toList (showNat step.index) false
      Run.assign name [step.letter] false
      Run.change fun shell =>
        { shell with optionIndex := step.index, optionOffset := step.offset }
      pure (if step.done then 1 else 0)
  | _ => Run.fail "Usage: getopts optstring var [arg...]".toList

def aliasCommand : Action := fun words => do
  if words.isEmpty then
    let shell ← Run.shell
    let sorted := shell.aliases.mergeSort fun left right => !decide (right.1 < left.1)
    print (sorted.flatMap fun (name, value) => name ++ '=' :: singleQuoted value ++ ['\n'])
  else
    words.foldlM
      (fun status word => do
        match word.cutFirst '=' with
        | some (name, value) =>
            Run.change fun shell =>
              { shell with
                aliases := (name, value) :: shell.aliases.filter fun entry => entry.1 ≠ name }
            pure status
        | none =>
            match (← Run.shell).aliases.lookup word with
            | some value =>
                let _ ← print (word ++ '=' :: singleQuoted value ++ ['\n'])
                pure status
            | none =>
                let _ ← Run.printTo 2 ("alias: ".toList ++ word ++ " not found\n".toList)
                pure 1)
      0

def unaliasCommand : Action := fun words => do
  let (found, rest) ← options "a" words
  if !found.isEmpty then
    Run.change fun shell => { shell with aliases := [] }
    pure 0
  else
    rest.foldlM
      (fun status name => do
        if ((← Run.shell).aliases.lookup name).isNone then
          let _ ← Run.printTo 2 ("unalias: ".toList ++ name ++ " not found\n".toList)
          pure 1
        else
          Run.change fun shell =>
            { shell with aliases := shell.aliases.filter fun entry => entry.1 ≠ name }
          pure status)
      0

def octalText (value : Nat) : Text :=
  let digits := Nat.toDigits 8 value
  List.replicate (4 - digits.length) '0' ++ digits

def maskCommand : Action := fun words => do
  let (found, rest) ← options "S" words
  match rest with
  | [] =>
      let mask := (← Run.shell).mask
      if found.isEmpty then print (octalText mask ++ ['\n'])
      else
        let rights (place : Nat) : Text :=
          let denied := mask / Nat.pow 8 place % 8
          (if denied / 4 = 0 then ['r'] else []) ++ (if denied / 2 % 2 = 0 then ['w'] else [])
            ++ (if denied % 2 = 0 then ['x'] else [])
        print ("u=".toList ++ rights 2 ++ ",g=".toList ++ rights 1 ++ ",o=".toList ++ rights 0
          ++ ['\n'])
  | text :: _ =>
      if text.all isOctal then
        Run.change fun shell => { shell with mask := valueIn 8 text % 512 }
        pure 0
      else if (text.headD ' ').isDigit then illegalNumber text
      else pure 0

end Builtin

end Script

end ApiSurface
