import ApiSurface.Script.ByteText
import ApiSurface.Tool.Basic

/-! Programs that start other programs, or show what programs are started with. -/

namespace ApiSurface

namespace Tool

open Host Script

/-- Starts a program and gives what it ended with, or tells why it could not be started. -/
def start (launch : Launcher) (invocation : Invocation) (shown : Text → Text) (name : Text)
    (arguments : List Text) (environment : List (Text × Text)) : Act Ending := do
  match ← launchNamed launch name { invocation with name, arguments, environment } with
  | .ok ending => pure ending
  | .error refusal =>
      invocation.complain (shown name ++ ": ".toList ++ refusal.message)
      pure (.exited (if refusal = .noEntry then 127 else 126))

def withSetting (environment : List (Text × Text)) (name value : Text) : List (Text × Text) :=
  if (environment.lookup name).isSome then
    environment.map fun (other, old) => (other, if other = name then value else old)
  else environment ++ [(name, value)]

def shownSettings (environment : List (Text × Text)) : Text :=
  unlines (environment.map fun (name, value) => name ++ '=' :: value)

def takeSettings : List (Text × Text) → List Text → List (Text × Text) × List Text
  | environment, [] => (environment, [])
  | environment, argument :: rest =>
      match argument.cutFirst '=' with
      | some (name, value) => takeSettings (withSetting environment name value) rest
      | none => (environment, argument :: rest)

def env : Utility := fun launch invocation => do
  let known : List Known := [{ letter := 'i', long := "ignore-environment" },
    { letter := 'u', long := "unset", takesValue := true }]
  let isDash (argument : Text) : Bool := argument = ['-']
  let given := invocation.arguments.dropWhile isDash
  match arguments known true given with
  | .error message => misused invocation 125 message
  | .ok found =>
      let isFresh := found.has 'i' || given.length < invocation.arguments.length
      let base := if isFresh then [] else invocation.environment
      let kept := base.filter fun (name, _) => !(found.values 'u').contains name
      let (environment, command) := takeSettings kept found.operands
      match command with
      | [] => finish invocation 0 (shownSettings environment)
      | name :: rest => start launch invocation quoted name rest environment

def printenv : Utility := fun _ invocation => do
  if invocation.arguments.isEmpty then
    finish invocation 0 (shownSettings invocation.environment)
  else
    let found := invocation.arguments.filterMap fun name => invocation.environment.lookup name
    let status := if found.length = invocation.arguments.length then 0 else 1
    finish invocation status (unlines found)

def nohup : Utility := fun launch invocation => do
  match invocation.arguments with
  | [] => misused invocation 125 "missing operand".toList
  | name :: rest =>
      let deaf := { invocation with ignored := 1 :: invocation.ignored }
      start launch deaf quoted name rest invocation.environment

/-- The words of an input, where quotes and backslashes keep blanks.  The state is the quote that is
open and the word that has begun. -/
def inputWords : Option Char → Option Text → Text → List Text
  | _, word, [] => word.toList
  | some quote, word, c :: rest =>
      if c = quote then inputWords none (some (word.getD [])) rest
      else inputWords (some quote) (some (word.getD [] ++ [c])) rest
  | none, word, '\\' :: c :: rest => inputWords none (some (word.getD [] ++ [c])) rest
  | none, word, c :: rest =>
      if c = '\'' || c = '"' then inputWords (some c) (some (word.getD [])) rest
      else if isSpace c then word.toList ++ inputWords none none rest
      else inputWords none (some (word.getD [] ++ [c])) rest

def inParts {α : Type} (size : Nat) : Nat → List α → List (List α)
  | 0, _ => []
  | _ + 1, [] => []
  | fuel + 1, items => items.take size :: inParts size fuel (items.drop size)

def substituting (mark text : Text) : Nat → Text → Text
  | 0, rest => rest
  | _ + 1, [] => []
  | fuel + 1, c :: rest =>
      if !mark.isEmpty && mark.isPrefixOf (c :: rest) then
        text ++ substituting mark text fuel ((c :: rest).drop mark.length)
      else c :: substituting mark text fuel rest

def xargs : Utility := fun launch invocation => do
  let known : List Known := [{ letter := 'n', long := "max-args", takesValue := true },
    { letter := 'I', takesValue := true }, { letter := 'r', long := "no-run-if-empty" },
    { letter := '0', long := "null" }, { letter := 't', long := "verbose" },
    { letter := 'L', long := "max-lines", takesValue := true }]
  match arguments known true invocation.arguments with
  | .error message => misused invocation 1 message
  | .ok given =>
      let text :=
        match ← invocation.readInput with
        | .ok text => text
        | .error _ => []
      let words : List Text :=
        if given.has '0' then
          let parts := text.splitOn (Char.ofNat 0)
          if parts.getLast? = some [] then parts.dropLast else parts
        else if given.has 'I' then
          ((linesOf text).1.map fun line => line.dropWhile isSpace).filter fun line => line ≠ []
        else inputWords none none text
      let command := if given.operands.isEmpty then ["echo".toList] else given.operands
      let calls : List (List Text) :=
        match given.value? 'I', given.value? 'n' with
        | some mark, _ =>
            words.map fun word =>
              command.map fun argument =>
                substituting mark word (argument.length + 1) argument
        | none, some size => (inParts (max 1 (valueIn 10 size)) (words.length + 1) words).map
            (command ++ ·)
        | none, none => [command ++ words]
      let wanted := if words.isEmpty && given.has 'r' then [] else calls
      let status ← wanted.foldlM
        (fun status call => do
          if 123 < status then pure status
          else
            let ending ←
              start launch invocation id (call.headD []) (call.drop 1) invocation.environment
            match ending with
            | .exited 0 => pure status
            | .exited 255 => pure 124
            | .exited code => pure (if code = 126 || code = 127 then code else 123)
            | .killed _ => pure 125)
        0
      pure (.exited status)

end Tool

end ApiSurface
