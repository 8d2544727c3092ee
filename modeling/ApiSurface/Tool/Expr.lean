import ApiSurface.Tool.Regex
import ApiSurface.Tool.Basic

namespace ApiSurface

namespace Tool

open Host Script

namespace Expr

inductive Problem where
  | missingArgument (after : Text)
  | unexpected (argument : Text)
  | missingParenthesis (after : Text)
  | notInteger
  | divisionByZero
  | regex (message : Text)

def Problem.message : Problem → Text
  | .missingArgument after =>
      "syntax error: missing argument after ".toList ++ quoted after
  | .unexpected argument => "syntax error: unexpected argument ".toList ++ quoted argument
  | .missingParenthesis after => "syntax error: expecting ')' after ".toList ++ quoted after
  | .notInteger => "non-integer argument".toList
  | .divisionByZero => "division by zero".toList
  | .regex message => message

structure Words where
  rest : List Text
  latest : Text := []

abbrev Evaluation := EStateM Problem Words

def take : Evaluation Unit :=
  modify fun words => ⟨words.rest.drop 1, words.rest.headD []⟩

def whole? (text : Text) : Option Int :=
  match text with
  | '-' :: digits => if digits.isEmpty || !digits.all Char.isDigit then none
      else some (-(valueIn 10 digits : Int))
  | digits => if digits.isEmpty || !digits.all Char.isDigit then none
      else some (valueIn 10 digits)

def number (text : Text) : Evaluation Int :=
  match whole? text with
  | some value => pure value
  | none => throw .notInteger

def isNull (text : Text) : Bool :=
  text.isEmpty || whole? text = some 0

def truth (holds : Bool) : Text :=
  if holds then ['1'] else ['0']

def matching (text pattern : Text) : Evaluation Text := do
  match Regex.compile false false pattern with
  | .error message => throw (.regex message)
  | .ok regex =>
      let hasGroup : Bool := regex.branches.any fun nodes =>
        nodes.any fun node =>
          match node with
          | .group index _ => index ≠ 0
          | _ => false
      match regex.matchAt? text none text 0 with
      | none => pure (if hasGroup then [] else ['0'])
      | some found =>
          pure (if hasGroup then found.group text 1 else showNat found.ending)

def compared (operator left right : Text) : Bool :=
  let isLess : Bool :=
    match whole? left, whole? right with
    | some a, some b => a < b
    | _, _ => left < right
  let isEqual : Bool :=
    match whole? left, whole? right with
    | some a, some b => a = b
    | _, _ => left = right
  match operator with
  | ['<'] => isLess
  | ['<', '='] => isLess || isEqual
  | ['='] => isEqual
  | ['=', '='] => isEqual
  | ['!', '='] => !isEqual
  | ['>', '='] => !isLess
  | _ => !isLess && !isEqual

def calculated (operator left right : Text) : Evaluation Text := do
  let a ← number left
  let b ← number right
  match operator with
  | ['+'] => pure (showInt (a + b))
  | ['-'] => pure (showInt (a - b))
  | ['*'] => pure (showInt (a * b))
  | _ =>
      if b = 0 then throw .divisionByZero
      pure (showInt (if operator = ['/'] then a.tdiv b else a.tmod b))

def operators : List (List String) :=
  [["|"], ["&"], ["<", "<=", "=", "==", "!=", ">=", ">"], ["+", "-"], ["*", "/", "%"], [":"]]

def combined (operator left right : Text) : Evaluation Text :=
  match operator with
  | ['|'] =>
      pure (if !isNull left then left else if !isNull right then right else ['0'])
  | ['&'] => pure (if isNull left || isNull right then ['0'] else left)
  | [':'] => matching left right
  | _ =>
      if ["+", "-", "*", "/", "%"].any fun known => known.toList = operator then
        calculated operator left right
      else pure (truth (compared operator left right))

/-- The part of a text that begins at a position, which counts from one, and has a length. -/
def part (text position length : Text) : Text :=
  match whole? position, whole? length with
  | some start, some count =>
      if start ≤ 0 || count ≤ 0 then [] else (text.drop (start.toNat - 1)).take count.toNat
  | _, _ => []

mutual

def term : Nat → Evaluation Text
  | 0 => do throw (.missingArgument (← get).latest)
  | fuel + 1 => do
      match (← get).rest with
      | [] => throw (.missingArgument (← get).latest)
      | word :: _ =>
          take
          if word = ['('] then
            let value ← level 0 fuel
            match (← get).rest with
            | [')'] :: _ =>
                take
                pure value
            | [] => throw (.missingParenthesis (← get).latest)
            | other :: _ => throw (.unexpected other)
          else if word = [')'] then throw (.unexpected word)
          else if word = "length".toList then return showNat (← term fuel).length
          else if word = "match".toList then
            let text ← term fuel
            matching text (← term fuel)
          else if word = "index".toList then
            let text ← term fuel
            let wanted ← term fuel
            pure (showNat ((text.findIdx? fun c => wanted.contains c).map (· + 1) |>.getD 0))
          else if word = "substr".toList then
            let text ← term fuel
            let position ← term fuel
            return part text position (← term fuel)
          else if word = ['+'] then
            match (← get).rest with
            | [] => throw (.missingArgument (← get).latest)
            | literal :: _ =>
                take
                pure literal
          else pure word

def level (index : Nat) : Nat → Evaluation Text
  | 0 => do throw (.missingArgument (← get).latest)
  | fuel + 1 => do
      match operators[index]? with
      | none => term fuel
      | some known =>
          let first ← level (index + 1) fuel
          further index known first fuel

def further (index : Nat) (known : List String) (value : Text) : Nat → Evaluation Text
  | 0 => pure value
  | fuel + 1 => do
      match (← get).rest with
      | [] => pure value
      | word :: _ =>
          if known.any fun operator => operator.toList = word then
            take
            let right ← level (index + 1) fuel
            further index known (← combined word value right) fuel
          else pure value

end

end Expr

def expr : Utility := fun _ invocation => do
  let arguments :=
    match invocation.arguments with
    | ['-', '-'] :: rest => rest
    | others => others
  if arguments.isEmpty then misused invocation 2 "missing operand".toList
  else
    let whole : Expr.Evaluation Text := do
      let value ← Expr.level 0 (16 * arguments.length + 16)
      match (← get).rest with
      | [] => pure value
      | other :: _ => throw (.unexpected other)
    match whole ⟨arguments, []⟩ with
    | .ok value _ => finish invocation (if Expr.isNull value then 1 else 0) (value ++ ['\n'])
    | .error problem _ =>
        invocation.complain problem.message
        pure (.exited 2)

end Tool

end ApiSurface
