import ApiSurface.Script.ByteText

namespace ApiSurface

namespace Script

namespace Arithmetic

inductive Symbol where
  | number (value : Int)
  | name (text : Text)
  | operator (text : Text)
  | stray
deriving DecidableEq, Repr

def operators : List Text :=
  ["<<=", ">>=", "<<", ">>", "<=", ">=", "==", "!=", "&&", "||", "*=", "/=", "%=", "+=", "-=",
    "&=", "^=", "|=", "*", "/", "%", "+", "-", "<", ">", "=", "!", "~", "&", "^", "|", "(", ")",
    "?", ":"].map String.toList

def symbols : Nat → Text → List Symbol
  | 0, _ => []
  | _ + 1, [] => []
  | fuel + 1, c :: rest =>
      if c = ' ' || c = '\t' || c = '\n' then symbols fuel rest
      else if c.isDigit then
        let (base, digits, after) := digitsAt none (c :: rest)
        .number (saturated (valueIn base digits)) :: symbols fuel after
      else if isNameStart c then
        .name (c :: rest.takeWhile isNamePart) :: symbols fuel (rest.dropWhile isNamePart)
      else
        match operators.find? fun operator => operator.isPrefixOf (c :: rest) with
        | some operator =>
            .operator operator :: symbols fuel ((c :: rest).drop operator.length)
        | none => .stray :: symbols fuel rest

inductive Problem where
  | expression (message : Text)
  | illegalNumber (text : Text)
deriving DecidableEq, Repr

/-- What is left to evaluate, and the values that variables were given, the latest first. -/
structure State where
  rest : List Symbol
  assigned : List (Text × Int) := []
  lookup : Text → Option Text

abbrev Evaluator := EStateM Problem State

def complain {α : Type} (message : String) : Evaluator α :=
  throw (.expression message.toList)

def peek : Evaluator (Option Symbol) := do
  pure (← get).rest.head?

def advance : Evaluator Unit :=
  modify fun state => { state with rest := state.rest.drop 1 }

def passes (operator : String) : Evaluator Bool := do
  if (← peek) = some (.operator operator.toList) then
    advance
    pure true
  else pure false

def valueOf (name : Text) : Evaluator Int := do
  let state ← get
  match state.assigned.lookup name with
  | some value => pure value
  | none =>
      let text := (state.lookup name).getD []
      match integer? none text with
      | some value => pure value
      | none => throw (.illegalNumber text)

def truth (holds : Bool) : Int :=
  if holds then 1 else 0

def precedence? (operator : Text) : Option Nat :=
  match String.ofList operator with
  | "*" | "/" | "%" => some 0
  | "+" | "-" => some 1
  | "<<" | ">>" => some 2
  | "<" | "<=" | ">" | ">=" => some 3
  | "==" | "!=" => some 4
  | "&" => some 5
  | "^" => some 6
  | "|" => some 7
  | _ => none

def bits (value : Int) : Nat :=
  (value % Int.pow 2 64).toNat

def apply (operator : Text) (left right : Int) : Evaluator Int := do
  let places := bits right % 64
  match String.ofList operator with
  | "*" => pure (wrapped (left * right))
  | "/" =>
      if right = 0 then complain "division by zero"
      pure (wrapped (Int.tdiv left right))
  | "%" =>
      if right = 0 then complain "division by zero"
      pure (Int.tmod left right)
  | "+" => pure (wrapped (left + right))
  | "-" => pure (wrapped (left - right))
  | "<<" => pure (wrapped (left * Int.pow 2 places))
  | ">>" => pure (left / Int.pow 2 places)
  | "<" => pure (truth (left < right))
  | "<=" => pure (truth (left ≤ right))
  | ">" => pure (truth (left > right))
  | ">=" => pure (truth (left ≥ right))
  | "==" => pure (truth (left = right))
  | "!=" => pure (truth (left ≠ right))
  | "&" => pure (wrapped (bits left &&& bits right : Nat))
  | "^" => pure (wrapped (bits left ^^^ bits right : Nat))
  | _ => pure (wrapped (bits left ||| bits right : Nat))

def assigning? : Symbol → Option Text
  | .operator text =>
      match String.ofList text with
      | "=" => some []
      | "*=" | "/=" | "%=" | "+=" | "-=" | "<<=" | ">>=" | "&=" | "^=" | "|=" =>
          some text.dropLast
      | _ => none
  | _ => none

mutual

def assignment : Nat → Bool → Evaluator Int
  | 0, _ => complain "expecting primary"
  | fuel + 1, idle => do
      match (← get).rest with
      | .name name :: symbol :: _ =>
          match assigning? symbol with
          | none => choice fuel idle
          | some operator =>
              advance
              advance
              let result ← assignment fuel idle
              if idle then pure result
              else
                let value ←
                  if operator.isEmpty then pure result
                  else apply operator (← valueOf name) result
                modify fun state => { state with assigned := (name, value) :: state.assigned }
                pure value
      | _ => choice fuel idle

def choice : Nat → Bool → Evaluator Int
  | 0, _ => complain "expecting primary"
  | fuel + 1, idle => do
      let condition ← either fuel idle
      if ← passes "?" then
        let first ← assignment fuel (idle || condition = 0)
        if !(← passes ":") then complain "expecting ':'"
        let second ← choice fuel (idle || condition ≠ 0)
        pure (if condition ≠ 0 then first else second)
      else pure condition

def either : Nat → Bool → Evaluator Int
  | 0, _ => complain "expecting primary"
  | fuel + 1, idle => do
      let left ← both fuel idle
      if ← passes "||" then
        let right ← either fuel (idle || left ≠ 0)
        pure (truth (left ≠ 0 || right ≠ 0))
      else pure left

def both : Nat → Bool → Evaluator Int
  | 0, _ => complain "expecting primary"
  | fuel + 1, idle => do
      let left ← primary fuel idle
      let value ← tail fuel idle 8 left
      if ← passes "&&" then
        let right ← both fuel (idle || value = 0)
        pure (truth (value ≠ 0 && right ≠ 0))
      else pure value

def tail : Nat → Bool → Nat → Int → Evaluator Int
  | 0, _, _, _ => complain "expecting primary"
  | fuel + 1, idle, bound, left => do
      match ← peek with
      | some (.operator operator) =>
          match precedence? operator with
          | none => pure left
          | some precedence =>
              if bound ≤ precedence then pure left
              else
                advance
                let first ← primary fuel idle
                let right ← tail fuel idle precedence first
                let value ← if idle then pure right else apply operator left right
                tail fuel idle bound value
      | _ => pure left

def primary : Nat → Bool → Evaluator Int
  | 0, _ => complain "expecting primary"
  | fuel + 1, idle => do
      let next ← peek
      match next with
      | some (.number value) =>
          advance
          pure value
      | some (.name name) =>
          advance
          if idle then pure 0 else valueOf name
      | some (.operator operator) =>
          advance
          match String.ofList operator with
          | "(" =>
              let value ← assignment fuel idle
              if !(← passes ")") then complain "expecting ')'"
              pure value
          | "+" => primary fuel idle
          | "-" => return wrapped (-(← primary fuel idle))
          | "!" => return truth ((← primary fuel idle) = 0)
          | "~" => return -(← primary fuel idle) - 1
          | _ => complain "expecting primary"
      | _ => complain "expecting primary"

end

/-- The value of an expression, and the values it gives to variables in their order. -/
def evaluate (lookup : Text → Option Text) (expression : Text) :
    Except Problem Int × List (Text × Int) :=
  let found := symbols (expression.length + 1) expression
  let whole : Evaluator Int := do
    let value ← assignment (8 * found.length + 16) false
    if (← peek).isSome then complain "expecting EOF"
    pure value
  match whole { rest := found, lookup } with
  | .ok value state => (.ok value, state.assigned.reverse)
  | .error problem state => (.error problem, state.assigned.reverse)

def Problem.message (expression : Text) : Problem → Text
  | .expression message =>
      "arithmetic expression: ".toList ++ message ++ ": \"".toList ++ expression ++ ['"']
  | .illegalNumber text => "Illegal number: ".toList ++ text

end Arithmetic

end Script

end ApiSurface
