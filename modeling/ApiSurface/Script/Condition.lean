import ApiSurface.Host.Machine

namespace ApiSurface

namespace Script

namespace Condition

inductive Role where
  | unary
  | binary
  | negation
  | conjunction
  | disjunction
  | opening
  | closing
  | operand
  | ending
deriving DecidableEq, Repr

def unaryLetters : Text :=
  "rwxefdcbpugkstznhLOGS".toList

def binaryOperators : List Text :=
  ["=", "!=", "<", ">", "-eq", "-ne", "-ge", "-gt", "-le", "-lt", "-nt", "-ot", "-ef"].map
    String.toList

def operatorRole? (word : Text) : Option Role :=
  match word with
  | ['!'] => some .negation
  | ['-', 'a'] => some .conjunction
  | ['-', 'o'] => some .disjunction
  | ['('] => some .opening
  | [')'] => some .closing
  | ['-', letter] => if unaryLetters.contains letter then some .unary else none
  | _ => if binaryOperators.contains word then some .binary else none

/-- What the first word is.  A unary operator without an operand, or in front of a binary one, is an
operand itself. -/
def role : List Text → Role
  | [] => .ending
  | word :: rest =>
      match operatorRole? word with
      | none => .operand
      | some .unary =>
          match rest with
          | [] => .operand
          | [_] => .unary
          | next :: _ => if operatorRole? next = some .binary then .operand else .unary
      | some .opening => if rest.isEmpty then .operand else .opening
      | some found => found

structure View where
  machine : Host.Machine
  directory : Path

def View.find? (view : View) (path : Text) : Option (Host.Place × Node) :=
  match Host.find view.machine.files (Host.located view.directory (toText path)) with
  | .ok found => some found
  | .error _ => none

def fileHolds (view : View) (letter : Char) (path : Text) : Bool :=
  if Host.isDevice (Host.located view.directory (toText path)) then
    "cewrOG".toList.contains letter
  else
    match view.find? path with
    | none => false
    | some (_, .file data) =>
        match letter with
        | 'e' | 'f' | 'r' | 'w' | 'O' | 'G' => true
        | 'x' => data.executable
        | 's' => !data.content.isEmpty
        | _ => false
    | some (_, .directory _) => "edrwxsOG".toList.contains letter

def unaryHolds (view : View) (letter : Char) (operand : Text) : Except Text Bool :=
  match letter with
  | 'z' => .ok operand.isEmpty
  | 'n' => .ok (!operand.isEmpty)
  | 't' =>
      match integer? (some 10) operand with
      | some _ => .ok false
      | none => .error ("Illegal number: ".toList ++ operand)
  | _ => .ok (fileHolds view letter operand)

def binaryHolds (view : View) (operator left right : Text) : Except Text Bool := do
  let number (text : Text) : Except Text Int :=
    match integer? (some 10) text with
    | some value => .ok value
    | none => .error ("Illegal number: ".toList ++ text)
  match String.ofList operator with
  | "=" => pure (left = right)
  | "!=" => pure (left ≠ right)
  | "<" => pure (left < right)
  | ">" => pure (right < left)
  | "-eq" => return (← number left) = (← number right)
  | "-ne" => return (← number left) ≠ (← number right)
  | "-ge" => return (← number right) ≤ (← number left)
  | "-gt" => return (← number right) < (← number left)
  | "-le" => return (← number left) ≤ (← number right)
  | "-lt" => return (← number left) < (← number right)
  | "-ef" =>
      match view.find? left, view.find? right with
      | some (first, _), some (second, _) => pure (first = second)
      | _, _ => pure false
  | _ => pure false

abbrev Answer := Except Text (Bool × List Text)

def missing (operator : Text) : Text :=
  operator ++ ": argument expected".toList

mutual

def disjunction (view : View) : Nat → List Text → Answer
  | 0, _ => .error "too deep".toList
  | fuel + 1, words => do
      let (value, rest) ← conjunction view fuel words
      if role (rest.drop 1) = .disjunction then
        let (other, last) ← disjunction view fuel (rest.drop 2)
        pure (value || other, last)
      else pure (value, rest)

def conjunction (view : View) : Nat → List Text → Answer
  | 0, _ => .error "too deep".toList
  | fuel + 1, words => do
      let (value, rest) ← negation view fuel words
      if role (rest.drop 1) = .conjunction then
        let (other, last) ← conjunction view fuel (rest.drop 2)
        pure (value && other, last)
      else pure (value, rest)

def negation (view : View) : Nat → List Text → Answer
  | 0, _ => .error "too deep".toList
  | fuel + 1, words => do
      if role words = .negation then
        if role (words.drop 1) = .ending then pure (true, words)
        else
          let (value, rest) ← negation view fuel (words.drop 1)
          pure (!value, rest)
      else primary view fuel words

def primary (view : View) : Nat → List Text → Answer
  | 0, _ => .error "too deep".toList
  | fuel + 1, words => do
      match role words, words with
      | .ending, _ => pure (false, words)
      | .opening, _ :: inside =>
          if role inside = .closing then pure (false, inside)
          else
            let (value, rest) ← disjunction view fuel inside
            if role (rest.drop 1) = .closing then pure (value, rest.drop 1)
            else throw "closing paren expected".toList
      | .unary, operator :: operand :: rest =>
          pure (← unaryHolds view ((operator.drop 1).headD ' ') operand, operand :: rest)
      | .unary, [operator] => throw (missing operator)
      | _, left :: operator :: rest =>
          if role (operator :: rest) = .binary then
            match rest with
            | right :: after => pure (← binaryHolds view operator left right, right :: after)
            | [] => throw (missing operator)
          else pure (!left.isEmpty, words)
      | _, [word] => pure (!word.isEmpty, words)
      | _, [] => pure (false, [])

end

def evaluate (view : View) (words : List Text) : Except Text Bool := do
  let (value, rest) ← disjunction view (4 * words.length + 8) words
  match rest with
  | word :: _ :: _ =>
      if word.isEmpty then throw "unexpected operator".toList
      else throw (word ++ ": unexpected operator".toList)
  | _ => pure value

/-- Whether a condition holds.  With three or four words it is clear what each of them is.  An
exclamation mark in front of them negates the condition, and a second one there does not undo it. -/
def holdsWith (view : View) : Nat → (negated : Bool) → List Text → Except Text Bool
  | 0, _, _ => .ok false
  | fuel + 1, negated, words => do
      let answer (words : List Text) : Except Text Bool := do
        return (← evaluate view words) != negated
      let isBracketed : Bool := words.head? = some ['('] && words.getLast? = some [')']
      match words with
      | [left, operator, right] =>
          if operatorRole? operator = some .binary then
            return (← binaryHolds view operator left right) != negated
          else if isBracketed then answer [operator]
          else if left = ['!'] then holdsWith view fuel true [operator, right]
          else answer words
      | [first, second, third, last] =>
          if isBracketed then answer [second, third]
          else if first = ['!'] then holdsWith view fuel true [second, third, last]
          else answer words
      | _ => answer words

def holds (view : View) (words : List Text) : Except Text Bool :=
  if words.isEmpty then .ok false else holdsWith view 3 false words

end Condition

end Script

end ApiSurface
