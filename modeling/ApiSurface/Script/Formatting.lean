import ApiSurface.Script.Escape
import ApiSurface.Script.NumberFormat

namespace ApiSurface

namespace Script

namespace Formatting

/-- What a format has printed so far, from last to first, and the arguments that are left. -/
structure State where
  printed : List Text := []
  arguments : List Text
  complaints : List Text := []

inductive Halt where
  | ended
  | malformed (message : Text)
deriving DecidableEq, Repr

abbrev Formatter := EStateM Halt State

def print (text : Text) : Formatter Unit :=
  modify fun state => { state with printed := text :: state.printed }

def complain (message : Text) : Formatter Unit :=
  modify fun state => { state with complaints := message :: state.complaints }

def nextArgument? : Formatter (Option Text) := do
  let state ← get
  match state.arguments with
  | [] => pure none
  | argument :: arguments =>
      set { state with arguments }
      pure (some argument)

def checkRest (argument rest : Text) (found : Bool) : Formatter Unit := do
  if !rest.isEmpty then
    if found then complain (argument ++ ": not completely converted".toList)
    else complain (argument ++ ": expected numeric value".toList)

/-- The number that an argument stands for: that of a character behind a quotation mark, and zero
if there is none. -/
def nextNumber (signed : Bool) : Formatter Int := do
  match ← nextArgument? with
  | none => pure 0
  | some argument =>
      match argument with
      | '"' :: rest | '\'' :: rest => pure ((rest.head?.map fun c => (c.toNat : Int)).getD 0)
      | _ =>
          match integerAt? none argument with
          | none =>
              checkRest argument argument false
              pure 0
          | some (value, rest) =>
              checkRest argument rest true
              let fits : Bool :=
                if signed then fitsWord value else -Int.pow 2 64 < value && value < Int.pow 2 64
              if rest.isEmpty && !fits then
                complain (argument ++ ": Numerical result out of range".toList)
              if signed then pure (saturated value)
              else if fits then pure (value % Int.pow 2 64)
              else pure (Int.pow 2 64 - 1)

def nextReal : Formatter NumberFormat.Real := do
  match ← nextArgument? with
  | none => pure (.finite false 0 0)
  | some argument =>
      match argument with
      | '"' :: rest | '\'' :: rest =>
          pure (.finite false ((rest.head?.map Char.toNat).getD 0) 0)
      | _ =>
          match realAt? argument with
          | none =>
              checkRest argument argument false
              pure (.finite false 0 0)
          | some (value, rest) =>
              checkRest argument rest true
              pure value

def isFlag (c : Char) : Bool :=
  "#-+ 0".toList.contains c

def flags (text : Text) : NumberFormat :=
  { left := text.contains '-'
    plus := text.contains '+'
    blank := text.contains ' '
    marked := text.contains '#'
    zeros := text.contains '0' }

def isWidthPart (c : Char) : Bool :=
  c = '*' || c.isDigit

def widthLimit : Nat := 10000000

/-- A width or precision in front of a text, and what follows.  A star takes it from the
arguments. -/
def takeSize (text : Text) : Formatter (Option Int × Text) := do
  match text with
  | '*' :: rest => pure (some (Int.bmod (← nextNumber true) (Nat.pow 2 32)), rest)
  | _ =>
      let digits := text.takeWhile isWidthPart
      pure (if digits.isEmpty then none else some (valueIn 10 digits), text.drop digits.length)

def takeLayout (text : Text) : Formatter (NumberFormat × Text) := do
  let marks := text.takeWhile isFlag
  let (width, rest) ← takeSize (text.drop marks.length)
  let format := flags marks
  let format :=
    match width with
    | none => format
    | some size =>
        { format with left := format.left || size < 0, width := min size.natAbs widthLimit }
  match rest with
  | '.' :: after =>
      let (precision, rest) ← takeSize after
      match precision with
      | none => pure ({ format with precision := some 0 }, rest)
      | some size =>
          let precision := if size < 0 then none else some (min size.toNat widthLimit)
          pure ({ format with precision }, rest)
  | _ => pure (format, rest)

def directive (format : NumberFormat) (letter : Char) (written : Text) : Formatter Unit := do
  match letter with
  | 's' => print (format.text ((← nextArgument?).getD []))
  | 'b' =>
      let (text, ended) := unescaped ((← nextArgument?).getD [])
      print (format.text text)
      if ended then throw .ended
  | 'c' =>
      let argument := (← nextArgument?).getD []
      print (format.pad [argument.headD (Char.ofNat 0)])
  | 'd' | 'i' => print (format.signed (← nextNumber true))
  | 'o' => print (format.unsigned 8 false (← nextNumber false).toNat)
  | 'u' => print (format.unsigned 10 false (← nextNumber false).toNat)
  | 'x' => print (format.unsigned 16 false (← nextNumber false).toNat)
  | 'X' => print (format.unsigned 16 true (← nextNumber false).toNat)
  | 'e' | 'E' | 'f' | 'F' | 'g' | 'G' => print (format.real letter (← nextReal))
  | _ => throw (.malformed (written ++ ": invalid directive".toList))

def once : Nat → Text → Formatter Unit
  | 0, _ => pure ()
  | _ + 1, [] => pure ()
  | fuel + 1, c :: rest => do
      match c, rest with
      | '\\', _ =>
          let (shown, count) := escapeAt rest
          print [shown]
          once fuel (rest.drop count)
      | '%', '%' :: after =>
          print ['%']
          once fuel after
      | '%', _ =>
          let (format, after) ← takeLayout rest
          match after with
          | [] => throw (.malformed "missing format character".toList)
          | letter :: behind =>
              directive format letter (c :: rest.take (rest.length - behind.length))
              once fuel behind
      | _, _ =>
          print [c]
          once fuel rest

def repeatedly (format : Text) : Nat → Formatter Unit
  | 0 => pure ()
  | fuel + 1 => do
      let before := (← get).arguments.length
      once (format.length + 1) format
      let after := (← get).arguments.length
      if after ≠ 0 && after ≠ before then repeatedly format fuel

/-- What a format prints, what there is to complain about, and whether the format is malformed. -/
structure Outcome where
  printed : Text
  complaints : List Text
  malformed : Option Text

def outcome (format : Text) (arguments : List Text) : Outcome :=
  let result (state : State) (malformed : Option Text) : Outcome :=
    ⟨state.printed.reverse.flatten, state.complaints.reverse, malformed⟩
  match repeatedly format (arguments.length + 1) { arguments } with
  | .ok () state => result state none
  | .error .ended state => result state none
  | .error (.malformed message) state => result state (some message)

end Formatting

end Script

end ApiSurface
