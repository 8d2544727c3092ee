import ApiSurface.Text.Utf8

/-!
Texts in which each character stands for one byte.  What scripts read and print is such a text, so
that it need not be valid UTF-8.
-/

namespace ApiSurface

namespace Script

def ofBytes (bytes : Bytes) : Text :=
  bytes.map fun byte => Char.ofNat byte.toNat

def toBytes (text : Text) : Bytes :=
  text.map fun c => UInt8.ofNat c.toNat

def ofText (text : Text) : Text :=
  ofBytes (Utf8.encode text)

def toText (text : Text) : Text :=
  Utf8.decodeLossy (toBytes text)

def isNameStart (c : Char) : Bool :=
  c.isAlpha || c = '_'

def isNamePart (c : Char) : Bool :=
  isNameStart c || c.isDigit

def isName : Text → Bool
  | [] => false
  | c :: rest => isNameStart c && rest.all isNamePart

def assignment? (text : Text) : Option (Text × Text) :=
  match text.cutFirst '=' with
  | some (name, value) => if isName name then some (name, value) else none
  | none => none

def digitValue (c : Char) : Nat :=
  if c.isDigit then c.toNat - '0'.toNat
  else if 'a' ≤ c && c ≤ 'z' then c.toNat - 'a'.toNat + 10
  else if 'A' ≤ c && c ≤ 'Z' then c.toNat - 'A'.toNat + 10
  else 36

def isDigitIn (base : Nat) (c : Char) : Bool :=
  digitValue c < base

def valueIn (base : Nat) (digits : Text) : Nat :=
  digits.foldl (fun value digit => base * value + digitValue digit) 0

def showNat (value : Nat) : Text :=
  Nat.toDigits 10 value

def showInt (value : Int) : Text :=
  if value < 0 then '-' :: showNat value.natAbs else showNat value.natAbs

def isSpace (c : Char) : Bool :=
  c = ' ' || (9 ≤ c.toNat && c.toNat ≤ 13)

/-- The digits of a number at the front of a text, its base, and what follows.  With `base` absent
the number itself tells: hexadecimal after `0x`, octal after `0`. -/
def digitsAt (base : Option Nat) (text : Text) : Nat × Text × Text :=
  let run (base : Nat) (text : Text) : Nat × Text × Text :=
    (base, text.takeWhile (isDigitIn base), text.dropWhile (isDigitIn base))
  match base with
  | some base => run base text
  | none =>
      match text with
      | '0' :: x :: digit :: rest =>
          if (x = 'x' || x = 'X') && isDigitIn 16 digit then run 16 (digit :: rest)
          else run 8 text
      | '0' :: _ => run 8 text
      | _ => run 10 text

def integerAt? (base : Option Nat) (text : Text) : Option (Int × Text) :=
  let trimmed := text.dropWhile isSpace
  let (negative, unsigned) :=
    match trimmed with
    | '-' :: rest => (true, rest)
    | '+' :: rest => (false, rest)
    | _ => (false, trimmed)
  match digitsAt base unsigned with
  | (_, [], _) => none
  | (base, digits, rest) =>
      let size : Int := valueIn base digits
      some (if negative then -size else size, rest)

def fitsWord (value : Int) : Bool :=
  -Int.pow 2 63 ≤ value && value < Int.pow 2 63

def wrapped (value : Int) : Int :=
  Int.bmod value (Nat.pow 2 64)

def saturated (value : Int) : Int :=
  if value < -Int.pow 2 63 then -Int.pow 2 63
  else if value < Int.pow 2 63 then value
  else Int.pow 2 63 - 1

/-- The integer that a whole text stands for. Blanks around it do not matter.  Without a base a
blank text stands for zero. -/
def integer? (base : Option Nat) (text : Text) : Option Int :=
  match integerAt? base text with
  | some (value, rest) => if rest.all isSpace && fitsWord value then some value else none
  | none => if base.isNone && text.all isSpace then some 0 else none

def natural? (text : Text) : Option Nat :=
  if !text.isEmpty && text.all Char.isDigit then some (valueIn 10 text) else none

end Script

end ApiSurface
