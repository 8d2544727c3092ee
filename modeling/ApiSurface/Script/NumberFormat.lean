import ApiSurface.Script.ByteText

namespace ApiSurface

namespace Script

structure NumberFormat where
  left : Bool := false
  plus : Bool := false
  blank : Bool := false
  marked : Bool := false
  zeros : Bool := false
  width : Nat := 0
  precision : Option Nat := none
deriving DecidableEq, Repr

namespace NumberFormat

def pad (format : NumberFormat) (text : Text) : Text :=
  let filler := List.replicate (format.width - text.length) ' '
  if format.left then text ++ filler else filler ++ text

/-- Puts a sign in front of digits, and zeros between them if there is room to fill. -/
def assemble (format : NumberFormat) (sign digits : Text) (mayFill : Bool) : Text :=
  if format.zeros && !format.left && mayFill then
    sign ++ List.replicate (format.width - sign.length - digits.length) '0' ++ digits
  else format.pad (sign ++ digits)

def signText (format : NumberFormat) (negative : Bool) : Text :=
  if negative then ['-']
  else if format.plus then ['+']
  else if format.blank then [' ']
  else []

def withPrecision (format : NumberFormat) (value : Nat) (digits : Text) : Text :=
  match format.precision with
  | some 0 => if value = 0 then [] else digits
  | some count => List.replicate (count - digits.length) '0' ++ digits
  | none => digits

def signed (format : NumberFormat) (value : Int) : Text :=
  let digits := format.withPrecision value.natAbs (showNat value.natAbs)
  format.assemble (format.signText (value < 0)) digits format.precision.isNone

def unsigned (format : NumberFormat) (base : Nat) (upper : Bool) (value : Nat) : Text :=
  let plain := Nat.toDigits base value
  let digits := format.withPrecision value (if upper then plain.map Char.toUpper else plain)
  let mark : Text :=
    if format.marked && base = 16 && value ≠ 0 then (if upper then "0X".toList else "0x".toList)
    else []
  let digits :=
    if format.marked && base = 8 && digits.head? ≠ some '0' then '0' :: digits else digits
  format.assemble mark digits format.precision.isNone

def text (format : NumberFormat) (value : Text) : Text :=
  format.pad (value.take (format.precision.getD value.length))

inductive Real where
  | finite (negative : Bool) (mantissa : Nat) (exponent : Int)
  | infinite (negative : Bool)
  | undefined
deriving DecidableEq, Repr

def Real.ofFloat (value : Float) : Real :=
  let bits := value.toBits.toNat
  let negative : Bool := bits / Nat.pow 2 63 = 1
  let exponent : Nat := bits / Nat.pow 2 52 % 2048
  let fraction := bits % Nat.pow 2 52
  if exponent = 2047 then (if fraction = 0 then .infinite negative else .undefined)
  else if exponent = 0 then .finite negative fraction (-1074)
  else .finite negative (Nat.pow 2 52 + fraction) ((exponent : Int) - 1075)

def rounded (numerator denominator : Nat) : Nat :=
  let quotient := numerator / denominator
  let rest := 2 * (numerator % denominator)
  if rest < denominator then quotient
  else if denominator < rest then quotient + 1
  else quotient + quotient % 2

def scaled (mantissa : Nat) (exponent power : Int) : Nat :=
  let numerator := mantissa * Nat.pow 2 exponent.toNat * Nat.pow 10 power.toNat
  rounded numerator (Nat.pow 2 (-exponent).toNat * Nat.pow 10 (-power).toNat)

def pointed (marked : Bool) (value places : Nat) : Text :=
  let plain := showNat value
  let digits := List.replicate (places + 1 - plain.length) '0' ++ plain
  let whole := digits.take (digits.length - places)
  if places = 0 then (if marked then whole ++ ['.'] else whole)
  else whole ++ '.' :: digits.drop (digits.length - places)

/-- The power of ten of the leading digit once a number has `places` digits behind it, and the
digits. -/
def leading (mantissa : Nat) (exponent : Int) (places : Nat) : Int × Nat :=
  if mantissa = 0 then (0, 0)
  else
    let estimate : Int :=
      if 0 ≤ exponent then ((showNat (mantissa * Nat.pow 2 exponent.toNat)).length : Int) - 1
      else
        let shift := (-exponent).toNat
        ((showNat (mantissa * Nat.pow 10 shift / Nat.pow 2 shift)).length : Int) - 1 - shift
    let attempt (power : Int) : Int × Nat := (power, scaled mantissa exponent (places - power))
    let (power, digits) := attempt estimate
    if Nat.pow 10 (places + 1) ≤ digits then attempt (power + 1)
    else if digits < Nat.pow 10 places then attempt (power - 1)
    else (power, digits)

def exponentText (upper : Bool) (power : Int) : Text :=
  let digits := showNat power.natAbs
  let sign := if power < 0 then '-' else '+'
  (if upper then 'E' else 'e') :: sign :: (List.replicate (2 - digits.length) '0' ++ digits)

def scientific (marked upper : Bool) (mantissa : Nat) (exponent : Int) (places : Nat) : Text :=
  let (power, digits) := leading mantissa exponent places
  pointed marked digits places ++ exponentText upper power

def withoutZeros (text : Text) : Text :=
  if text.contains '.' then
    let kept := text.reverse.dropWhile (· = '0')
    (if kept.head? = some '.' then kept.drop 1 else kept).reverse
  else text

def general (marked upper : Bool) (mantissa : Nat) (exponent : Int) (count : Nat) : Text :=
  let count := if count = 0 then 1 else count
  let (power, digits) := leading mantissa exponent (count - 1)
  let trim (text : Text) : Text := if marked then text else withoutZeros text
  if -4 ≤ power && power < count then
    let places := ((count : Int) - 1 - power).toNat
    trim (pointed marked (scaled mantissa exponent places) places)
  else trim (pointed marked digits (count - 1)) ++ exponentText upper power

def real (format : NumberFormat) (letter : Char) (value : Real) : Text :=
  let upper := letter.isUpper
  let word (text : String) : Text := if upper then text.toList.map Char.toUpper else text.toList
  let places := format.precision.getD 6
  match value with
  | .undefined => format.assemble (format.signText false) (word "nan") false
  | .infinite negative => format.assemble (format.signText negative) (word "inf") false
  | .finite negative mantissa exponent =>
      let digits :=
        match letter.toLower with
        | 'f' => pointed format.marked (scaled mantissa exponent places) places
        | 'e' => scientific format.marked upper mantissa exponent places
        | _ => general format.marked upper mantissa exponent places
      format.assemble (format.signText negative) digits true

end NumberFormat

def powerAt (mark : Char) (text : Text) : Int × Text :=
  match text with
  | [] => (0, text)
  | c :: after =>
      if c.toLower ≠ mark then (0, text)
      else
        let (down, digits) :=
          match after with
          | '-' :: behind => (true, behind)
          | '+' :: behind => (false, behind)
          | _ => (false, after)
        if (digits.headD ' ').isDigit then
          let size : Int := valueIn 10 (digits.takeWhile Char.isDigit)
          (if down then -size else size, digits.dropWhile Char.isDigit)
        else (0, text)

/-- Digits with a point among them: those in front of it, those behind it, and what follows. -/
def pointedAt (base : Nat) (text : Text) : Text × Text × Text :=
  let whole := text.takeWhile (isDigitIn base)
  let rest := text.drop whole.length
  match rest with
  | '.' :: after =>
      if whole.isEmpty && !isDigitIn base (after.headD ' ') then (whole, [], rest)
      else
        let fraction := after.takeWhile (isDigitIn base)
        (whole, fraction, after.drop fraction.length)
  | _ => (whole, [], rest)

def powerLimit : Nat := 5000

def hexRealAt? (text : Text) : Option (NumberFormat.Real × Text) :=
  match text with
  | '0' :: mark :: after =>
      let (whole, fraction, rest) := pointedAt 16 after
      if mark.toLower ≠ 'x' || (whole.isEmpty && fraction.isEmpty) then none
      else
        let (power, behind) := powerAt 'p' rest
        let mantissa := valueIn 16 (whole ++ fraction)
        if powerLimit < power.natAbs then
          some (if 0 < power then .infinite false else .finite false 0 0, behind)
        else some (.finite false mantissa (power - 4 * fraction.length), behind)
  | _ => none

def decimalRealAt? (text : Text) : Option (NumberFormat.Real × Text) :=
  let (whole, fraction, rest) := pointedAt 10 text
  if whole.isEmpty && fraction.isEmpty then none
  else
    let (power, behind) := powerAt 'e' rest
    let mantissa := valueIn 10 (whole ++ fraction)
    let tens := power - fraction.length
    if mantissa = 0 then some (.finite false 0 0, behind)
    else if (powerLimit : Int) < tens + whole.length + fraction.length then
      some (.infinite false, behind)
    else if tens + whole.length + fraction.length < -powerLimit then
      some (.finite false 0 0, behind)
    else some (.ofFloat (Float.ofScientific mantissa (tens < 0) tens.natAbs), behind)

def NumberFormat.Real.negated : NumberFormat.Real → NumberFormat.Real
  | .finite negative mantissa exponent => .finite (!negative) mantissa exponent
  | .infinite negative => .infinite (!negative)
  | .undefined => .undefined

def realAt? (text : Text) : Option (NumberFormat.Real × Text) :=
  let trimmed := text.dropWhile isSpace
  let (negative, unsigned) :=
    match trimmed with
    | '-' :: rest => (true, rest)
    | '+' :: rest => (false, rest)
    | _ => (false, trimmed)
  let lower := unsigned.map Char.toLower
  let found : Option (NumberFormat.Real × Text) :=
    if "infinity".toList.isPrefixOf lower then some (.infinite false, unsigned.drop 8)
    else if "inf".toList.isPrefixOf lower then some (.infinite false, unsigned.drop 3)
    else if "nan".toList.isPrefixOf lower then some (.undefined, unsigned.drop 3)
    else (hexRealAt? unsigned).or (decimalRealAt? unsigned)
  found.map fun (value, rest) => (if negative then value.negated else value, rest)

end Script

end ApiSurface
