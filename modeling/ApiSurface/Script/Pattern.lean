import ApiSurface.Script.ByteText

/-! Patterns that texts are matched against: stars, question marks and bracketed sets. -/

namespace ApiSurface

namespace Script

inductive Glyph where
  | char (c : Char) (quoted : Bool)
  | mark
deriving DecidableEq, Repr

def Glyph.char? : Glyph → Option Char
  | .char c _ => some c
  | .mark => none

def shown (glyphs : List Glyph) : Text :=
  glyphs.filterMap Glyph.char?

inductive Item where
  | range (low high : Int)
  | kind (name : Text)
deriving DecidableEq, Repr

def rank (c : Char) : Int :=
  Int.bmod c.toNat 256

def isOfKind (name : Text) (c : Char) : Bool :=
  let isGraphic : Bool := 33 ≤ c.toNat && c.toNat ≤ 126
  match String.ofList name with
  | "alnum" => c.isAlphanum
  | "alpha" => c.isAlpha
  | "blank" => c = ' ' || c = '\t'
  | "cntrl" => c.toNat < 32 || c.toNat = 127
  | "digit" => c.isDigit
  | "graph" => isGraphic
  | "lower" => c.isLower
  | "print" => isGraphic || c = ' '
  | "punct" => isGraphic && !c.isAlphanum
  | "space" => isSpace c
  | "upper" => c.isUpper
  | "xdigit" => isDigitIn 16 c
  | _ => false

def kindNames : List Text :=
  ["alnum", "alpha", "blank", "cntrl", "digit", "graph", "lower", "print", "punct", "space",
    "upper", "xdigit"].map String.toList

def Item.admits (c : Char) : Item → Bool
  | .range low high => low ≤ rank c && rank c ≤ high
  | .kind name => isOfKind name c

inductive Element where
  | character (c : Char)
  | one
  | many
  | oneOf (negated : Bool) (items : List Item)
deriving DecidableEq, Repr

abbrev Sign := Char × Bool

/-- The characters of glyphs.  An unquoted backslash makes the character after it literal. -/
def signs (escaped : Bool) : List Glyph → List Sign
  | [] => if escaped then [('\\', true)] else []
  | .mark :: rest => signs escaped rest
  | .char c quoted :: rest =>
      if escaped then (c, true) :: signs false rest
      else if c = '\\' && !quoted then signs true rest
      else (c, quoted) :: signs false rest

def kindAt? (after : List Sign) : Option Text :=
  kindNames.find? fun name =>
    let written := (':' :: name ++ ":]".toList)
    after.take written.length = written.map fun c => (c, false)

/-- The items of a set up to its closing bracket, and what follows.  The first item may itself be a
closing bracket. -/
def setItems (first : Bool) : Nat → List Sign → Option (List Item × List Sign)
  | 0, _ => none
  | _ + 1, [] => none
  | fuel + 1, (c, literal) :: rest =>
      let single : Option (List Item × List Sign) :=
        match rest with
        | ('-', false) :: (high, highLiteral) :: after =>
            if high = ']' && !highLiteral then
              (setItems false fuel rest).map fun (items, left) =>
                (.range (rank c) (rank c) :: items, left)
            else
              (setItems false fuel after).map fun (items, left) =>
                (.range (rank c) (rank high) :: items, left)
        | _ =>
            (setItems false fuel rest).map fun (items, left) =>
              (.range (rank c) (rank c) :: items, left)
      if c = ']' && !literal && !first then some ([], rest)
      else if c = '[' && !literal then
        match kindAt? rest with
        | some name =>
            (setItems false fuel (rest.drop (name.length + 3))).map fun (items, left) =>
              (.kind name :: items, left)
        | none => single
      else single

def set? (after : List Sign) : Option (Element × List Sign) :=
  let (negated, inside) :=
    match after with
    | ('!', false) :: rest => (true, rest)
    | _ => (false, after)
  (setItems true (inside.length + 1) inside).map fun (items, rest) =>
    (.oneOf negated items, rest)

def elementsFrom : Nat → List Sign → List Element
  | 0, _ => []
  | _ + 1, [] => []
  | fuel + 1, (c, literal) :: rest =>
      if literal then .character c :: elementsFrom fuel rest
      else
        match c with
        | '*' => .many :: elementsFrom fuel rest
        | '?' => .one :: elementsFrom fuel rest
        | '[' =>
            match set? rest with
            | some (element, after) => element :: elementsFrom fuel after
            | none => .character c :: elementsFrom fuel rest
        | _ => .character c :: elementsFrom fuel rest

def elements (glyphs : List Glyph) : List Element :=
  let found := signs false glyphs
  elementsFrom (found.length + 1) found

def Element.isCharacter : Element → Bool
  | .character _ => true
  | _ => false

def Element.admits (c : Char) : Element → Bool
  | .character wanted => c = wanted
  | .one => true
  | .many => true
  | .oneOf negated items => items.any (Item.admits c) != negated

def isMatch : List Element → Text → Bool
  | [], text => text.isEmpty
  | .many :: pattern, [] => isMatch pattern []
  | .many :: pattern, c :: rest => isMatch pattern (c :: rest) || isMatch (.many :: pattern) rest
  | element :: pattern, c :: rest => element.admits c && isMatch pattern rest
  | _ :: _, [] => false
termination_by pattern text => pattern.length + text.length

def beforeZero (text : Text) : Text :=
  text.takeWhile (· ≠ Char.ofNat 0)

def placesAhead (text : Text) : List Nat :=
  List.range ((beforeZero text).length + 1)

def placesBack (text : Text) : List Nat :=
  (List.range (text.length + 1)).reverse

/-- How much of the front of a text matches, the longest or the shortest part.  No match goes over a
zero. -/
def matchingStart? (longest : Bool) (pattern : List Element) (text : Text) : Option Nat :=
  (if longest then placesBack text else placesAhead text).find? fun place =>
    isMatch pattern (beforeZero (text.take place))

/-- Where the part of a text that matches begins.  It goes to the end, or to a zero. -/
def matchingEnd? (longest : Bool) (pattern : List Element) (text : Text) : Option Nat :=
  (if longest then placesAhead text else placesBack text).find? fun place =>
    isMatch pattern (beforeZero (text.drop place))

end Script

end ApiSurface
