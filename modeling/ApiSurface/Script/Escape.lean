import ApiSurface.Script.ByteText

namespace ApiSurface

namespace Script

def isOctal (c : Char) : Bool :=
  isDigitIn 8 c

def letterEscape? : Char → Option Char
  | '\\' => some '\\'
  | 'a' => some (Char.ofNat 7)
  | 'b' => some (Char.ofNat 8)
  | 'e' => some (Char.ofNat 27)
  | 'f' => some (Char.ofNat 12)
  | 'n' => some '\n'
  | 'r' => some '\r'
  | 't' => some '\t'
  | 'v' => some (Char.ofNat 11)
  | _ => none

/-- The character that an escape stands for, and how much of the text behind the backslash it takes.
A backslash that begins no escape stands for itself. -/
def escapeAt (text : Text) : Char × Nat :=
  match text with
  | [] => ('\\', 0)
  | c :: _ =>
      if isOctal c then
        let digits := (text.take 3).takeWhile isOctal
        (Char.ofNat (valueIn 8 digits % 256), digits.length)
      else
        match letterEscape? c with
        | some found => (found, 1)
        | none => ('\\', 0)

/-- Resolves the escapes of an argument.  Its octal numbers may have one more zero in front, and
`\c` ends everything: the second part tells whether it was there. -/
def unescape : Nat → Text → Text × Bool
  | 0, _ => ([], false)
  | _ + 1, [] => ([], false)
  | fuel + 1, '\\' :: rest =>
      match rest with
      | 'c' :: _ => ([], true)
      | _ =>
          let zeros : Nat :=
            match rest with
            | '0' :: digit :: _ => if isOctal digit then 1 else 0
            | _ => 0
          let (c, count) := escapeAt (rest.drop zeros)
          let (others, ended) := unescape fuel (rest.drop (zeros + count))
          (c :: others, ended)
  | fuel + 1, c :: rest =>
      let (others, ended) := unescape fuel rest
      (c :: others, ended)

def unescaped (text : Text) : Text × Bool :=
  unescape (text.length + 1) text

def echoWords (ending : Text) : List Text → Text
  | [] => ending
  | word :: rest =>
      match unescaped word with
      | (text, true) => text
      | (text, false) =>
          if rest.isEmpty then text ++ ending else text ++ ' ' :: echoWords ending rest

def echoText : List Text → Text
  | ['-', 'n'] :: words => echoWords [] words
  | words => echoWords ['\n'] words

end Script

end ApiSurface
