/-!
Texts are lists of characters.  The operations here cut a text at a marking character and take a
fixed ending off it.
-/

namespace ApiSurface

abbrev Text := List Char

namespace Text

def cutFirst (mark : Char) : Text → Option (Text × Text)
  | [] => none
  | c :: rest =>
      if c = mark then some ([], rest)
      else (cutFirst mark rest).map fun (before, after) => (c :: before, after)

def cutLast (mark : Char) : Text → Option (Text × Text)
  | [] => none
  | c :: rest =>
      match cutLast mark rest with
      | some (before, after) => some (c :: before, after)
      | none => if c = mark then some ([], rest) else none

def startsWith (text beginning : Text) : Bool :=
  beginning.isPrefixOf text

def endsWith (text ending : Text) : Bool :=
  ending.isSuffixOf text

def dropEnding? (text ending : Text) : Option Text :=
  if text.endsWith ending then some (text.take (text.length - ending.length)) else none

/-- Replaces `part` in what follows the first `skipped` characters. -/
def substituteAfter (part replacement : Text) : Nat → Text → Text
  | _, [] => []
  | skipped + 1, _ :: rest => substituteAfter part replacement skipped rest
  | 0, c :: rest =>
      if !part.isEmpty && part.isPrefixOf (c :: rest) then
        replacement ++ substituteAfter part replacement (part.length - 1) rest
      else c :: substituteAfter part replacement 0 rest

/-- Every occurrence of `part` is replaced, from left to right and without overlap.  An empty
`part` occurs nowhere. -/
def substitute (text part replacement : Text) : Text :=
  substituteAfter part replacement 0 text

end Text

end ApiSurface
