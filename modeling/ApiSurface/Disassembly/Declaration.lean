import ApiSurface.Text.Blank

/-!
A declaration line is read word by word.  The declared name is the first word that is neither
`public` nor another word that may stand in front of a name, up to its type parameters.
-/

namespace ApiSurface

structure Declaration where
  package : Text
  simpleName : Text
deriving DecidableEq, Repr

namespace Declaration

/-- The words other than `public` that may stand in front of the declared name. -/
def modifiers : List Text :=
  ["protected", "private", "class", "interface", "abstract", "final", "static", "strictfp",
    "sealed", "non-sealed"].map String.toList

def isLeading (word : Text) : Bool :=
  word = "public".toList || modifiers.contains word

/-- A name up to its last dot is the package, the rest the simple name. -/
def ofQualified (name : Text) : Declaration :=
  match name.cutLast '.' with
  | some (package, simpleName) => ⟨package, simpleName⟩
  | none => ⟨[], name⟩

/-- The declared type of a line, if the line has the word `public` and a name. -/
def parse? (line : Text) : Option Declaration :=
  let words := line.words
  if words.contains "public".toList then
    match words.find? fun word => !isLeading word with
    | none => none
    | some word =>
        let declaration := ofQualified (word.takeWhile (· ≠ '<'))
        if declaration.simpleName.isEmpty || declaration.simpleName.head? = some '{' then none
        else some declaration
  else none

end Declaration

/-- Whether a simple name is that of an anonymous or generated class: one of the pieces between
its dollar signs is a number. -/
def isSynthetic (simpleName : Text) : Bool :=
  (simpleName.splitOn '$').any fun piece => !piece.isEmpty && piece.all Char.isDigit

end ApiSurface
