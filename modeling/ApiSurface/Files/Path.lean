import ApiSurface.Text.Basic

/-!
A path is a text.  Slashes divide it into steps, and a path that begins with a slash starts at the
top of the whole tree instead of the working directory.
-/

namespace ApiSurface

abbrev Path := Text

namespace Path

inductive Step where
  | stay
  | up
  | into (name : Text)
deriving DecidableEq, Repr

def Step.ofPart (part : Text) : Step :=
  if part = ".".toList then .stay
  else if part = "..".toList then .up
  else .into part

def steps (path : Path) : List Step :=
  ((path.splitOn '/').filter fun part => !part.isEmpty).map Step.ofPart

def isAbsolute (path : Path) : Bool :=
  path.head? = some '/'

/-- A path that ends in a slash can only stand for a directory. -/
def demandsDirectory (path : Path) : Bool :=
  path.getLast? = some '/'

/-- Goes on from `base` along `part`.  An absolute `part` starts over. -/
def join (base part : Path) : Path :=
  if isAbsolute part then part
  else if base.isEmpty || demandsDirectory base then base ++ part
  else base ++ '/' :: part

end Path

end ApiSurface
