import ApiSurface.Digest.Sha256
import ApiSurface.Files.Path
import ApiSurface.Text.Hex

/-! A mismatch is one difference between the entries of a library and its snapshot. -/

namespace ApiSurface

inductive Mismatch where
  | missing (package fileName : Text) (path : Path)
  | content (path : Path) (expected actual : Text)
  | stale (path : Path)
deriving DecidableEq, Repr

namespace Mismatch

def path : Mismatch → Path
  | .missing _ _ path => path
  | .content path _ _ => path
  | .stale path => path

def digest (text : Text) : Text :=
  Hex.encode (Sha256.digest (Utf8.encode text))

/-- A text below a line that says what it is and gives its digest. -/
def exhibit (title text : Text) : Text :=
  title ++ " (sha256 ".toList ++ digest text ++ "):\n\n".toList ++ text

def render : Mismatch → Text
  | .missing package fileName _ =>
      "Missing target: ".toList
        ++ (if package.isEmpty then fileName else package ++ '.' :: fileName)
  | .content path expected actual =>
      "Not equal for: ".toList ++ path ++ '\n' :: exhibit "Expect".toList expected
        ++ '\n' :: exhibit "But found".toList actual
  | .stale path => "Mismatch file: ".toList ++ path

end Mismatch

end ApiSurface
