import ApiSurface.Host.Machine
import ApiSurface.Script.Pattern

namespace ApiSurface

namespace Script

def patternParts (glyphs : List Glyph) : List (List Sign) :=
  (signs false glyphs).splitOnP fun sign => sign.1 = '/'

def partElements (part : List Sign) : List Element :=
  elementsFrom (part.length + 1) part

def isPlainPart (part : List Sign) : Bool :=
  (partElements part).all Element.isCharacter

def isPattern (glyphs : List Glyph) : Bool :=
  (patternParts glyphs).any fun part => !isPlainPart part

def mayBeHidden (part : List Sign) : Bool :=
  part.head?.map Prod.fst = some '.'

def matchingNames (directory base : Path) (part : List Sign) : Host.Act (List Text) := do
  let folder := if base.isEmpty then ".".toList else base
  match ← Host.find? directory (toText folder) with
  | some (_, .directory entries) =>
      let names := (".".toList :: "..".toList :: Folder.names entries).map ofText
      let pattern := partElements part
      pure (names.filter fun name =>
        (mayBeHidden part || name.head? ≠ some '.') && isMatch pattern name)
  | _ => pure []

def matchingPaths (directory : Path) : Text → List (List Sign) → Host.Act (List Text)
  | base, [] => do
      match ← Host.find? directory (toText base) with
      | some _ => pure [base]
      | none => pure []
  | base, part :: rest => do
      let joint : Text := if rest.isEmpty then [] else ['/']
      if isPlainPart part then
        matchingPaths directory (base ++ part.map Prod.fst ++ joint) rest
      else
        let names ← matchingNames directory base part
        let found ← names.mapM fun name => matchingPaths directory (base ++ name ++ joint) rest
        pure found.flatten

def fileNames (directory : Path) (glyphs : List Glyph) : Host.Act (List Text) := do
  let found ← matchingPaths directory [] (patternParts glyphs)
  pure (found.mergeSort fun left right => !decide (right < left))

end Script

end ApiSurface
