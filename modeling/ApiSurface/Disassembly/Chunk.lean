import ApiSurface.Text.Blank
import ApiSurface.Text.Line

/-!
A disassembly lists classes one after another.  The text of one class is a chunk.  It starts at a
marker line that names the source file, or, where the class file names none, at an unindented
declaration line once the body before it is closed.  What stands in front of the first chunk
belongs to none.
-/

namespace ApiSurface

/-- The text of one class: what the marker line says after the marker, if there is such a line,
and everything below it. -/
structure Chunk where
  header : Option Text
  source : Text
deriving DecidableEq, Repr

namespace Chunk

def marker : Text :=
  "Compiled from ".toList

def isMarked (line : Text) : Bool :=
  line.startsWith marker

/-- A line that is not indented and ends, blanks apart, in an opening brace. -/
def isDeclaration (line : Text) : Bool :=
  let visible := line.trimEnd
  !(visible.head?.any isBlank) && visible.endsWith ['{']

/-- A line that holds, blanks behind it apart, a closing brace alone. -/
def isClosing (line : Text) : Bool :=
  line.trimEnd = ['}']

structure Block where
  marked : Bool
  lines : List Text
deriving DecidableEq, Repr

/-- Cuts lines into those in front of the first chunk and the blocks of lines of each chunk.
`inBody` tells whether the line before lies in a body that is still open. -/
def cutLines : Bool → List Text → List Text × List Block
  | _, [] => ([], [])
  | inBody, line :: rest =>
      if isMarked line then
        let (body, later) := cutLines true rest
        ([], ⟨true, line :: body⟩ :: later)
      else if !inBody && isDeclaration line then
        let (body, later) := cutLines true rest
        ([], ⟨false, line :: body⟩ :: later)
      else
        let (body, later) := cutLines (inBody && !isClosing line) rest
        (line :: body, later)

def ofBlock (block : Block) : Chunk :=
  let text := block.lines.flatten
  if block.marked then
    let rest : Text := text.drop marker.length
    match rest.cutFirst '\n' with
    | some (header, source) => ⟨some header, source⟩
    | none => ⟨some rest, []⟩
  else ⟨none, text⟩

/-- The chunks of a disassembly, in order. -/
def split (raw : Text) : List Chunk :=
  (cutLines false raw.unifyLineEnds.lines).2.map ofBlock

/-- A chunk as a disassembly shows it. -/
def render (chunk : Chunk) : Text :=
  match chunk.header with
  | some header => marker ++ header ++ '\n' :: chunk.source
  | none => chunk.source

end Chunk

end ApiSurface
