import ApiSurface.Disassembly.Chunk
import ApiSurface.Disassembly.Declaration

/-! An entry is a public class of a library: its package, the name of its file in a snapshot, and
its text. -/

namespace ApiSurface

structure Entry where
  package : Text
  fileName : Text
  source : Text
deriving DecidableEq, Repr

namespace Entry

/-- Reads a class text.  A class that is not public, or that is anonymous or generated, gives no
entry. -/
def ofSource? (source : Text) : Option Entry :=
  match source.firstLine? with
  | none => none
  | some line =>
      match Declaration.parse? line with
      | none => none
      | some declaration =>
          if isSynthetic declaration.simpleName then none
          else some ⟨declaration.package, declaration.simpleName ++ ".java".toList, source⟩

def ofHeaded? (text : Text) : Option Entry :=
  match text.cutFirst '\n' with
  | none => none
  | some (_, source) => ofSource? source

/-- The entries of a disassembly, in order. -/
def parseAll (raw : Text) : List Entry :=
  (Chunk.split raw).filterMap fun chunk => ofSource? chunk.source

end Entry

end ApiSurface
