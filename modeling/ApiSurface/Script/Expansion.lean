import ApiSurface.Script.Arithmetic
import ApiSurface.Script.FileNames
import ApiSurface.Script.Subshell

namespace ApiSurface

namespace Script

def glyphsOf (quoted : Bool) (text : Text) : List Glyph :=
  text.map fun c => .char c quoted

def valueDivision (quoted : Bool) : Division :=
  if quoted then .never else .atDividers

def optionLetters (options : Options) : Text :=
  let letter (isOn : Bool) (c : Char) : Text := if isOn then [c] else []
  letter options.refusesUnset 'u' ++ letter options.exportsAll 'a' ++ letter options.keepsFiles 'C'
    ++ letter options.echoesInput 'v' ++ letter options.traces 'x' ++ letter options.readsInput 's'
    ++ letter options.runsNothing 'n' ++ letter options.ignoresPatterns 'f'
    ++ letter options.stopsOnFailure 'e'

def joinedArguments (arguments : List Text) (separator : Option Char) : Text :=
  List.intercalate separator.toList arguments

/-- The text between two arguments.  Where the word is divided, it divides too: the arguments from
each other if they are taken one by one, and like a blank outside quotations. -/
def argumentSeparator (name : Text) (mode : Mode) (dividers : Option Text) : Option Char :=
  if name = ['@'] && mode.quoted && mode.divides then some zero
  else
    match dividers with
    | none => some ' '
    | some given => if mode.divides && !mode.quoted then some zero else given.head?

def parameter? (mode : Mode) (name : Text) : Run (Option Text) := do
  let shell ← Run.shell
  match name with
  | ['$'] => pure (some (showNat shell.process))
  | ['?'] => pure (some (showNat shell.status))
  | ['#'] => pure (some (showNat shell.arguments.length))
  | ['!'] => pure (shell.latestJob.map showNat)
  | ['-'] => pure (some (optionLetters shell.options))
  | ['@'] | ['*'] =>
      let dividers ← Run.value? "IFS".toList
      pure (some (joinedArguments shell.arguments (argumentSeparator name mode dividers)))
  | _ =>
      match natural? name with
      | some 0 => pure (some shell.name)
      | some (place + 1) => pure shell.arguments[place]?
      | none => Run.value? name

def valueSegment (mode : Mode) (name : Text) (glyphs : List Glyph) : Run (List Segment) := do
  let shell ← Run.shell
  let division : Division :=
    if !mode.quoted then .atDividers
    else if name = ['@'] && !shell.arguments.isEmpty then .atZeros
    else .never
  pure [⟨glyphs, division, false⟩]

def shownSegments (segments : List Segment) : Text :=
  segments.flatMap fun segment => shown segment.glyphs

section

variable (below : Interpreter)

def expandText (mode : Mode) (word : Word) : Run Text := do
  pure (shownSegments (← below.expand mode word))

def expandPattern (word : Word) : Run (List Element) := do
  let segments ← below.expand { tilde := true } word
  pure (elements (segments.flatMap Segment.glyphs))

def unsetMessage (name : Text) : Text :=
  name ++ ": parameter not set".toList

def expandParameter (mode : Mode) (name : Text) (change : Change) (emptyCounts : Bool)
    (word : Word) : Run (List Segment) := do
  if change = .malformed then Run.fail "Bad substitution".toList
  let value ← parameter? mode name
  let absent : Bool :=
    match value with
    | none => true
    | some text => emptyCounts && text.isEmpty
  let glyphs (value : Option Text) : List Glyph := glyphsOf mode.quoted (value.getD [])
  let inside : Mode := { mode with tilde := true, inside := true }
  match change with
  | .default =>
      if absent then below.expand inside word else valueSegment mode name (glyphs value)
  | .alternative => if absent then pure [] else below.expand inside word
  | .assign =>
      if absent then
        let text ← expandText below { tilde := true } word
        Run.assign name text false
        valueSegment mode name (glyphs (← parameter? mode name))
      else valueSegment mode name (glyphs value)
  | .demand =>
      if absent then
        let text ← expandText below { tilde := true } word
        if word.isEmpty then
          Run.fail (unsetMessage name ++ if emptyCounts then " or null".toList else [])
        else Run.fail (name ++ ": ".toList ++ text)
      else valueSegment mode name (glyphs value)
  | _ =>
      if value.isNone && (← Run.shell).options.refusesUnset then Run.fail (unsetMessage name)
      match change, value with
      | .size, _ =>
          let whole ← parameter? { mode with divides := false } name
          valueSegment mode name (glyphsOf mode.quoted (showNat (whole.getD []).length))
      | .dropStart longest, some text =>
          let pattern ← expandPattern below word
          let count := (matchingStart? longest pattern text).getD 0
          valueSegment mode name (glyphsOf mode.quoted (text.drop count))
      | .dropEnd longest, some text =>
          let pattern ← expandPattern below word
          let count := (matchingEnd? longest pattern text).getD text.length
          valueSegment mode name (glyphsOf mode.quoted (text.take count))
      | _, _ => valueSegment mode name (glyphs value)

def expandArithmetic (mode : Mode) (word : Word) : Run (List Segment) := do
  let expression ← expandText below {} word
  let shell ← Run.shell
  let lookup (name : Text) : Option Text := (shell.bindings.lookup name).bind Variable.value
  let (result, assigned) := Arithmetic.evaluate lookup expression
  assigned.forM fun (name, value) => Run.assign name (showInt value) false
  match result with
  | .ok value =>
      pure [⟨glyphsOf mode.quoted (showInt value), valueDivision mode.quoted, false⟩]
  | .error problem => Run.fail (problem.message expression)

def homeOf? (user : Text) : Run (Option Text) :=
  if user.isEmpty then Run.value? "HOME".toList
  else if user = "root".toList then pure (some "/root".toList)
  else pure none

/-- The home directory that the front of a word stands for, and the rest of the word. -/
def home? (mode : Mode) (word : Word) : Run (Option (Text × Word)) := do
  let isUser : Part → Bool
    | .char c false => c ≠ '/' && !(c = ':' && mode.assigns)
    | _ => false
  match word with
  | .char '~' false :: rest =>
      let user := rest.takeWhile isUser
      let after := rest.dropWhile isUser
      let isWhole : Bool :=
        match after with
        | [] => true
        | .char _ false :: _ => true
        | _ => false
      if isWhole then
        pure ((← homeOf? (Word.unquoted user)).map fun home => (home, after))
      else pure none
  | _ => pure none

def precedesTilde (mode : Mode) (seenEquals : Bool) (c : Char) : Bool :=
  mode.assigns && (c = ':' || (c = '=' && !seenEquals))

/-- Expands the parts of a word.  `atTilde` tells that a tilde may stand here, and `inQuotes` that a
quotation is open. -/
def expandParts (mode : Mode) :
    Nat → (atTilde seenEquals inQuotes : Bool) → Word → Run (List Segment)
  | 0, _, _, _, _ => pure []
  | _ + 1, _, _, _, [] => pure []
  | fuel + 1, atTilde, seenEquals, inQuotes, part :: rest => do
      let quoted := mode.quoted || inQuotes
      let go := expandParts mode fuel false seenEquals inQuotes
      let home ← if atTilde then home? mode (part :: rest) else pure none
      match home with
      | some (directory, after) =>
          let tail ← go after
          pure ((directory.map fun c => Glyph.char c true).foldr
            (fun glyph segments => Segment.push glyph .never segments) tail)
      | none =>
          match part, rest with
          | .char c isQuoted, _ =>
              let division : Division :=
                if mode.inside && !quoted && !isQuoted then .atDividers else .never
              let tilde := !isQuoted && precedesTilde mode seenEquals c
              let tail ← expandParts mode fuel tilde
                (seenEquals || (c = '=' && !isQuoted)) inQuotes rest
              pure (Segment.push (.char c (isQuoted || quoted)) division tail)
          | .mark, .parameter ['@'] .plain false [] :: .mark :: after =>
              if inQuotes then
                let tail ← expandParts mode fuel false seenEquals false rest
                pure (Segment.push .mark .never tail)
              else
                let value ← expandParameter below { mode with quoted := true } ['@'] .plain false []
                let tail ← go after
                pure (value ++ tail)
          | .mark, _ =>
              let tail ← expandParts mode fuel false seenEquals (!inQuotes) rest
              pure (Segment.push .mark .never tail)
          | .parameter name change emptyCounts word, _ =>
              let value ← expandParameter below { mode with quoted } name change emptyCounts word
              let tail ← go rest
              pure (value ++ tail)
          | .output body, _ =>
              let text ← takeOutput below body
              let tail ← go rest
              pure (⟨glyphsOf quoted text, valueDivision quoted, false⟩ :: tail)
          | .arithmetic word, _ =>
              let value ← expandArithmetic below { mode with quoted } word
              let tail ← go rest
              pure (value ++ tail)

def expandWord (mode : Mode) (word : Word) : Run (List Segment) :=
  expandParts below mode (word.length + 1) mode.tilde false false word

/-- The fields that a word stands for.  Patterns are replaced by the names they match. -/
def expandFields (word : Word) : Run (List Text) := do
  let segments ← below.expand { divides := true, tilde := true } word
  let found := fields (← Run.dividers) segments
  let shell ← Run.shell
  let lists ← found.mapM fun glyphs => do
    if shell.options.ignoresPatterns || !isPattern glyphs then pure [shown glyphs]
    else
      let names ← Run.host (fileNames shell.directory glyphs)
      pure (if names.isEmpty then [shown glyphs] else names)
  pure lists.flatten

end

end Script

end ApiSurface
