import ApiSurface.Script.Pattern

/-!
Dividing what a word expands to into fields.  Only some segments of it are divided: values outside
quotations at the dividing characters, and lists of arguments between their members.
-/

namespace ApiSurface

namespace Script

inductive Division where
  | never
  | atDividers
  | atZeros
deriving DecidableEq, Repr

structure Segment where
  glyphs : List Glyph
  division : Division
  /-- Whether the glyphs are written in the word itself. -/
  literal : Bool := false
deriving DecidableEq, Repr

def Segment.push (glyph : Glyph) (division : Division) : List Segment → List Segment
  | ⟨glyphs, found, true⟩ :: rest =>
      if found = division then ⟨glyph :: glyphs, division, true⟩ :: rest
      else ⟨[glyph], division, true⟩ :: ⟨glyphs, found, true⟩ :: rest
  | segments => ⟨[glyph], division, true⟩ :: segments

def zero : Char :=
  Char.ofNat 0

def isBlankDivider (c : Char) : Bool :=
  c = ' ' || c = '\t' || c = '\n' || c = zero

def isDivider (dividers : Text) (c : Char) : Bool :=
  c = zero || dividers.contains c

/-- The fields that are complete and the one that is being built, both from last to first. -/
structure Division.State where
  complete : List (List Glyph) := []
  current : List Glyph := []
  afterBlank : Bool := false
  /-- Whether blanks behind a divider are being passed over. -/
  passing : Bool := false
  afterZeros : Bool := false

namespace Division.State

def close (state : State) : State :=
  { state with complete := state.current.reverse :: state.complete, current := [] }

def divide (inZeros : Bool) (c : Char) (state : State) : State :=
  let afterBlank :=
    if state.afterZeros || inZeros then state.afterBlank else isBlankDivider c
  if state.current.isEmpty && afterBlank then { state with afterBlank := false }
  else { state.close with afterBlank, passing := !inZeros }

def step (dividers : Text) (inZeros : Bool) (state : State) (glyph : Glyph) : State :=
  let keep (state : State) : State :=
    { state with current := glyph :: state.current, passing := false }
  match glyph with
  | .mark => keep state
  | .char c _ =>
      if !isDivider dividers c then keep state
      else if state.passing && isBlankDivider c then state
      else if state.passing && state.afterBlank then { state with afterBlank := false }
      else divide inZeros c { state with passing := false }

def segment (dividers : Text) (state : State) (segment : Segment) : State :=
  let fresh := { state with afterBlank := false, passing := false }
  match segment.division with
  | .never =>
      { state with current := segment.glyphs.reverse ++ state.current }
  | .atDividers =>
      { segment.glyphs.foldl (step dividers false) fresh with afterZeros := false }
  | .atZeros =>
      { segment.glyphs.foldl (step [] true) fresh with afterZeros := true }

end Division.State

def fields (dividers : Text) (segments : List Segment) : List (List Glyph) :=
  let last := segments.foldl (Division.State.segment dividers) {}
  if last.afterZeros || !last.current.isEmpty then last.close.complete.reverse
  else last.complete.reverse

def isLineBlank (dividers : Text) (sign : Sign) : Bool :=
  !sign.2 && dividers.contains sign.1 && isBlankDivider sign.1

def isLineDivider (dividers : Text) (sign : Sign) : Bool :=
  !sign.2 && dividers.contains sign.1

/-- What follows the divider behind a field: blanks with at most one other divider among them. -/
def afterDivider (dividers : Text) (line : List Sign) : List Sign :=
  let rest := line.dropWhile (isLineBlank dividers)
  match rest with
  | sign :: after =>
      if isLineDivider dividers sign then after.dropWhile (isLineBlank dividers) else rest
  | [] => []

def lineFields (dividers : Text) : Nat → List Sign → List Text
  | 0, _ => []
  | count + 1, line =>
      let field := line.takeWhile fun sign => !isLineDivider dividers sign
      let rest := afterDivider dividers (line.drop field.length)
      let text (signs : List Sign) : Text := signs.map Prod.fst
      if count = 0 then
        if rest.isEmpty then [text field]
        else [text (line.reverse.dropWhile (isLineBlank dividers)).reverse]
      else if line.isEmpty then []
      else text field :: lineFields dividers count rest

end Script

end ApiSurface
