import ApiSurface.Script.Reader

/-!
Scanning words.  What a character means depends on the quotation it stands in, and parameters and
arithmetic inside a word have quotations of their own, so the scanner keeps a stack of levels.
-/

namespace ApiSurface

namespace Script

inductive Style where
  | plain
  | single
  | double
  | arithmetic
deriving DecidableEq, Repr

inductive Meaning where
  | ordinary
  | shielded
  | newline
  | backslash
  | openSingle
  | openDouble
  | closeQuote
  | dollar
  | closeBrace
  | openBracket
  | closeBracket
  | backquote
  | divider
  | ending
deriving DecidableEq, Repr

def isShielded (c : Char) : Bool :=
  0x81 ≤ c.toNat && c.toNat ≤ 0x88

def isPatternMark (c : Char) : Bool :=
  "!*?[=~:/-]".toList.contains c

def Style.meaning : Style → Option Char → Meaning
  | _, none => .ending
  | _, some '\n' => .newline
  | .plain, some c =>
      match c with
      | '\\' => .backslash
      | '\'' => .openSingle
      | '"' => .openDouble
      | '$' => .dollar
      | '\x7d' => .closeBrace
      | _ =>
          if c.toNat = 0x60 then .backquote
          else if "<>();&| \t".toList.contains c then .divider
          else if isShielded c then .shielded
          else .ordinary
  | .single, some c =>
      match c with
      | '\'' => .closeQuote
      | '\\' => .shielded
      | _ => if isPatternMark c || isShielded c then .shielded else .ordinary
  | .double, some c =>
      match c with
      | '\\' => .backslash
      | '"' => .closeQuote
      | '$' => .dollar
      | '\x7d' => .closeBrace
      | _ =>
          if c.toNat = 0x60 then .backquote
          else if isPatternMark c || isShielded c then .shielded
          else .ordinary
  | .arithmetic, some c =>
      match c with
      | '\\' => .backslash
      | '$' => .dollar
      | '\x7d' => .closeBrace
      | '(' => .openBracket
      | ')' => .closeBracket
      | _ =>
          if c.toNat = 0x60 then .backquote
          else if isShielded c then .shielded
          else .ordinary

structure Level where
  style : Style
  /-- Whether characters count as quoted by double quotes. -/
  quoted : Bool := false
  /-- Whether a double quotation is open inside a parameter. -/
  innerQuote : Bool := false
  /-- Whether the level was entered for a parameter and is left with it. -/
  ofParameter : Bool := false
  parameters : Nat := 0
  quotedParameters : Nat := 0
  brackets : Nat := 0

inductive Nest where
  | parameter (name : Text) (change : Change) (emptyCounts : Bool)
  | arithmetic

structure Draft where
  level : Level
  outer : List Level := []
  parts : List Part := []
  nests : List (Nest × List Part) := []
  quoted : Bool := false

namespace Draft

def add (draft : Draft) (part : Part) : Draft :=
  { draft with parts := part :: draft.parts }

def addChar (draft : Draft) (c : Char) : Draft :=
  draft.add (.char c (draft.level.style = .single || draft.level.quoted))

def change (draft : Draft) (f : Level → Level) : Draft :=
  { draft with level := f draft.level }

def enter (draft : Draft) (level : Level) : Draft :=
  { draft with level, outer := draft.level :: draft.outer }

def leave (draft : Draft) : Draft :=
  match draft.outer with
  | [] => draft
  | level :: outer => { draft with level, outer }

def openNest (draft : Draft) (nest : Nest) : Draft :=
  { draft with nests := (nest, draft.parts) :: draft.nests, parts := [] }

def closeNest (draft : Draft) : Draft :=
  match draft.nests with
  | [] => draft
  | (nest, before) :: nests =>
      let inside := draft.parts.reverse
      let part : Part :=
        match nest with
        | .parameter name change emptyCounts => .parameter name change emptyCounts inside
        | .arithmetic => .arithmetic inside
      { draft with nests, parts := part :: before }

def word (draft : Draft) : Word :=
  draft.parts.reverse

end Draft

inductive Purpose where
  | word
  /-- The word that says how a document ends, in which nothing is replaced. -/
  | ending
  | document (ending : Text) (stripsTabs : Bool)
deriving DecidableEq, Repr

def Purpose.isDocument : Purpose → Bool
  | .document _ _ => true
  | _ => false

/-- How the commands inside a word are read: those up to a closing bracket, and those up to the end
of the text. -/
structure Inner where
  bracketed : Parser (Option Command)
  bare : Parser (Option Command)

def isSign (c : Char) : Bool :=
  "!*$#@?-".toList.contains c

def isSpecial (c : Char) : Bool :=
  isSign c || c.isDigit

def takeRun (belongs : Char → Bool) : Nat → Text → Option Char → Parser (Text × Option Char)
  | 0, taken, c => pure (taken.reverse, c)
  | _ + 1, taken, none => pure (taken.reverse, none)
  | fuel + 1, taken, some c => do
      if belongs c then takeRun belongs fuel (c :: taken) (← Parser.takeJoined)
      else pure (taken.reverse, some c)

structure Named where
  name : Text
  sized : Bool
  sound : Bool
  next : Option Char

def takeName (first : Option Char) : Parser Named := do
  let fuel := (← get).rest.length + 1
  let run (belongs : Char → Bool) (sized : Bool) (c : Option Char) : Parser Named := do
    let (name, next) ← takeRun belongs fuel [] c
    pure ⟨name, sized, true, next⟩
  let named (sized : Bool) (c : Char) : Parser Named :=
    if isNameStart c then run isNamePart sized (some c)
    else run Char.isDigit sized (some c)
  match first with
  | none => pure ⟨[], false, false, none⟩
  | some '\x7d' => pure ⟨[], false, false, first⟩
  | some c =>
      if isNamePart c then named false c
      else
        let next ← Parser.takeJoined
        if c = '#' then
          match next with
          | some d =>
              if isNamePart d then named true d
              else
                let after ← Parser.takeJoined
                if d = '\x7d' || after ≠ some '\x7d' then
                  Parser.putBack after
                  pure ⟨[c], false, true, next⟩
                else pure ⟨[d], isSpecial d, isSpecial d, after⟩
          | none => pure ⟨[c], false, true, next⟩
        else pure ⟨[c], false, isSpecial c, next⟩

/-- Reads what is done with a parameter in braces.  Gives the change, whether an empty value counts
as absent, and whether the parameter is complete. -/
def takeChange (named : Named) : Parser (Change × Bool × Bool) := do
  if !named.sound then
    Parser.putBack named.next
    pure (.malformed, false, false)
  else if named.sized then
    Parser.putBack named.next
    pure (if named.next = some '\x7d' then .size else .malformed, false, false)
  else
    let letter (emptyCounts : Bool) : Option Char → Change × Bool × Bool
      | some '\x7d' => (.plain, emptyCounts, !emptyCounts)
      | some '-' => (.default, emptyCounts, false)
      | some '+' => (.alternative, emptyCounts, false)
      | some '?' => (.demand, emptyCounts, false)
      | some '=' => (.assign, emptyCounts, false)
      | _ => (.malformed, emptyCounts, false)
    let trim (c : Char) (change : Bool → Change) : Parser (Change × Bool × Bool) := do
      let next ← Parser.takeJoined
      if next = some c then pure (change true, false, false)
      else
        Parser.putBack next
        pure (change false, false, false)
    match named.next with
    | some ':' => pure (letter true (← Parser.takeJoined))
    | some '#' => trim '#' .dropStart
    | some '%' => trim '%' .dropEnd
    | next => pure (letter false next)

def Draft.openParameter (draft : Draft) (name : Text) (change : Change) (emptyCounts : Bool) :
    Draft :=
  let style : Style :=
    match change with
    | .dropStart _ | .dropEnd _ => .plain
    | _ => if draft.level.style = .arithmetic then .double else draft.level.style
  let entered :=
    if style ≠ draft.level.style || draft.level.innerQuote then
      draft.enter { style, ofParameter := true, quoted := style ≠ .plain }
    else draft
  let counted := entered.change fun level =>
    { level with
      parameters := level.parameters + 1
      quotedParameters := level.quotedParameters + if level.quoted then 1 else 0 }
  counted.openNest (.parameter name change emptyCounts)

def scanBraced (draft : Draft) : Parser Draft := do
  let named ← takeName (← Parser.takeJoined)
  let (change, emptyCounts, complete) ← takeChange named
  if complete then pure (draft.add (.parameter named.name .plain false []))
  else pure (draft.openParameter named.name change emptyCounts)

/-- The script between backquotes, in which a backslash protects another one, a dollar sign and
another backquote. -/
def takeBackquoted (quoted : Bool) : Nat → Text → Parser Text
  | 0, taken => pure taken.reverse
  | fuel + 1, taken => do
      match ← Parser.takeJoined with
      | none => Parser.fail "EOF in backquote substitution".toList
      | some '\\' =>
          match ← Parser.take with
          | none => takeBackquoted quoted fuel ('\\' :: taken)
          | some c =>
              if c = '\\' || c.toNat = 0x60 || c = '$' || (quoted && c = '"') then
                takeBackquoted quoted fuel (c :: taken)
              else takeBackquoted quoted fuel (c :: '\\' :: taken)
      | some c =>
          if c.toNat = 0x60 then pure taken.reverse
          else
            if c = '\n' then Parser.countLine
            takeBackquoted quoted fuel (c :: taken)

def scanCommands (draft : Draft) (commands : Parser (Option Command)) : Parser Draft := do
  let outer ← get
  set { outer with announced := [], repeats := false }
  let body ← commands
  modify fun inner => { inner with announced := outer.announced, repeats := false }
  pure (draft.add (.output body))

def scanBackquote (inner : Inner) (purpose : Purpose) (draft : Draft) (c : Char) :
    Parser Draft := do
  if purpose = .ending then pure { draft.addChar c with quoted := true }
  else
    let text ← takeBackquoted draft.level.quoted ((← get).rest.length + 1) []
    scanCommands draft (Parser.within text 1 inner.bare)

def scanDollar (inner : Inner) (purpose : Purpose) (draft : Draft) : Parser Draft := do
  let next ← Parser.takeJoined
  let literal : Parser Draft := do
    Parser.putBack next
    pure (draft.addChar '$')
  if purpose = .ending then literal
  else
    match next with
    | none => literal
    | some '(' =>
        let second ← Parser.takeJoined
        if second = some '(' then
          pure ((draft.enter { style := .arithmetic, quoted := true }).openNest .arithmetic)
        else
          Parser.putBack second
          scanCommands draft inner.bracketed
    | some '\x7b' => scanBraced draft
    | some c =>
        if isNameStart c then
          let (name, after) ← takeRun isNamePart ((← get).rest.length + 1) [] next
          Parser.putBack after
          pure (draft.add (.parameter name .plain false []))
        else if isSpecial c then pure (draft.add (.parameter [c] .plain false []))
        else literal

def scanBackslash (purpose : Purpose) (draft : Draft) : Parser Draft := do
  match ← Parser.take with
  | none => pure (draft.add (.char '\\' true))
  | some c =>
      let level := draft.level
      let isProtected : Bool :=
        c = '\\' || c.toNat = 0x60 || c = '$'
          || (c = '"' && !(purpose.isDocument && level.parameters = 0))
          || (c = '\x7d' && level.parameters ≠ 0)
      let before := if level.quoted && !isProtected then draft.add (.char '\\' true) else draft
      pure { before.add (.char c true) with quoted := true }

def Draft.markQuote (draft : Draft) (purpose : Purpose) (double : Bool) : Draft :=
  let toggled := draft.change fun level =>
    if double && level.parameters ≠ 0 then { level with innerQuote := !level.innerQuote }
    else level
  if purpose.isDocument then toggled else toggled.add .mark

def Draft.closeQuote (draft : Draft) (purpose : Purpose) (c : Char) : Draft :=
  if purpose.isDocument && draft.level.parameters = 0 then draft.addChar c
  else
    let closed := draft.change fun level =>
      if level.quotedParameters = 0 then { level with style := .plain, quoted := false }
      else level
    { closed with quoted := true }.markQuote purpose (c = '"')

def Draft.closeBrace (draft : Draft) : Draft :=
  let level := draft.level
  if level.innerQuote || level.parameters = 0 then draft.addChar '\x7d'
  else
    let counted := draft.change fun level => { level with parameters := level.parameters - 1 }
    let left :=
      if level.parameters = 1 && level.ofParameter then counted.leave
      else counted.change fun level =>
        { level with quotedParameters := level.quotedParameters - 1 }
    left.closeNest

def scanCloseBracket (draft : Draft) : Parser Draft := do
  if draft.level.brackets ≠ 0 then
    pure ((draft.addChar ')').change fun level => { level with brackets := level.brackets - 1 })
  else
    let next ← Parser.takeJoined
    if next = some ')' then pure draft.leave.closeNest
    else
      Parser.putBack next
      pure (draft.addChar ')')

def scanChar (inner : Inner) (purpose : Purpose) (draft : Draft) (c : Char) :
    Parser (Option Draft) := do
  match draft.level.style.meaning (some c) with
  | .ordinary => pure (some (draft.addChar c))
  | .shielded => pure (some (draft.add (.char c true)))
  | .newline => pure (some (draft.addChar c))
  | .backslash => some <$> scanBackslash purpose draft
  | .openSingle =>
      let opened := draft.change fun level => { level with style := .single }
      pure (some (opened.markQuote purpose false))
  | .openDouble =>
      let opened := draft.change fun level => { level with style := .double, quoted := true }
      pure (some (opened.markQuote purpose true))
  | .closeQuote => pure (some (draft.closeQuote purpose c))
  | .dollar => some <$> scanDollar inner purpose draft
  | .closeBrace => pure (some draft.closeBrace)
  | .openBracket =>
      pure (some ((draft.addChar c).change fun level =>
        { level with brackets := level.brackets + 1 }))
  | .closeBracket => some <$> scanCloseBracket draft
  | .backquote => some <$> scanBackquote inner purpose draft c
  | .divider => pure (if draft.level.parameters = 0 then none else some (draft.addChar c))
  | .ending => pure none

/-- Where a line begins, a document may end.  `c` is the first character of the line. -/
def checkEnding (purpose : Purpose) (c : Option Char) : Parser (Option Char) := do
  match purpose with
  | .document ending stripsTabs =>
      let reader ← get
      let whole := c.toList ++ reader.rest
      let line := if stripsTabs then whole.dropWhile (· = '\t') else whole
      let after := line.drop ending.length
      if ending.isPrefixOf line && (after.isEmpty || after.head? = some '\n') then
        set { reader with rest := after.drop 1, line := reader.line + 1 }
        pure none
      else
        set { reader with rest := line.drop 1 }
        pure line.head?
  | _ => pure c

/-- Scans from the character `c` on.  Gives what is scanned and the character in front of which it
ends. -/
def scanFrom (inner : Inner) (purpose : Purpose) :
    Nat → Draft → Option Char → Parser (Draft × Option Char)
  | 0, draft, c => pure (draft, c)
  | _ + 1, draft, none => pure (draft, none)
  | fuel + 1, draft, some c => do
      if c = '\n' then
        if draft.level.style = .plain && draft.level.parameters = 0 then pure (draft, some c)
        else
          Parser.countLine
          let next ← checkEnding purpose (← Parser.take)
          scanFrom inner purpose fuel (draft.addChar c) next
      else
        match ← scanChar inner purpose draft c with
        | none => pure (draft, some c)
        | some scanned =>
            let next ←
              if scanned.level.style = .single then Parser.take else Parser.takeJoined
            scanFrom inner purpose fuel scanned next

def Draft.checkClosed (draft : Draft) (purpose : Purpose) : Parser Unit := do
  if draft.level.style = .arithmetic then Parser.fail "Missing '))'".toList
  if draft.level.style ≠ .plain && !purpose.isDocument then
    Parser.fail "Unterminated quoted string".toList
  if draft.level.parameters ≠ 0 then Parser.fail "Missing '\x7d'".toList

def scan (inner : Inner) (purpose : Purpose) (style : Style) (c : Option Char) :
    Parser (Draft × Option Char) := do
  let first ← checkEnding purpose c
  let start : Draft := { level := { style, quoted := style = .double } }
  let (draft, next) ← scanFrom inner purpose ((← get).rest.length + 2) start first
  draft.checkClosed purpose
  pure (draft, next)

end Script

end ApiSurface
