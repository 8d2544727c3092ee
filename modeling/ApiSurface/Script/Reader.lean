import ApiSurface.Script.Syntax

/-!
Reading a script character by character.  The reader keeps the line it is on, the token it has read
last, and the documents that are announced but still to come.
-/

namespace ApiSurface

namespace Script

structure Attention where
  newlines : Bool := false
  keywords : Bool := false
  aliases : Bool := false
deriving DecidableEq, Repr

structure Announcement where
  index : Nat
  ending : Text
  stripsTabs : Bool
  expands : Bool

structure Reader where
  rest : Text
  line : Nat := 1
  last : Token := .newline
  repeats : Bool := false
  attention : Attention := {}
  announced : List Announcement := []
  documents : List (Nat × Document) := []
  nextDocument : Nat := 0
  aliases : List (Text × Text) := []
  /-- Aliases that are being replaced, each until so much of the script is left. -/
  replacing : List (Text × Nat) := []

inductive SyntaxError where
  | at (line : Nat) (message : Text)
  | tooDeep
deriving DecidableEq, Repr

abbrev Parser := EStateM SyntaxError Reader

namespace Parser

def fail {α : Type} (message : Text) : Parser α := do
  throw (.at (← get).line message)

def take : Parser (Option Char) := do
  let reader ← get
  match reader.rest with
  | [] => pure none
  | c :: rest =>
      set { reader with rest }
      pure (some c)

/-- Skips joined lines in front of a script.  Gives what follows and how many there were. -/
def skipJoints : Text → Text × Nat
  | '\\' :: '\n' :: rest =>
      let (remaining, count) := skipJoints rest
      (remaining, count + 1)
  | text => (text, 0)

/-- The next character once lines that end in a backslash are joined to the ones after them. -/
def takeJoined : Parser (Option Char) := do
  let reader ← get
  let (rest, count) := skipJoints reader.rest
  set { reader with rest, line := reader.line + count }
  take

def putBack (c : Option Char) : Parser Unit :=
  modify fun reader => { reader with rest := c.toList ++ reader.rest }

def countLine : Parser Unit :=
  modify fun reader => { reader with line := reader.line + 1 }

def attend (attention : Attention) : Parser Unit :=
  modify fun reader => { reader with attention }

def unread : Parser Unit :=
  modify fun reader => { reader with repeats := true }

def within {α : Type} (text : Text) (line : Nat) (parser : Parser α) : Parser α := do
  let outer ← get
  set { outer with rest := text, line, replacing := [] }
  let result ← parser
  modify fun inner =>
    { inner with rest := outer.rest, line := outer.line, replacing := outer.replacing }
  pure result

def unexpected {α : Type} : Parser α := do
  fail ((← get).last.shown ++ " unexpected".toList)

def expected {α : Type} (token : Token) : Parser α := do
  fail ((← get).last.shown ++ " unexpected (expecting ".toList ++ token.shown ++ ")".toList)

end Parser

end Script

end ApiSurface
