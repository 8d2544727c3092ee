import ApiSurface.Log.Event
import ApiSurface.Text.Blank
import ApiSurface.Text.Letter
import ApiSurface.Text.Utf8

/-!
Which events are logged.  A filter is a list of directives with commas between them, each of which
sets the level for the events of one origin, or for those that have certain facts.  Of the
directives that an event falls under, the most specific one counts.
-/

namespace ApiSurface

namespace Log

inductive Refusal where
  | malformed
  | splitCharacter (directive : Text)
deriving DecidableEq, Repr

def number? (text : Text) : Option Nat :=
  let digits := if text.head? = some '+' then text.drop 1 else text
  if !digits.isEmpty && digits.all Char.isDigit then
    let value := digits.foldl (fun value digit => 10 * value + (digit.toNat - '0'.toNat)) 0
    if value < 0x10000000000000000 then some value else none
  else none

/-- How talkative a level makes the log, from 0 for silence to 5.  It has a number and a name. -/
def talkativeness? (text : Text) : Option Nat :=
  match number? text with
  | some value => if value ≤ 5 then some value else none
  | none =>
      let names := ["off", "error", "warn", "info", "debug", "trace"].map String.toList
      let lower := text.map Char.toLower
      (names.zipIdx.find? fun entry => entry.1 = lower).map Prod.snd

def mostTalkative : Nat := 5

def escapeLetters : Text :=
  "aftnrvAzbBdDwWsSxuUpP<>".toList

def afterClass : Text → Option Text
  | [] => none
  | '\\' :: _ :: rest => afterClass rest
  | ']' :: rest => some rest
  | _ :: rest => afterClass rest

/-- Whether a text is a pattern.  `depth` is the number of open brackets, and `operand` tells
whether there is something that can be repeated. -/
def isPatternFrom : Nat → Nat → Bool → Text → Bool
  | 0, _, _, _ => false
  | _ + 1, depth, _, [] => depth = 0
  | fuel + 1, depth, operand, c :: rest =>
      match c with
      | '(' =>
          match rest with
          | '?' :: after => isPatternFrom fuel (depth + 1) true (after.dropWhile (· ≠ ':'))
          | _ => isPatternFrom fuel (depth + 1) false rest
      | ')' => 0 < depth && isPatternFrom fuel (depth - 1) true rest
      | '*' => operand && isPatternFrom fuel depth true rest
      | '+' => operand && isPatternFrom fuel depth true rest
      | '?' => operand && isPatternFrom fuel depth true rest
      | '{' => false
      | '|' => isPatternFrom fuel depth false rest
      | '[' =>
          let listed := if rest.head? = some '^' then rest.drop 1 else rest
          match afterClass (if listed.head? = some ']' then listed.drop 1 else listed) with
          | some after => isPatternFrom fuel depth true after
          | none => false
      | '\\' =>
          match rest with
          | escaped :: after =>
              (escapeLetters.contains escaped || (escaped.toNat < 128 && !escaped.isAlphanum))
                && isPatternFrom fuel depth true after
          | [] => false
      | _ => isPatternFrom fuel depth true rest

def isPattern (text : Text) : Bool :=
  isPatternFrom (text.length + 1) 0 false text

/-- A directive.  `facts` are the facts that an event needs to have, with a value if one is
asked for. -/
structure Directive where
  origin : Option Text
  span : Option Text
  facts : List (Text × Option Text)
  level : Nat
deriving DecidableEq, Repr

namespace Directive

def dropBytes? : Nat → Text → Option Text
  | 0, text => some text
  | _ + 1, [] => none
  | count + 1, c :: rest =>
      if c.utf8Size ≤ count + 1 then dropBytes? (count + 1 - c.utf8Size) rest else none
termination_by _ text => text.length

def takeBytes? (count : Nat) (text : Text) : Option Text :=
  (dropBytes? count text).map fun rest => text.take (text.length - rest.length)

def slice (text : Text) (start stop : Nat) : Except Refusal Text :=
  match dropBytes? start text with
  | none => .error (.splitCharacter text)
  | some rest =>
      match takeBytes? (stop - start) rest with
      | some part => .ok part
      | none => .error (.splitCharacter text)

/-- Where the reading of a directive stands, with the position at which the current part began. -/
inductive Phase where
  | start
  | levelOrOrigin (start : Nat)
  | span (start : Nat)
  | fact (start : Nat)
  | facts
  | closed
  | level (start : Nat)
deriving DecidableEq, Repr

def fact (text : Text) : Except Refusal (Text × Option Text) :=
  match text, text.splitOn '=' with
  | [], _ => .error .malformed
  | _, name :: value :: _ =>
      if isPattern value then .ok (name, some value) else .error .malformed
  | _, parts => .ok (parts.headD [], none)

/-- Goes past one character of a directive, which stands at `position`.  Positions are counted from
the first character that is not blank, but parts are cut out of the whole directive. -/
def advance (text : Text) (position : Nat) (c : Char) (phase : Phase) (read : Directive) :
    Except Refusal (Phase × Directive) :=
  match phase with
  | .start =>
      if c = '[' then .ok (.span (position + 1), read)
      else if c = '-' || c = ':' || c = '_' || isLetterOrNumeral c then
        .ok (.levelOrOrigin position, read)
      else .error .malformed
  | .levelOrOrigin start =>
      if c = '=' || c = '[' then do
        let origin ← slice text start position
        let next := if c = '=' then Phase.level (position + 1) else Phase.span (position + 1)
        pure (next, { read with origin := some origin })
      else .ok (phase, read)
  | .span start =>
      if c = ']' then do
        let span ← slice text start position
        pure (.closed, { read with span := some span })
      else if c = '{' then do
        let span ← slice text start position
        pure (.fact (position + 1), { read with span := if span.isEmpty then none else some span })
      else .ok (phase, read)
  | .fact start =>
      if c = '}' then do
        let found ← fact (← slice text start position)
        pure (.facts, { read with facts := read.facts ++ [found] })
      else .ok (phase, read)
  | .facts => if c = ']' then .ok (.closed, read) else .error .malformed
  | .closed => if c = '=' then .ok (.level (position + 1), read) else .error .malformed
  | .level _ => .ok (phase, read)

def advanceAll (text : Text) : Nat → Text → Phase → Directive →
    Except Refusal (Phase × Directive)
  | _, [], phase, read => .ok (phase, read)
  | position, c :: rest, phase, read =>
      match advance text position c phase read with
      | .error refusal => .error refusal
      | .ok (next, grown) => advanceAll text (position + c.utf8Size) rest next grown

/-- Reads a directive: a level, an origin with or without one, or a span with facts in brackets
behind the origin.  Where no level is given, everything is logged. -/
def parse (text : Text) : Except Refusal Directive := do
  let size := (Utf8.encode text).length
  let (phase, read) ← advanceAll text 0 text.trim .start ⟨none, none, [], mostTalkative⟩
  match phase with
  | .levelOrOrigin start =>
      let rest ← slice text start size
      match talkativeness? rest with
      | some level => pure { read with level }
      | none => pure { read with origin := some rest }
  | .level start =>
      let rest ← slice text start size
      if rest.isEmpty then pure read
      else
        match talkativeness? rest with
        | some level => pure { read with level }
        | none => throw .malformed
  | .closed => pure read
  | _ => throw .malformed

/-- A directive for spans, or for values of facts, says nothing about single events. -/
def concernsEvents (directive : Directive) : Bool :=
  directive.span.isNone && directive.facts.all fun fact => fact.2.isNone

def factNames (directive : Directive) : List Text :=
  directive.facts.map Prod.fst

def concerns (directive : Directive) (event : Event) : Bool :=
  (directive.origin.all fun origin => event.origin.startsWith origin)
    && directive.factNames.all event.hasFact

def originSize (directive : Directive) : Nat :=
  match directive.origin with
  | some origin => (Utf8.encode origin).length + 1
  | none => 0

def isAlike (left right : Directive) : Bool :=
  left.origin = right.origin && left.factNames = right.factNames

/-- Whether `left` is the more specific of two directives that are not alike: its origin is longer,
or else it asks for more facts.  If neither is, the greater one in the order of texts counts. -/
def isMoreSpecific (left right : Directive) : Bool :=
  if left.originSize ≠ right.originSize then right.originSize < left.originSize
  else if left.facts.length ≠ right.facts.length then right.facts.length < left.facts.length
  else if left.origin ≠ right.origin then right.origin.getD [] < left.origin.getD []
  else decide (right.factNames < left.factNames)

end Directive

abbrev Filter := List Directive

namespace Filter

def insert (directive : Directive) : Filter → Filter
  | [] => [directive]
  | first :: rest =>
      if directive.isAlike first then directive :: rest
      else if directive.isMoreSpecific first then directive :: first :: rest
      else first :: insert directive rest

/-- Reads the directives between commas.  Where there is nothing between two, it is skipped. -/
def parse (text : Text) : Except Refusal Filter := do
  let parts := (text.splitOn ',').filter fun part => !part.isEmpty
  let directives ← parts.mapM Directive.parse
  let concerning := directives.filter Directive.concernsEvents
  pure (concerning.foldl (fun filter next => insert next filter) [])

def warnings : Filter :=
  [⟨none, none, [], Level.warn.talkativeness⟩]

def admits (filter : Filter) (event : Event) : Bool :=
  match filter.find? fun directive => directive.concerns event with
  | some directive => event.level.talkativeness ≤ directive.level
  | none => false

end Filter

end Log

end ApiSurface
