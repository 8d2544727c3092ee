import ApiSurface.Script.Scanning

namespace ApiSurface

namespace Script

def keyword? (word : Word) : Option Text :=
  match word.plain? with
  | some text => if keywords.contains text then some text else none
  | none => none

def takeRedirection (descriptor : Option Nat) (c : Char) : Parser Token := do
  let next ← Parser.takeJoined
  let double (symbol : String) : Token := .redirection descriptor symbol.toList
  match c, next with
  | '>', some '>' => pure (double ">>")
  | '>', some '|' => pure (double ">|")
  | '>', some '&' => pure (double ">&")
  | '<', some '&' => pure (double "<&")
  | '<', some '>' => pure (double "<>")
  | '<', some '<' =>
      let third ← Parser.takeJoined
      if third = some '-' then pure (double "<<-")
      else
        Parser.putBack third
        pure (double "<<")
  | _, _ =>
      Parser.putBack next
      pure (.redirection descriptor [c])

/-- The token that begins with a character of a word.  A single digit right in front of a
redirection belongs to it. -/
def takeWord (inner : Inner) (purpose : Purpose) (c : Char) : Parser Token := do
  let (draft, next) ← scan inner purpose .plain (some c)
  let word := draft.word
  let wordToken : Parser Token := do
    Parser.putBack next
    pure (.word word draft.quoted)
  match next, draft.quoted, word with
  | some '<', false, [] => takeRedirection none '<'
  | some '>', false, [] => takeRedirection none '>'
  | some '<', false, [.char d false] =>
      if d.isDigit then takeRedirection (some (digitValue d)) '<' else wordToken
  | some '>', false, [.char d false] =>
      if d.isDigit then takeRedirection (some (digitValue d)) '>' else wordToken
  | _, _, _ => wordToken

def takeOperator (c : Char) : Parser Token := do
  let next ← Parser.takeJoined
  if next = some c then pure (.operator [c, c])
  else
    Parser.putBack next
    pure (.operator [c])

def nextToken (inner : Inner) (purpose : Purpose) : Nat → Parser Token
  | 0 => pure .endOfInput
  | fuel + 1 => do
      match ← Parser.takeJoined with
      | none => pure .endOfInput
      | some c =>
          match c with
          | ' ' | '\t' => nextToken inner purpose fuel
          | '#' =>
              modify fun reader => { reader with rest := reader.rest.dropWhile (· ≠ '\n') }
              nextToken inner purpose fuel
          | '\n' =>
              Parser.countLine
              pure .newline
          | '&' | '|' | ';' => takeOperator c
          | '(' | ')' => pure (.operator [c])
          | _ => takeWord inner purpose c

def rawToken (inner : Inner) (purpose : Purpose) : Parser Token := do
  let reader ← get
  if reader.repeats then
    set { reader with repeats := false }
    pure reader.last
  else
    let token ← nextToken inner purpose (reader.rest.length + 1)
    modify fun after => { after with last := token }
    pure token

def readDocuments (inner : Inner) : Parser Unit := do
  let announced := (← get).announced
  modify fun reader => { reader with announced := [] }
  announced.forM fun announcement => do
    let first ← if announcement.expands then Parser.takeJoined else Parser.take
    let (draft, _) ← scan inner (.document announcement.ending announcement.stripsTabs)
      (if announcement.expands then .double else .single) first
    modify fun reader =>
      { reader with
        documents := (announcement.index, ⟨draft.word, announcement.expands⟩)
          :: reader.documents }

def Parser.settleAliases : Parser Unit :=
  modify fun reader =>
    { reader with
      replacing := reader.replacing.filter fun (_, left) => left < reader.rest.length }

def alias? (name : Text) : Parser (Option Text) := do
  Parser.settleAliases
  let reader ← get
  if (reader.replacing.lookup name).isSome then pure none
  else pure (reader.aliases.lookup name)

def Parser.replaceAlias (name value : Text) : Parser Unit :=
  modify fun reader =>
    { reader with
      replacing := (name, reader.rest.length) :: reader.replacing
      rest := value ++ reader.rest }

def tokenWith (inner : Inner) (purpose : Purpose) : Nat → Attention → Parser Token
  | 0, _ => pure .endOfInput
  | fuel + 1, attention => do
      let token ← rawToken inner purpose
      match token with
      | .newline =>
          if attention.newlines then
            readDocuments inner
            tokenWith inner purpose fuel attention
          else
            Parser.attend {}
            pure token
      | .word word false =>
          Parser.attend {}
          match attention.keywords, keyword? word with
          | true, some name =>
              modify fun reader => { reader with last := .keyword name }
              pure (.keyword name)
          | _, _ =>
              match attention.aliases, word.plain? with
              | true, some name =>
                  match ← alias? name with
                  | some value =>
                      Parser.replaceAlias name value
                      tokenWith inner purpose fuel attention
                  | none => pure token
              | _, _ => pure token
      | _ =>
          Parser.attend {}
          pure token

def readToken (inner : Inner) (purpose : Purpose) : Parser Token := do
  let reader ← get
  tokenWith inner purpose (2 * reader.rest.length + 64) reader.attention

end Script

end ApiSurface
