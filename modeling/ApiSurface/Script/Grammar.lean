import ApiSurface.Script.Tokens

/-!
The grammar of scripts.  Commands hold lists of commands, and so do words.  The rules for what is
held are those of a grammar one level down.
-/

namespace ApiSurface

namespace Script

/-- Where a list of commands stands: on a line of its own, or where there must or may be one. -/
inductive ListKind where
  | line
  | required
  | optional
deriving DecidableEq, Repr

structure Grammar where
  token : Purpose → Parser Token
  documents : Parser Unit
  list : ListKind → Parser (Option Command)
  command : Parser Command

namespace Grammar

def operator (symbol : String) : Token :=
  .operator symbol.toList

def keyword (name : String) : Token :=
  .keyword name.toList

def inner (grammar : Grammar) : Inner where
  bracketed := do
    let body ← grammar.list .optional
    let token ← grammar.token .word
    if !token.isOperator ")" then Parser.expected (operator ")")
    let line := (← get).line
    Parser.within [] line grammar.documents
    pure body
  bare := do
    let body ← grammar.list .optional
    Parser.within [] (← get).line grammar.documents
    pure body

def nothing : Command :=
  .simple 0 [] [] []

def requiredList (grammar : Grammar) : Parser Command := do
  pure ((← grammar.list .required).getD nothing)

section

variable (below : Grammar)

def readWord : Parser Token :=
  readToken below.inner .word

def everything : Attention :=
  { newlines := true, keywords := true, aliases := true }

def demandKeyword (name : String) : Parser Unit := do
  if !(← readWord below).isKeyword name then Parser.expected (keyword name)

def redirection (descriptor : Option Nat) (symbol : Text) : Parser Redirection := do
  let target (purpose : Purpose) : Parser (Word × Bool) := do
    match ← readToken below.inner purpose with
    | .word word quoted => pure (word, quoted)
    | _ => Parser.unexpected
  let document (stripsTabs : Bool) : Parser Redirection := do
    let (word, quoted) ← target .ending
    let reader ← get
    let index := reader.nextDocument
    let announcement : Announcement := ⟨index, word.unquoted, stripsTabs, !quoted⟩
    set { reader with
      nextDocument := index + 1
      announced := reader.announced ++ [announcement] }
    pure (.document (descriptor.getD 0) index)
  let file (standard : Nat) (opening : Opening) : Parser Redirection := do
    pure (.file (descriptor.getD standard) opening (← target .word).1)
  let duplicate (standard : Nat) : Parser Redirection := do
    pure (.duplicate (descriptor.getD standard) (← target .word).1)
  match String.ofList symbol with
  | "<<" => document false
  | "<<-" => document true
  | "<&" => duplicate 0
  | ">&" => duplicate 1
  | "<" => file 0 .reading
  | "<>" => file 0 .both
  | ">>" => file 1 .appending
  | ">|" => file 1 .replacing
  | _ => file 1 .writing

def redirections : Nat → List Redirection → Parser (List Redirection)
  | 0, found => pure found.reverse
  | fuel + 1, found => do
      match ← readWord below with
      | .redirection descriptor symbol =>
          redirections fuel ((← redirection below descriptor symbol) :: found)
      | _ =>
          Parser.unread
          pure found.reverse

structure Simple where
  line : Nat
  assignments : List Word := []
  words : List Word := []
  redirections : List Redirection := []

def Simple.command (simple : Simple) : Command :=
  .simple simple.line simple.assignments.reverse simple.words.reverse
    simple.redirections.reverse

def definition (name : Word) : Parser Command := do
  if !(← readWord below).isOperator ")" then Parser.expected (operator ")")
  match name.plain? with
  | some text =>
      if !isName text || specialCommands.contains text then
        Parser.fail "Bad function name".toList
      Parser.attend everything
      let line := (← get).line
      pure (.define line text (← below.command))
  | none => Parser.fail "Bad function name".toList

def simpleFrom : Nat → Simple → Parser Command
  | 0, simple => pure simple.command
  | fuel + 1, simple => do
      Parser.attend { aliases := simple.words.isEmpty }
      match ← readWord below with
      | .word word _ =>
          if simple.words.isEmpty && word.isAssignment then
            simpleFrom fuel { simple with assignments := word :: simple.assignments }
          else simpleFrom fuel { simple with words := word :: simple.words }
      | .redirection descriptor symbol =>
          let found ← redirection below descriptor symbol
          simpleFrom fuel { simple with redirections := found :: simple.redirections }
      | token =>
          match token.isOperator "(", simple with
          | true, ⟨_, [], [name], []⟩ => definition below name
          | _, _ =>
              Parser.unread
              pure simple.command

def simple : Parser Command := do
  let reader ← get
  simpleFrom below (reader.rest.length + 2) { line := reader.line }

def conditional : Nat → Parser Command
  | 0 => throw .tooDeep
  | fuel + 1 => do
      let condition ← below.requiredList
      demandKeyword below "then"
      let consequence ← below.requiredList
      let token ← readWord below
      if token.isKeyword "elif" then
        pure (.conditional condition consequence (some (← conditional fuel)))
      else if token.isKeyword "else" then
        pure (.conditional condition consequence (some (← below.requiredList)))
      else
        Parser.unread
        pure (.conditional condition consequence none)

def loop (wanted : Bool) : Parser Command := do
  let condition ← below.requiredList
  demandKeyword below "do"
  pure (.loop wanted condition (← below.requiredList))

def wordsUntilEnd : Nat → List Word → Parser (List Word)
  | 0, found => pure found.reverse
  | fuel + 1, found => do
      match ← readWord below with
      | .word word _ => wordsUntilEnd fuel (word :: found)
      | .newline => pure found.reverse
      | token =>
          if token.isOperator ";" then pure found.reverse else Parser.unexpected

def allArguments : Word :=
  [.mark, .parameter ['@'] .plain false [], .mark]

def each (line : Nat) : Parser Command := do
  let bad {α : Type} : Parser α := Parser.fail "Bad for loop variable".toList
  let name ←
    match ← readWord below with
    | .word word false =>
        match word.plain? with
        | some text => if isName text then pure text else bad
        | none => bad
    | _ => bad
  Parser.attend everything
  let token ← readWord below
  let words ←
    if token.isKeyword "in" then wordsUntilEnd below ((← get).rest.length + 2) []
    else
      if !token.isOperator ";" then Parser.unread
      pure [allArguments]
  Parser.attend everything
  demandKeyword below "do"
  pure (.each line name words (← below.requiredList))

def patterns : Nat → Token → List Word → Parser (List Word)
  | 0, _, found => pure found.reverse
  | fuel + 1, token, found => do
      let word ←
        match token with
        | .word word _ => pure word
        | .keyword name => pure (name.map fun c => Part.char c false)
        | _ => pure []
      let next ← readWord below
      if next.isOperator "|" then patterns fuel (← readWord below) (word :: found)
      else if next.isOperator ")" then pure (word :: found).reverse
      else Parser.expected (operator ")")

def branches :
    Nat → List (List Word × Option Command) → Parser (List (List Word × Option Command))
  | 0, found => pure found.reverse
  | fuel + 1, found => do
      Parser.attend { newlines := true, keywords := true }
      let token ← readWord below
      if token.isKeyword "esac" then pure found.reverse
      else
        let first ← if token.isOperator "(" then readWord below else pure token
        let wanted ← patterns below ((← get).rest.length + 2) first []
        let body ← below.list .optional
        Parser.attend { newlines := true, keywords := true }
        let next ← readWord below
        if next.isKeyword "esac" then pure ((wanted, body) :: found).reverse
        else if next.isOperator ";;" then branches fuel ((wanted, body) :: found)
        else Parser.expected (operator ";;")

def select (line : Nat) : Parser Command := do
  let subject ←
    match ← readWord below with
    | .word word _ => pure word
    | _ => Parser.expected (.word [] false)
  Parser.attend everything
  demandKeyword below "in"
  pure (.select line subject (← branches below ((← get).rest.length + 2) []))

def compound? (line : Nat) (token : Token) : Parser (Option Command) := do
  let closed (body : Command) (name : String) : Parser (Option Command) := do
    demandKeyword below name
    pure (some body)
  match token with
  | .keyword name =>
      match String.ofList name with
      | "if" => closed (← conditional below ((← get).rest.length + 2)) "fi"
      | "while" => closed (← loop below true) "done"
      | "until" => closed (← loop below false) "done"
      | "for" => closed (← each below line) "done"
      | "case" => some <$> select below line
      | "\x7b" => closed (← below.requiredList) "\x7d"
      | _ => pure none
  | _ =>
      if token.isOperator "(" then
        let body ← below.requiredList
        if !(← readWord below).isOperator ")" then Parser.expected (operator ")")
        pure (some (.subshell line body []))
      else pure none

def withRedirections (line : Nat) (found : List Redirection) (command : Command) : Command :=
  match found, command with
  | [], _ => command
  | _, .subshell inside body _ => .subshell inside body found
  | _, _ => .redirected line command found

def anyCommand : Parser Command := do
  let line := (← get).line
  let token ← readWord below
  match token with
  | .word _ _ | .redirection _ _ =>
      Parser.unread
      simple below
  | _ =>
      match ← compound? below line token with
      | none => Parser.unexpected
      | some command =>
          Parser.attend { keywords := true, aliases := true }
          let found ← redirections below ((← get).rest.length + 2) []
          pure (withRedirections line found command)

def pipelineFrom : Nat → List Command → Parser (List Command)
  | 0, found => pure found.reverse
  | fuel + 1, found => do
      if (← readWord below).isOperator "|" then
        Parser.attend everything
        pipelineFrom fuel ((← anyCommand below) :: found)
      else
        Parser.unread
        pure found.reverse

def pipeline : Parser Command := do
  let negated := (← readWord below).isKeyword "!"
  if negated then Parser.attend { keywords := true, aliases := true } else Parser.unread
  let first ← anyCommand below
  let commands ← pipelineFrom below ((← get).rest.length + 2) [first]
  let command : Command :=
    match commands with
    | [single] => single
    | _ => .pipeline commands false
  pure (if negated then .negation command else command)

def connectedFrom : Nat → Command → Parser Command
  | 0, command => pure command
  | fuel + 1, command => do
      let token ← readWord below
      let next : Parser Command := do
        Parser.attend everything
        pipeline below
      if token.isOperator "&&" then connectedFrom fuel (.both command (← next))
      else if token.isOperator "||" then connectedFrom fuel (.either command (← next))
      else
        Parser.unread
        pure command

def connected : Parser Command := do
  let first ← pipeline below
  connectedFrom below ((← get).rest.length + 2) first

def inBackground (line : Nat) : Command → Command
  | .pipeline commands _ => .pipeline commands true
  | .redirected inside body found => .background inside body found
  | command => .background line command []

def inOrder : List Command → Option Command
  | [] => none
  | [command] => some command
  | found => some (.sequence found.reverse)

def listFrom (kind : ListKind) : Nat → List Command → Parser (Option Command)
  | 0, found => pure (inOrder found)
  | fuel + 1, found => do
      let finish (found : List Command) : Parser (Option Command) := do
        readDocuments below.inner
        modify fun reader => { reader with last := .endOfInput, repeats := true }
        pure (inOrder found)
      Parser.attend { newlines := kind ≠ .line, keywords := true, aliases := true }
      match ← readWord below with
      | .newline =>
          readDocuments below.inner
          pure (inOrder found)
      | .endOfInput => finish found
      | token =>
          Parser.unread
          let mayEnd : Bool := kind = .optional || (kind = .required && !found.isEmpty)
          if mayEnd && token.endsList then pure (inOrder found)
          else
            let command ← connected below
            let line := (← get).line
            let next ← readWord below
            let command := if next.isOperator "&" then inBackground line command else command
            match next with
            | .endOfInput => finish (command :: found)
            | .newline =>
                Parser.unread
                listFrom kind fuel (command :: found)
            | _ =>
                if next.isOperator "&" || next.isOperator ";" then
                  listFrom kind fuel (command :: found)
                else if kind = .line then Parser.unexpected
                else
                  Parser.unread
                  pure (inOrder (command :: found))

def commands (kind : ListKind) : Parser (Option Command) := do
  listFrom below kind ((← get).rest.length + 2) []

end

def levels : Nat → Grammar
  | 0 =>
      { token := fun _ => throw .tooDeep
        documents := throw .tooDeep
        list := fun _ => throw .tooDeep
        command := throw .tooDeep }
  | count + 1 =>
      let below := levels count
      { token := readToken below.inner
        documents := readDocuments below.inner
        list := commands below
        command := anyCommand below }

def depth : Nat := 1000

def standard : Grammar :=
  levels depth

end Grammar

/-- Reads the commands of one line, or of several if they go on.  There are none at the end. -/
def readLine : Parser (Option (Option Command)) := do
  modify fun reader =>
    { reader with repeats := false, attention := {}, announced := [], replacing := [] }
  let found ← Grammar.standard.list .line
  match found, (← get).last with
  | none, .endOfInput => pure none
  | _, _ => pure (some found)

end Script

end ApiSurface
