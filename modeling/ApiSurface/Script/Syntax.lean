import ApiSurface.Script.ByteText

namespace ApiSurface

namespace Script

inductive Change where
  | plain
  | size
  | default
  | alternative
  | assign
  | demand
  | dropStart (longest : Bool)
  | dropEnd (longest : Bool)
  | malformed
deriving DecidableEq, Repr

inductive Opening where
  | reading
  | writing
  /-- Like writing, even over files that are to be kept. -/
  | replacing
  | appending
  | both
deriving DecidableEq, Repr

mutual

inductive Part where
  | char (c : Char) (quoted : Bool)
  | mark
  | parameter (name : Text) (change : Change) (emptyCounts : Bool) (word : List Part)
  | output (body : Option Command)
  | arithmetic (expression : List Part)

/-- What a command does to a descriptor.  Documents are kept in a table of their own. -/
inductive Redirection where
  | file (descriptor : Nat) (opening : Opening) (target : List Part)
  | duplicate (descriptor : Nat) (source : List Part)
  | document (descriptor : Nat) (index : Nat)

inductive Command where
  | simple (line : Nat) (assignments words : List (List Part)) (redirections : List Redirection)
  | redirected (line : Nat) (body : Command) (redirections : List Redirection)
  | subshell (line : Nat) (body : Command) (redirections : List Redirection)
  | background (line : Nat) (body : Command) (redirections : List Redirection)
  | pipeline (commands : List Command) (background : Bool)
  | negation (body : Command)
  | sequence (commands : List Command)
  | both (first second : Command)
  | either (first second : Command)
  | conditional (condition consequence : Command) (alternative : Option Command)
  | loop (wanted : Bool) (condition body : Command)
  | each (line : Nat) (name : Text) (words : List (List Part)) (body : Command)
  | select (line : Nat) (subject : List Part)
      (branches : List (List (List Part) × Option Command))
  | define (line : Nat) (name : Text) (body : Command)

end

abbrev Word := List Part

structure Document where
  body : Word
  expands : Bool

def Word.plain? : Word → Option Text
  | [] => some []
  | .char c false :: rest => (plain? rest).map (c :: ·)
  | _ => none

def Word.unquoted : Word → Text
  | [] => []
  | .char c _ :: rest => c :: unquoted rest
  | _ :: rest => unquoted rest

def Word.isAssignment (word : Word) : Bool :=
  let isNamed : Part → Bool
    | .char c false => isNamePart c
    | _ => false
  match word, word.dropWhile isNamed with
  | .char c false :: _, .char '=' false :: _ => isNameStart c
  | _, _ => false

def specialCommands : List Text :=
  [".", ":", "break", "continue", "eval", "exec", "exit", "export", "local", "readonly", "return",
    "set", "shift", "times", "trap", "unset"].map String.toList

inductive Token where
  | endOfInput
  | newline
  | operator (symbol : Text)
  | redirection (descriptor : Option Nat) (symbol : Text)
  | word (word : Word) (quoted : Bool)
  | keyword (name : Text)

def keywords : List Text :=
  ["!", "case", "do", "done", "elif", "else", "esac", "fi", "for", "if", "in", "then", "until",
    "while", "\x7b", "\x7d"].map String.toList

namespace Token

def isOperator (token : Token) (symbol : String) : Bool :=
  match token with
  | .operator found => found = symbol.toList
  | _ => false

def isKeyword (token : Token) (name : String) : Bool :=
  match token with
  | .keyword found => found = name.toList
  | _ => false

def endsList (token : Token) : Bool :=
  match token with
  | .endOfInput => true
  | .operator symbol => symbol = ")".toList || symbol = ";;".toList
  | .keyword name =>
      (["do", "done", "elif", "else", "esac", "fi", "then", "\x7d"].map String.toList).contains
        name
  | _ => false

def shown : Token → Text
  | .endOfInput => "end of file".toList
  | .newline => "newline".toList
  | .operator symbol => '"' :: symbol ++ ['"']
  | .redirection _ _ => "redirection".toList
  | .word _ _ => "word".toList
  | .keyword name => '"' :: name ++ ['"']

end Token

end Script

end ApiSurface
