import ApiSurface.Tool.Regex
import ApiSurface.Tool.Basic

namespace ApiSurface

namespace Tool

open Host Script

namespace Grep

def known : List Known :=
  [{ letter := 'E', long := "extended-regexp" }, { letter := 'F', long := "fixed-strings" },
    { letter := 'G', long := "basic-regexp" },
    { letter := 'e', long := "regexp", takesValue := true },
    { letter := 'f', long := "file", takesValue := true },
    { letter := 'm', long := "max-count", takesValue := true },
    { letter := 'i', long := "ignore-case" }, { letter := 'y' },
    { letter := 'v', long := "invert-match" }, { letter := 'w', long := "word-regexp" },
    { letter := 'x', long := "line-regexp" }, { letter := 'c', long := "count" },
    { letter := 'l', long := "files-with-matches" },
    { letter := 'L', long := "files-without-match" }, { letter := 'q', long := "quiet" },
    { letter := 's', long := "no-messages" }, { letter := 'n', long := "line-number" },
    { letter := 'H', long := "with-filename" }, { letter := 'h', long := "no-filename" },
    { letter := 'o', long := "only-matching" }, { letter := 'a', long := "text" }]

def expression (given : Given) (patterns : List Text) : Except Text Regex.Compiled := do
  let foldsCase := given.has 'i' || given.has 'y'
  let kind := (given.options.filter fun (letter, _) => "EFG".toList.contains letter).getLast?
  let compile : Text → Except Text Regex.Compiled :=
    if kind.map Prod.fst = some 'F' then fun text => .ok (Regex.literal foldsCase [text])
    else Regex.compile (kind.map Prod.fst = some 'E') foldsCase
  let whole := Regex.Compiled.union (← patterns.mapM compile)
  if given.has 'x' then return whole.between .start .finish
  else if given.has 'w' then return whole.between .noWordBefore .noWordBehind
  else return whole

def matchesIn (regex : Regex.Compiled) (line : Text) : Nat → Nat → List Text
  | 0, _ => []
  | fuel + 1, position =>
      match regex.find? line position with
      | none => []
      | some (start, found) =>
          if found.ending ≤ start then
            if start < line.length then matchesIn regex line fuel (start + 1) else []
          else (line.take found.ending).drop start :: matchesIn regex line fuel found.ending

def report (given : Given) (regex : Regex.Compiled) (label name text : Text)
    (selected : List (Nat × Text)) : Text :=
  let joint (mark : Char) : Text := if label.isEmpty then [] else label ++ [mark]
  if given.has 'q' then []
  else if given.has 'l' then (if selected.isEmpty then [] else name ++ ['\n'])
  else if given.has 'L' then (if selected.isEmpty then name ++ ['\n'] else [])
  else if given.has 'c' then joint ':' ++ showNat selected.length ++ ['\n']
  else if text.contains (Char.ofNat 0) && !given.has 'a' then
    if selected.isEmpty then [] else "grep: ".toList ++ name ++ ": binary file matches\n".toList
  else
    selected.flatMap fun (number, line) =>
      let shown : List Text :=
        if !given.has 'o' then [line]
        else if given.has 'v' then []
        else matchesIn regex line (2 * line.length + 2) 0
      shown.flatMap fun part =>
        joint ':' ++ (if given.has 'n' then showNat number ++ [':'] else []) ++ part ++ ['\n']

def usage : Text :=
  ("Usage: grep [OPTION]... PATTERNS [FILE]...\n"
    ++ "Try 'grep --help' for more information.\n").toList

def patterns (invocation : Invocation) (given : Given) :
    Act (Except Text (List Text × List Text)) := do
  let direct := (given.values 'e').flatMap fun value => value.splitOn '\n'
  let mut all := direct
  for path in given.values 'f' do
    match ← readOperand invocation path with
    | .ok text => all := all ++ (linesOf text).1
    | .error refusal => return .error (path ++ ": ".toList ++ refusal.message)
  if given.has 'e' || given.has 'f' then return .ok (all, given.operands)
  match given.operands with
  | pattern :: files => return .ok (pattern.splitOn '\n', files)
  | [] => return .error []

/-- Goes through the operands.  Tells whether a line was selected and whether all could be read. -/
def searchFiles (invocation : Invocation) (given : Given) (regex : Regex.Compiled)
    (files : List Text) : Act (Bool × Bool) := do
  let most := (given.value? 'm').map (valueIn 10)
  let labelled := given.has 'H' || (1 < files.length && !given.has 'h')
  let named := if files.isEmpty then [['-']] else files
  named.foldlM
    (fun (hit, sound) operand => do
      match ← readOperand invocation operand with
      | .error refusal =>
          if !given.has 's' then invocation.complain (operand ++ ": ".toList ++ refusal.message)
          pure (hit, false)
      | .ok text =>
          let name := if operand = ['-'] then "(standard input)".toList else operand
          let lines := (linesOf text).1
          let numbered := (List.range lines.length).map (· + 1) |>.zip lines
          let fitting := numbered.filter fun (_, line) =>
            (regex.find? line 0).isSome != given.has 'v'
          let selected := (most.map fun count => fitting.take count).getD fitting
          let label := if labelled then name else []
          let _ ← invocation.print 1 (report given regex label name text selected)
          pure (hit || !selected.isEmpty, sound))
    (false, true)

end Grep

def grep : Utility := fun _ invocation =>
  withArguments Grep.known invocation 2 fun given => do
    match ← Grep.patterns invocation given with
    | .error [] =>
        let _ ← invocation.print 2 Grep.usage
        pure (.exited 2)
    | .error message =>
        invocation.complain message
        pure (.exited 2)
    | .ok (patterns, files) =>
        match Grep.expression given patterns with
        | .error message =>
            invocation.complain message
            pure (.exited 2)
        | .ok regex =>
            let (hit, sound) ← Grep.searchFiles invocation given regex files
            let silent := given.has 'q' && hit
            pure (.exited (if !sound && !silent then 2 else if hit then 0 else 1))

end Tool

end ApiSurface
