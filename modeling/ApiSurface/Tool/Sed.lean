import ApiSurface.Tool.Regex
import ApiSurface.Tool.Basic

/-! The program that edits a stream of lines as a list of instructions tells. -/

namespace ApiSurface

namespace Tool

open Host Script

namespace Sed

/-- Lines that an instruction is for.  No expression stands for the latest one that was used. -/
inductive Address where
  | number (line : Nat)
  | step (first step : Nat)
  | last
  | fitting (regex : Option Regex.Compiled)
  | behind (count : Nat)
  | multiple (step : Nat)

inductive Piece where
  | text (text : Text)
  | group (index : Nat)

structure Substitution where
  regex : Option Regex.Compiled
  pieces : List Piece
  isGlobal : Bool := false
  prints : Bool := false
  number : Nat := 1

inductive Action where
  | block
  | close
  | label (name : Text)
  | branch (name : Text)
  | branchIf (name : Text)
  | branchUnless (name : Text)
  | substitute (substitution : Substitution)
  | replaceCharacters (pairs : List (Char × Char))
  | append (text : Text)
  | insert (text : Text)
  | change (text : Text)
  | quit (status : Nat) (prints : Bool)
  | read (path : Text)
  | simple (letter : Char)

structure Instruction where
  addresses : List Address
  negated : Bool
  action : Action

structure Source where
  rest : Text
  taken : Nat := 0
  depth : Nat := 0
  extended : Bool

abbrev Reading := EStateM Text Source

def fault {α : Type} (message : Text) : Reading α := do
  throw ("-e expression #1, char ".toList ++ showNat (← get).taken ++ ": ".toList ++ message)

def peek : Reading (Option Char) := do
  pure (← get).rest.head?

def advance (count : Nat) : Reading Unit :=
  modify fun source =>
    { source with rest := source.rest.drop count, taken := source.taken + count }

def takeWhile (accepts : Char → Bool) : Reading Text := do
  let found := (← get).rest.takeWhile accepts
  advance found.length
  pure found

def delimited (delimiter : Char) : Text → Option (Text × Text)
  | [] => none
  | '\\' :: c :: rest =>
      if delimiter = '\\' then some ([], c :: rest)
      else
        let kept : Text := if c = delimiter then [c] else ['\\', c]
        (delimited delimiter rest).map fun (found, left) => (kept ++ found, left)
  | c :: rest =>
      if c = delimiter then some ([], rest)
      else (delimited delimiter rest).map fun (found, left) => (c :: found, left)

def takeDelimited (delimiter : Char) (message : String) : Reading Text := do
  let source ← get
  match delimited delimiter source.rest with
  | some (found, rest) =>
      advance (source.rest.length - rest.length)
      pure found
  | none =>
      advance source.rest.length
      fault message.toList

def compiled (text : Text) (foldsCase : Bool) : Reading (Option Regex.Compiled) := do
  if text.isEmpty then return none
  match Regex.compile (← get).extended foldsCase text with
  | .ok regex => pure (some regex)
  | .error message => fault message

def takeNumber : Reading Nat := do
  pure (valueIn 10 (← takeWhile Char.isDigit))

def regexAddress (delimiter : Char) : Reading Address := do
  let text ← takeDelimited delimiter "unterminated address regex"
  let flags ← takeWhile fun c => c = 'I' || c = 'M'
  return .fitting (← compiled text (flags.contains 'I'))

def address? : Reading (Option Address) := do
  match (← get).rest with
  | '$' :: _ =>
      advance 1
      pure (some .last)
  | '/' :: _ =>
      advance 1
      return some (← regexAddress '/')
  | '\\' :: delimiter :: _ =>
      advance 2
      return some (← regexAddress delimiter)
  | c :: _ =>
      if !c.isDigit then return none
      let first ← takeNumber
      if (← peek) = some '~' then
        advance 1
        return some (.step first (← takeNumber))
      return some (.number first)
  | [] => pure none

def secondAddress : Reading Address := do
  match ← peek with
  | some '+' =>
      advance 1
      return .behind (← takeNumber)
  | some '~' =>
      advance 1
      return .multiple (← takeNumber)
  | _ =>
      match ← address? with
      | some found => pure found
      | none => fault "unexpected `,'".toList

def isBlank (c : Char) : Bool :=
  c = ' ' || c = '\t'

def addresses : Reading (List Address) := do
  match ← address? with
  | none => pure []
  | some first =>
      let _ ← takeWhile isBlank
      if (← peek) = some ',' then
        advance 1
        let _ ← takeWhile isBlank
        return [first, ← secondAddress]
      return [first]

def endInstruction : Reading Unit := do
  let _ ← takeWhile isBlank
  match ← peek with
  | none => pure ()
  | some c =>
      if c = '\n' || c = ';' then advance 1
      else if c = '\x7d' || c = '#' then pure ()
      else
        advance 1
        fault "extra characters after command".toList

def pieces : Text → List Piece
  | [] => []
  | '\\' :: c :: rest =>
      let piece : Piece :=
        if c.isDigit then .group (digitValue c)
        else if c = 'n' then .text ['\n']
        else if c = 't' then .text ['\t']
        else .text [c]
      piece :: pieces rest
  | '&' :: rest => .group 0 :: pieces rest
  | c :: rest => .text [c] :: pieces rest

def substitution : Reading Substitution := do
  let unfinished := "unterminated `s' command"
  match ← peek with
  | none => fault unfinished.toList
  | some delimiter =>
      advance 1
      let pattern ← takeDelimited delimiter unfinished
      let replacement ← takeDelimited delimiter unfinished
      let flags ← takeWhile fun c => c.isDigit || "gpiI".toList.contains c
      match ← peek with
      | none => pure ()
      | some c =>
          if !(isBlank c || "\n;#\x7d".toList.contains c) then
            advance 1
            fault "unknown option to `s'".toList
      let digits := flags.filter Char.isDigit
      let regex ← compiled pattern (flags.contains 'i' || flags.contains 'I')
      return {
        regex
        pieces := pieces replacement
        isGlobal := flags.contains 'g'
        prints := flags.contains 'p'
        number := if digits.isEmpty then 1 else valueIn 10 digits }

def plainCharacters : Text → Text
  | [] => []
  | '\\' :: 'n' :: rest => '\n' :: plainCharacters rest
  | '\\' :: c :: rest => c :: plainCharacters rest
  | c :: rest => c :: plainCharacters rest

def replacements : Reading (List (Char × Char)) := do
  let unfinished := "unterminated `y' command"
  match ← peek with
  | none => fault unfinished.toList
  | some delimiter =>
      advance 1
      let wanted := plainCharacters (← takeDelimited delimiter unfinished)
      let given := plainCharacters (← takeDelimited delimiter unfinished)
      if wanted.length ≠ given.length then
        fault "strings for `y' command are different lengths".toList
      pure (wanted.zip given)

def continuedLine : Text → Text × Text
  | [] => ([], [])
  | '\n' :: rest => ([], rest)
  | '\\' :: c :: rest =>
      let (line, others) := continuedLine rest
      (c :: line, others)
  | c :: rest =>
      let (line, others) := continuedLine rest
      (c :: line, others)

def givenText : Reading Text := do
  let _ ← takeWhile isBlank
  if "\\\n".toList.isPrefixOf (← get).rest then advance 2
  else if (← peek) = some '\\' then
    advance 1
    let _ ← takeWhile isBlank
  else if (← peek) = none then fault "expected \\ after `a', `c' or `i'".toList
  let rest := (← get).rest
  let (line, others) := continuedLine rest
  advance (rest.length - others.length)
  pure (line ++ ['\n'])

def labelName : Reading Text := do
  let _ ← takeWhile isBlank
  let name ← takeWhile fun c => c ≠ '\n' && c ≠ ';' && c ≠ '\x7d'
  pure (name.reverse.dropWhile isBlank).reverse

def lineRest : Reading Text := do
  let _ ← takeWhile isBlank
  takeWhile (· ≠ '\n')

def action (letter : Char) : Reading Action := do
  match letter with
  | '\x7b' =>
      modify fun source => { source with depth := source.depth + 1 }
      pure .block
  | '\x7d' =>
      let source ← get
      if source.depth = 0 then fault "unexpected `\x7d'".toList
      set { source with depth := source.depth - 1 }
      endInstruction
      pure .close
  | ':' =>
      let _ ← takeWhile isBlank
      let name ← takeWhile fun c => !isSpace c && c ≠ ';'
      if name.isEmpty then fault "\":\" lacks a label".toList
      pure (.label name)
  | 'b' => return .branch (← labelName)
  | 't' => return .branchIf (← labelName)
  | 'T' => return .branchUnless (← labelName)
  | 's' =>
      let found ← substitution
      endInstruction
      pure (.substitute found)
  | 'y' =>
      let pairs ← replacements
      endInstruction
      pure (.replaceCharacters pairs)
  | 'a' => return .append (← givenText)
  | 'i' => return .insert (← givenText)
  | 'c' => return .change (← givenText)
  | 'r' => return .read (← lineRest)
  | _ =>
      if letter = 'q' || letter = 'Q' then
        let _ ← takeWhile isBlank
        let status ← takeNumber
        endInstruction
        pure (.quit (status % 256) (letter = 'q'))
      else if "=dDgGhHlnNpPxz".toList.contains letter then
        endInstruction
        pure (.simple letter)
      else fault ("unknown command: `".toList ++ [letter, '\''])

def instructions : Nat → Reading (List Instruction)
  | 0 => pure []
  | fuel + 1 => do
      let _ ← takeWhile fun c => isSpace c || c = ';'
      match ← peek with
      | none =>
          if (← get).depth ≠ 0 then fault "unmatched `\x7b'".toList
          pure []
      | some '#' =>
          let _ ← takeWhile (· ≠ '\n')
          instructions fuel
      | some _ =>
          let found ← addresses
          let _ ← takeWhile isBlank
          let marks ← takeWhile fun c => c = '!' || isBlank c
          match ← peek with
          | none => fault "missing command".toList
          | some letter =>
              if letter = '\n' then fault "missing command".toList
              advance 1
              let read ← action letter
              return ⟨found, marks.contains '!', read⟩ :: (← instructions fuel)

def program (extended : Bool) (text : Text) : Except Text (List Instruction) :=
  match instructions (text.length + 1) { rest := text, extended } with
  | .ok found _ => .ok found
  | .error message _ => .error message

structure Editor where
  pattern : Text := []
  hold : Text := []
  coming : List Text
  ended : Bool
  number : Nat := 0
  /-- The instructions whose range of lines is open, with the line that closes it if it is known. -/
  ranges : List (Nat × Option Nat) := []
  replaced : Bool := false
  latest : Option Regex.Compiled := none
  behind : List Action := []
  printed : List Text := []
  files : List (Text × Text) := []
  quit : Option Nat := none

def Editor.isLast (editor : Editor) : Bool :=
  editor.coming.isEmpty

def Editor.print (editor : Editor) (text : Text) : Editor :=
  { editor with printed := text :: editor.printed }

/-- Prints the pattern as a line, which has no end if it stands for a last line without one. -/
def Editor.printPattern (editor : Editor) : Editor :=
  if editor.isLast && !editor.ended then
    let before : List Text :=
      match editor.printed with
      | text :: _ => if text.getLast? = some '\n' then [] else [['\n']]
      | [] => []
    { editor with printed := editor.pattern :: before ++ editor.printed }
  else editor.print (editor.pattern ++ ['\n'])

def Editor.find (editor : Editor) (regex? : Option Regex.Compiled) (position : Nat) :
    Option (Nat × Regex.Match) × Editor :=
  match regex?.or editor.latest with
  | some regex => (regex.find? editor.pattern position, { editor with latest := some regex })
  | none => (none, editor)

def Editor.fits (editor : Editor) : Address → Bool × Editor
  | .number line => (editor.number = line, editor)
  | .step first step =>
      (if step = 0 then editor.number = first
        else first ≤ editor.number && (editor.number - first) % step = 0, editor)
  | .last => (editor.isLast, editor)
  | .fitting regex =>
      let (found, changed) := editor.find regex 0
      (found.isSome, changed)
  | .behind _ => (false, editor)
  | .multiple _ => (false, editor)

def Editor.openRange (editor : Editor) (index : Nat) (ending : Option Nat) : Editor :=
  { editor with ranges := (index, ending) :: editor.ranges }

def Editor.closeRange (editor : Editor) (index : Nat) : Editor :=
  { editor with ranges := editor.ranges.filter fun range => range.1 ≠ index }

def Editor.inRange (editor : Editor) (index : Nat) (first second : Address) : Bool × Editor :=
  match editor.ranges.lookup index with
  | some (some ending) =>
      (editor.number ≤ ending,
        if ending ≤ editor.number then editor.closeRange index else editor)
  | some none =>
      let (fits, changed) := editor.fits second
      (true, if fits then changed.closeRange index else changed)
  | none =>
      let early : Bool :=
        match first with
        | .number 0 => editor.number = 1
        | _ => false
      let (fits, changed) := if early then (true, editor) else editor.fits first
      if !fits then (false, changed)
      else
        let lasting (ending : Nat) : Editor :=
          if ending ≤ editor.number then changed else changed.openRange index (some ending)
        match second with
        | .number line => (true, lasting line)
        | .behind count => (true, lasting (editor.number + count))
        | .multiple step =>
            (true, lasting (if step = 0 then 0 else (editor.number + step - 1) / step * step))
        | .last => (true, if editor.isLast then changed else changed.openRange index none)
        | _ =>
            if early then
              let (closes, after) := changed.fits second
              (true, if closes then after else after.openRange index none)
            else (true, changed.openRange index none)

def Editor.applies (editor : Editor) (index : Nat) (instruction : Instruction) : Bool × Editor :=
  let (selected, changed) :=
    match instruction.addresses with
    | [] => (true, editor)
    | [address] => editor.fits address
    | first :: second :: _ => editor.inRange index first second
  (selected != instruction.negated, changed)

def replacementOf (pieces : List Piece) (pattern : Text) (start : Nat) (found : Regex.Match) :
    Text :=
  pieces.flatMap fun piece =>
    match piece with
    | .text text => text
    | .group 0 => (pattern.take found.ending).drop start
    | .group index => found.group pattern index

def substituted (regex : Regex.Compiled) (substitution : Substitution) (pattern : Text) :
    Nat → (position count : Nat) → (afterMatch : Bool) → Text × Bool
  | 0, position, _, _ => (pattern.drop position, false)
  | fuel + 1, position, count, afterMatch =>
      match regex.find? pattern position with
      | none => (pattern.drop position, false)
      | some (start, found) =>
          let between := (pattern.take start).drop position
          let isEmpty : Bool := found.ending = start
          let keepOne : Text := (pattern.drop start).take 1
          if isEmpty && start = position && afterMatch then
            if start < pattern.length then
              let (rest, replaced) :=
                substituted regex substitution pattern fuel (start + 1) count false
              (keepOne ++ rest, replaced)
            else ([], false)
          else
            let number := count + 1
            let wanted : Bool :=
              number = substitution.number
                || (substitution.isGlobal && substitution.number ≤ number)
            let shown : Text :=
              if wanted then replacementOf substitution.pieces pattern start found
              else (pattern.take found.ending).drop start
            if wanted && !substitution.isGlobal then
              (between ++ shown ++ pattern.drop found.ending, true)
            else if isEmpty then
              if start < pattern.length then
                let (rest, replaced) :=
                  substituted regex substitution pattern fuel (start + 1) number false
                (between ++ shown ++ keepOne ++ rest, wanted || replaced)
              else (between ++ shown, wanted)
            else
              let (rest, replaced) :=
                substituted regex substitution pattern fuel found.ending number true
              (between ++ shown ++ rest, wanted || replaced)

def Editor.substitute (editor : Editor) (substitution : Substitution) : Editor :=
  match substitution.regex.or editor.latest with
  | none => editor
  | some regex =>
      let (text, replaced) :=
        substituted regex substitution editor.pattern (2 * editor.pattern.length + 4) 0 0 false
      let changed := { editor with latest := some regex }
      if !replaced then changed
      else
        let done := { changed with pattern := text, replaced := true }
        if substitution.prints then done.printPattern else done

def unambiguous (text : Text) : Text :=
  text.flatMap fun c =>
    match c with
    | '\\' => "\\\\".toList
    | '\n' => "\\n".toList
    | '\t' => "\\t".toList
    | _ =>
        if 32 ≤ c.toNat && c.toNat < 127 then [c]
        else
          '\\' :: [c.toNat / 64 % 8, c.toNat / 8 % 8, c.toNat % 8].map fun digit =>
            Char.ofNat (48 + digit)

def Editor.printBehind (editor : Editor) : Editor :=
  let flushed := editor.behind.foldl
    (fun editor action =>
      match action with
      | .append text => editor.print text
      | .read path => editor.print ((editor.files.lookup path).getD [])
      | _ => editor)
    editor
  { flushed with behind := [] }

inductive Course where
  | next
  | jump (index : Nat)
  | endCycle (prints : Bool)
  | again

def firstLine (pattern : Text) : Text × Option Text :=
  match pattern.cutFirst '\n' with
  | some (line, rest) => (line, some rest)
  | none => (pattern, none)

/-- The number of the next instruction behind the block that begins before an index. -/
def behindBlock : (depth index : Nat) → List Instruction → Nat
  | _, index, [] => index
  | depth, index, instruction :: rest =>
      match instruction.action with
      | .block => behindBlock (depth + 1) (index + 1) rest
      | .close => if depth = 0 then index + 1 else behindBlock (depth - 1) (index + 1) rest
      | _ => behindBlock depth (index + 1) rest

def target (all : Array Instruction) (name : Text) : Nat :=
  if name.isEmpty then all.size
  else
    (all.findIdx? fun instruction =>
      match instruction.action with
      | .label other => name = other
      | _ => false).getD all.size

def Editor.simple (editor : Editor) (silent : Bool) (letter : Char) : Course × Editor :=
  match letter with
  | '=' => (.next, editor.print (showNat editor.number ++ ['\n']))
  | 'd' => (.endCycle false, editor)
  | 'D' =>
      match firstLine editor.pattern with
      | (_, some rest) => (.again, { editor with pattern := rest })
      | (_, none) => (.endCycle false, editor)
  | 'g' => (.next, { editor with pattern := editor.hold })
  | 'G' => (.next, { editor with pattern := editor.pattern ++ '\n' :: editor.hold })
  | 'h' => (.next, { editor with hold := editor.pattern })
  | 'H' => (.next, { editor with hold := editor.hold ++ '\n' :: editor.pattern })
  | 'x' => (.next, { editor with pattern := editor.hold, hold := editor.pattern })
  | 'z' => (.next, { editor with pattern := [] })
  | 'l' => (.next, editor.print (unambiguous editor.pattern ++ "$\n".toList))
  | 'p' => (.next, editor.printPattern)
  | 'P' => (.next, editor.print ((firstLine editor.pattern).1 ++ ['\n']))
  | 'n' =>
      match editor.coming with
      | [] => (.endCycle true, { editor with quit := some 0 })
      | line :: rest =>
          let shown := (if silent then editor else editor.printPattern).printBehind
          (.next, { shown with pattern := line, coming := rest, number := editor.number + 1 })
  | 'N' =>
      match editor.coming with
      | [] => (.endCycle true, { editor with quit := some 0 })
      | line :: rest =>
          let shown := editor.printBehind
          (.next, { shown with
            pattern := editor.pattern ++ '\n' :: line
            coming := rest
            number := editor.number + 1 })
  | _ => (.next, editor)

def Editor.perform (editor : Editor) (silent : Bool) (all : Array Instruction) (index : Nat)
    (instruction : Instruction) : Course × Editor :=
  match instruction.action with
  | .block => (.next, editor)
  | .close => (.next, editor)
  | .label _ => (.next, editor)
  | .branch name => (.jump (target all name), editor)
  | .branchIf name =>
      if editor.replaced then (.jump (target all name), { editor with replaced := false })
      else (.next, editor)
  | .branchUnless name =>
      if editor.replaced then (.next, { editor with replaced := false })
      else (.jump (target all name), editor)
  | .substitute substitution => (.next, editor.substitute substitution)
  | .replaceCharacters pairs =>
      (.next, { editor with
        pattern := editor.pattern.map fun c => (pairs.lookup c).getD c })
  | .append text => (.next, { editor with behind := editor.behind ++ [.append text] })
  | .read path => (.next, { editor with behind := editor.behind ++ [.read path] })
  | .insert text => (.next, editor.print text)
  | .change text =>
      let isRange : Bool := instruction.addresses.length = 2 && !instruction.negated
      let open? := isRange && (editor.ranges.lookup index).isSome && !editor.isLast
      (.endCycle false, if open? then editor else editor.print text)
  | .quit status prints => (.endCycle prints, { editor with quit := some status })
  | .simple letter => editor.simple silent letter

def Editor.cycle (silent : Bool) (all : Array Instruction) :
    Nat → Editor → (index : Nat) → Course × Editor
  | 0, editor, _ => (.endCycle true, { editor with quit := some 4 })
  | fuel + 1, editor, index =>
      match all[index]? with
      | none => (.endCycle true, editor)
      | some instruction =>
          let (applies, checked) := editor.applies index instruction
          if !applies then
            match instruction.action with
            | .block =>
                let rest := all.toList.drop (index + 1)
                cycle silent all fuel checked (behindBlock 0 (index + 1) rest)
            | _ => cycle silent all fuel checked (index + 1)
          else
            match checked.perform silent all index instruction with
            | (.next, editor) => cycle silent all fuel editor (index + 1)
            | (.jump target, editor) => cycle silent all fuel editor target
            | result => result

def Editor.run (silent : Bool) (all : Array Instruction) :
    Nat → (keepsPattern : Bool) → Editor → Editor
  | 0, _, editor => editor
  | fuel + 1, keepsPattern, editor =>
      let work (editor : Editor) : Editor :=
        match cycle silent all 200000 { editor with replaced := false } 0 with
        | (.again, editor) => run silent all fuel true editor.printBehind
        | (course, editor) =>
            let prints : Bool :=
              match course with
              | .endCycle prints => prints
              | _ => true
            let shown := (if prints && !silent then editor.printPattern else editor).printBehind
            if shown.quit.isSome then shown else run silent all fuel false shown
      if keepsPattern then work editor
      else
        match editor.coming with
        | [] => editor
        | line :: rest =>
            work { editor with pattern := line, coming := rest, number := editor.number + 1 }

end Sed

def Sed.pathsRead (all : List Sed.Instruction) : List Text :=
  all.filterMap fun instruction =>
    match instruction.action with
    | .read path => some path
    | _ => none

def Sed.edit (invocation : Invocation) (given : Given) (all : List Sed.Instruction)
    (files : List Text) : Act Ending := do
  let (found, sound) ← readOperands invocation files
  let texts := found.map Prod.snd
  let lines := texts.flatMap fun text => (linesOf text).1
  let ended := (texts.getLast?.map fun text => (linesOf text).2).getD true
  let extras ← (pathsRead all).mapM fun path => do
    match ← invocation.readFile path with
    | .ok text => pure (path, text)
    | .error _ => pure (path, [])
  let editor : Sed.Editor := { coming := lines, ended, files := extras }
  let silent := given.has 'n'
  let done := editor.run silent all.toArray 2000000 false
  let status := (done.quit.getD 0).max (if sound then 0 else 2)
  finish invocation status (Host.joined done.printed)

def sed : Utility := fun _ invocation =>
  let known : List Known := [{ letter := 'n', long := "quiet" },
    { letter := 'n', long := "silent" }, { letter := 's', long := "separate" },
    { letter := 'e', long := "expression", takesValue := true },
    { letter := 'f', long := "file", takesValue := true },
    { letter := 'E', long := "regexp-extended" }, { letter := 'r' }, { letter := 'u' }]
  withArguments known invocation 1 fun given => do
    let scripts ← given.options.filterMapM fun (letter, value) => do
      if letter = 'e' then pure (some value)
      else if letter = 'f' then
        match ← readOperand invocation value with
        | .ok text => pure (some text)
        | .error _ => pure (some [])
      else pure none
    let (text?, files) : Option Text × List Text :=
      if scripts.isEmpty then (given.operands.head?, given.operands.drop 1)
      else (some (List.intercalate ['\n'] scripts), given.operands)
    match text? with
    | none =>
        let _ ← invocation.print 2
          "Usage: sed [OPTION]... \x7bscript-only-if-no-other-script\x7d [input-file]...\n".toList
        pure (.exited 1)
    | some text =>
        match Sed.program (given.has 'E' || given.has 'r') text with
        | .error message =>
            invocation.complain message
            pure (.exited 1)
        | .ok all => Sed.edit invocation given all files

end Tool

end ApiSurface
