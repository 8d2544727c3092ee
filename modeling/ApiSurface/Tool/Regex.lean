import ApiSurface.Script.Pattern

/-!
Regular expressions on lines, in the basic and in the extended way to write them.  A match begins as
far left as possible and is the longest one from there.
-/

namespace ApiSurface

namespace Tool

open Script

namespace Regex

inductive Node where
  | character (c : Char)
  | any
  | oneOf (negated : Bool) (items : List Item)
  | start
  | finish
  | wordStart
  | wordEnd
  | wordEdge
  | noWordEdge
  | noWordBefore
  | noWordBehind
  | group (index : Nat) (branches : List (List Node))
  | earlier (index : Nat)
  | repeated (body : Node) (least : Nat) (most : Option Nat)

structure Compiled where
  branches : List (List Node)
  foldsCase : Bool := false
  /-- Whether there are choices between branches, so that all of them have to be tried. -/
  hasChoice : Bool := false
  size : Nat := 0

structure State where
  rest : Text
  groups : Nat := 0
  hasChoice : Bool := false

abbrev Compiler := EStateM Text State

def complain {α : Type} (message : String) : Compiler α :=
  throw message.toList

def isWordPart (c : Char) : Bool :=
  c.isAlphanum || c = '_'

def wordItems : List Item :=
  [.kind "alnum".toList, .range '_'.toNat '_'.toNat]

def items (first : Bool) : Nat → Compiler (List Item)
  | 0 => complain "Unmatched [, [^, [:, [., or [="
  | fuel + 1 => do
      let state ← get
      match state.rest with
      | [] => complain "Unmatched [, [^, [:, [., or [="
      | c :: rest =>
          if c = ']' && !first then
            set { state with rest }
            pure []
          else
            let named? : Option (Text × Text) :=
              match c, rest with
              | '[', ':' :: after =>
                  let name := after.takeWhile (· ≠ ':')
                  if ":]".toList.isPrefixOf (after.drop name.length) then
                    some (name, after.drop (name.length + 2))
                  else none
              | _, _ => none
            match named? with
            | some (name, after) =>
                if !kindNames.contains name then complain "Invalid character class name"
                set { state with rest := after }
                return .kind name :: (← items false fuel)
            | none =>
                match rest with
                | '-' :: high :: after =>
                    if high = ']' then
                      set { state with rest }
                      return .range (rank c) (rank c) :: (← items false fuel)
                    else
                      if high.toNat < c.toNat then complain "Invalid range end"
                      set { state with rest := after }
                      return .range (rank c) (rank high) :: (← items false fuel)
                | _ =>
                    set { state with rest }
                    return .range (rank c) (rank c) :: (← items false fuel)

def bracket : Compiler Node := do
  let state ← get
  let (negated, rest) :=
    match state.rest with
    | '^' :: rest => (true, rest)
    | rest => (false, rest)
  set { state with rest }
  pure (.oneOf negated (← items true (rest.length + 1)))

def bounds (extended : Bool) : Compiler (Nat × Option Nat) := do
  let state ← get
  let low := state.rest.takeWhile Char.isDigit
  let after := state.rest.drop low.length
  let (high, after) : Option (Option Text) × Text :=
    match after with
    | ',' :: rest =>
        let digits := rest.takeWhile Char.isDigit
        (some (if digits.isEmpty then none else some digits), rest.drop digits.length)
    | _ => (none, after)
  let closing : Text := if extended then ['\x7d'] else ['\\', '\x7d']
  if !closing.isPrefixOf after then complain "Unmatched \x7b"
  set { state with rest := after.drop closing.length }
  let least := valueIn 10 low
  match high with
  | none => pure (least, some least)
  | some none => pure (least, none)
  | some (some digits) =>
      if valueIn 10 digits < least then complain "Invalid content of \\\x7b\\\x7d"
      pure (least, some (valueIn 10 digits))

def repetitions (extended : Bool) : Nat → Node → Compiler Node
  | 0, node => pure node
  | fuel + 1, node => do
      let state ← get
      let again (rest : Text) (least : Nat) (most : Option Nat) : Compiler Node := do
        set { state with rest }
        repetitions extended fuel (.repeated node least most)
      match extended, state.rest with
      | _, '*' :: rest => again rest 0 none
      | true, '+' :: rest => again rest 1 none
      | true, '?' :: rest => again rest 0 (some 1)
      | true, '\x7b' :: rest =>
          if (rest.headD ' ').isDigit || rest.head? = some ',' then
            set { state with rest }
            let (least, most) ← bounds true
            repetitions extended fuel (.repeated node least most)
          else pure node
      | false, '\\' :: '+' :: rest => again rest 1 none
      | false, '\\' :: '?' :: rest => again rest 0 (some 1)
      | false, '\\' :: '\x7b' :: rest =>
          set { state with rest }
          let (least, most) ← bounds false
          repetitions extended fuel (.repeated node least most)
      | _, _ => pure node

def escaped? (c : Char) : Option Node :=
  match c with
  | 'w' => some (.oneOf false wordItems)
  | 'W' => some (.oneOf true wordItems)
  | 's' => some (.oneOf false [.kind "space".toList])
  | 'S' => some (.oneOf true [.kind "space".toList])
  | '<' => some .wordStart
  | '>' => some .wordEnd
  | 'b' => some .wordEdge
  | 'B' => some .noWordEdge
  | 'n' => some (.character '\n')
  | 't' => some (.character '\t')
  | _ => if c.isDigit && c ≠ '0' then some (.earlier (digitValue c)) else none

def atBranchEnd (extended : Bool) (inGroup : Bool) (rest : Text) : Bool :=
  match extended, rest with
  | _, [] => true
  | true, '|' :: _ => true
  | true, ')' :: _ => inGroup
  | false, '\\' :: '|' :: _ => true
  | false, '\\' :: ')' :: _ => inGroup
  | _, _ => false

mutual

def branches (extended inGroup : Bool) : Nat → Compiler (List (List Node))
  | 0 => complain "Regular expression too big"
  | fuel + 1 => do
      let first ← branch extended inGroup true fuel
      let state ← get
      let rest? : Option Text :=
        match extended, state.rest with
        | true, '|' :: rest => some rest
        | false, '\\' :: '|' :: rest => some rest
        | _, _ => none
      match rest? with
      | some rest =>
          set { state with rest, hasChoice := true }
          return first :: (← branches extended inGroup fuel)
      | none => pure [first]

def branch (extended inGroup atStart : Bool) : Nat → Compiler (List Node)
  | 0 => complain "Regular expression too big"
  | fuel + 1 => do
      if atBranchEnd extended inGroup (← get).rest then pure []
      else
        let node ← piece extended inGroup atStart fuel
        return node :: (← branch extended inGroup false fuel)

def piece (extended inGroup atStart : Bool) : Nat → Compiler Node
  | 0 => complain "Regular expression too big"
  | fuel + 1 => do
      let state ← get
      let repeatable (rest : Text) (node : Node) : Compiler Node := do
        set { state with rest }
        repetitions extended (rest.length + 1) node
      let grouped (rest : Text) : Compiler Node := do
        let index := state.groups + 1
        set { state with rest, groups := index }
        let found ← branches extended true fuel
        let inner ← get
        let closing : Text := if extended then [')'] else ['\\', ')']
        if !closing.isPrefixOf inner.rest then complain "Unmatched ( or \\("
        let after := inner.rest.drop closing.length
        set { inner with rest := after }
        repetitions extended (after.length + 1) (.group index found)
      match state.rest with
      | [] => complain "Trailing backslash"
      | c :: rest =>
          match c with
          | '\\' =>
              match rest with
              | [] => complain "Trailing backslash"
              | d :: after =>
                  if !extended && d = '(' then grouped after
                  else if !extended && d = ')' then complain "Unmatched ) or \\)"
                  else
                    match escaped? d with
                    | some (.earlier index) =>
                        if state.groups < index then complain "Invalid back reference"
                        repeatable after (.earlier index)
                    | some node => repeatable after node
                    | none => repeatable after (.character d)
          | '[' =>
              set { state with rest }
              let node ← bracket
              repetitions extended ((← get).rest.length + 1) node
          | '.' => repeatable rest .any
          | '^' =>
              if extended || atStart then
                set { state with rest }
                pure .start
              else repeatable rest (.character c)
          | '$' =>
              if extended || atBranchEnd extended inGroup rest then
                set { state with rest }
                pure .finish
              else repeatable rest (.character c)
          | '*' =>
              if extended && atStart then
                set { state with rest }
                pure (.group 0 [[]])
              else repeatable rest (.character c)
          | '(' => if extended then grouped rest else repeatable rest (.character c)
          | _ => repeatable rest (.character c)

end

def compile (extended foldsCase : Bool) (text : Text) : Except Text Compiled :=
  let whole : Compiler (List (List Node)) := do
    let found ← branches extended false (8 * text.length + 16)
    if !(← get).rest.isEmpty then complain "Unmatched ) or \\)"
    pure found
  match whole { rest := text } with
  | .ok found state =>
      .ok { branches := found, foldsCase, hasChoice := state.hasChoice, size := text.length }
  | .error message _ => .error message

def literal (foldsCase : Bool) (texts : List Text) : Compiled where
  branches := texts.map fun text => text.map Node.character
  foldsCase
  hasChoice := 1 < texts.length
  size := texts.flatten.length

def Compiled.union (all : List Compiled) : Compiled where
  branches := all.flatMap Compiled.branches
  foldsCase := all.any Compiled.foldsCase
  hasChoice := 1 < all.length || all.any Compiled.hasChoice
  size := (all.map Compiled.size).foldl Nat.add 0

def Compiled.between (regex : Compiled) (before behind : Node) : Compiled :=
  { regex with branches := [[before, .group 0 regex.branches, behind]] }

structure Match where
  ending : Nat
  groups : List (Nat × Nat × Nat)

inductive Step where
  | node (node : Node)
  | close (index start : Nat)
  | more (body : Node) (least : Nat) (most : Option Nat) (start : Nat)

structure Subject where
  text : Text
  foldsCase : Bool
  exhaustive : Bool

def Subject.same (subject : Subject) (left right : Char) : Bool :=
  left = right || (subject.foldsCase && left.toLower = right.toLower)

def Subject.admits (subject : Subject) (negated : Bool) (found : List Item) (c : Char) : Bool :=
  let inside (d : Char) : Bool := found.any (Item.admits d)
  (inside c || (subject.foldsCase && (inside c.toLower || inside c.toUpper))) != negated

def Subject.better (subject : Subject) (first : Option Match) (second : Unit → Option Match) :
    Option Match :=
  match first with
  | none => second ()
  | some found =>
      if !subject.exhaustive then first
      else
        match second () with
        | some other => if found.ending < other.ending then some other else first
        | none => first

def walk (subject : Subject) :
    Nat → List Step → (before : Option Char) → (rest : Text) → (position : Nat) →
      List (Nat × Nat × Nat) → Option Match
  | 0, _, _, _, _, _ => none
  | _ + 1, [], _, _, position, groups => some ⟨position, groups⟩
  | fuel + 1, .close index start :: steps, before, rest, position, groups =>
      walk subject fuel steps before rest position ((index, start, position) :: groups)
  | fuel + 1, .more body least most start :: steps, before, rest, position, groups =>
      if position = start && least = 0 then walk subject fuel steps before rest position groups
      else
        walk subject fuel (.node (.repeated body least most) :: steps) before rest position groups
  | fuel + 1, .node node :: steps, before, rest, position, groups =>
      let one (admits : Char → Bool) : Option Match :=
        match rest with
        | c :: after =>
            if admits c then walk subject fuel steps (some c) after (position + 1) groups else none
        | [] => none
      let here (holds : Bool) : Option Match :=
        if holds then walk subject fuel steps before rest position groups else none
      let afterWord : Bool := (before.map isWordPart).getD false
      let beforeWord : Bool := (rest.head?.map isWordPart).getD false
      match node with
      | .character c => one (subject.same c)
      | .any => one fun _ => true
      | .oneOf negated found => one (subject.admits negated found)
      | .start => here (position = 0)
      | .finish => here rest.isEmpty
      | .wordStart => here (!afterWord && beforeWord)
      | .wordEnd => here (afterWord && !beforeWord)
      | .wordEdge => here (afterWord != beforeWord)
      | .noWordEdge => here (afterWord == beforeWord)
      | .noWordBefore => here !afterWord
      | .noWordBehind => here !beforeWord
      | .group index found =>
          let ending : List Step := if index = 0 then steps else .close index position :: steps
          found.foldr
            (fun branch other =>
              subject.better
                (walk subject fuel (branch.map Step.node ++ ending) before rest position groups)
                fun _ => other)
            none
      | .earlier index =>
          match groups.lookup index with
          | none => none
          | some (start, stop) =>
              let wanted := (subject.text.take stop).drop start
              let found := rest.take wanted.length
              let isSame : Bool :=
                found.length = wanted.length
                  && (found.zip wanted).all fun (c, d) => subject.same c d
              if isSame then
                let last := if wanted.isEmpty then before else wanted.getLast?
                walk subject fuel steps last (rest.drop wanted.length)
                  (position + wanted.length) groups
              else none
      | .repeated body least most =>
          let stop (_ : Unit) : Option Match :=
            if least = 0 then walk subject fuel steps before rest position groups else none
          if most = some 0 then stop ()
          else
            let next : Step :=
              .more body (least - 1) (most.map fun count => count - 1) position
            subject.better
              (walk subject fuel (.node body :: next :: steps) before rest position groups) stop

def Compiled.matchAt? (regex : Compiled) (text : Text) (before : Option Char) (rest : Text)
    (position : Nat) : Option Match :=
  let subject : Subject := ⟨text, regex.foldsCase, regex.hasChoice⟩
  let fuel := 8 * (rest.length + 8) * (regex.size + 8)
  walk subject fuel [.node (.group 0 regex.branches)] before rest position []

def Compiled.search (regex : Compiled) (text : Text) :
    Option Char → Text → Nat → Option (Nat × Match)
  | before, rest, position =>
      match regex.matchAt? text before rest position with
      | some found => some (position, found)
      | none =>
          match rest with
          | [] => none
          | c :: after => regex.search text (some c) after (position + 1)

def Compiled.find? (regex : Compiled) (text : Text) (position : Nat) : Option (Nat × Match) :=
  regex.search text (if position = 0 then none else text[position - 1]?) (text.drop position)
    position

def Match.group (found : Match) (text : Text) (index : Nat) : Text :=
  match found.groups.lookup index with
  | some (start, stop) => (text.take stop).drop start
  | none => []

end Regex

end Tool

end ApiSurface
