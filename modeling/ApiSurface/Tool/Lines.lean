import ApiSurface.Script.Pattern
import ApiSurface.Tool.Basic

namespace ApiSurface

namespace Tool

open Host Script

def visibleByte (c : Char) : Text :=
  let low (value : Nat) : Text :=
    if value < 32 then ['^', Char.ofNat (value + 64)]
    else if value = 127 then "^?".toList
    else [Char.ofNat value]
  if c.toNat < 128 then low c.toNat else "M-".toList ++ low (c.toNat - 128)

structure CatStyle where
  numbers : Bool
  numbersFull : Bool
  squeezes : Bool
  marksEnds : Bool
  marksTabs : Bool
  marksBytes : Bool

def CatStyle.isPlain (style : CatStyle) : Bool :=
  !(style.numbers || style.numbersFull || style.squeezes || style.marksEnds || style.marksTabs
    || style.marksBytes)

def CatStyle.shown (style : CatStyle) (line : Text) : Text :=
  line.flatMap fun c =>
    if c = '\t' then (if style.marksTabs then "^I".toList else [c])
    else if style.marksBytes then visibleByte c
    else [c]

def CatStyle.lines (style : CatStyle) (ended : Bool) :
    (count : Nat) → (afterEmpty : Bool) → List Text → Text
  | _, _, [] => []
  | count, afterEmpty, line :: rest =>
      if style.squeezes && line.isEmpty && afterEmpty then style.lines ended count true rest
      else
        let numbered := if style.numbersFull then !line.isEmpty else style.numbers
        let digits := showNat (count + 1)
        let label : Text :=
          if numbered then List.replicate (6 - digits.length) ' ' ++ digits ++ ['\t'] else []
        let ending : Text :=
          if rest.isEmpty && !ended then []
          else if style.marksEnds then "$\n".toList
          else ['\n']
        label ++ style.shown line ++ ending
          ++ style.lines ended (if numbered then count + 1 else count) line.isEmpty rest

def cat : Utility := fun _ invocation =>
  let known : List Known := [{ letter := 'n', long := "number" },
    { letter := 'b', long := "number-nonblank" }, { letter := 's', long := "squeeze-blank" },
    { letter := 'E', long := "show-ends" }, { letter := 'T', long := "show-tabs" },
    { letter := 'v', long := "show-nonprinting" }, { letter := 'A', long := "show-all" },
    { letter := 'e' }, { letter := 't' }, { letter := 'u' }]
  withArguments known invocation 1 fun given => do
    let all := given.has 'A'
    let style : CatStyle :=
      { numbers := given.has 'n'
        numbersFull := given.has 'b'
        squeezes := given.has 's'
        marksEnds := given.has 'E' || given.has 'e' || all
        marksTabs := given.has 'T' || given.has 't' || all
        marksBytes := given.has 'v' || given.has 'e' || given.has 't' || all }
    let named := if given.operands.isEmpty then [['-']] else given.operands
    if style.isPlain then
      let status ← named.foldlM
        (fun status operand => do
          match ← readOperand invocation operand with
          | .error refusal =>
              invocation.complain (operand ++ ": ".toList ++ refusal.message)
              pure 1
          | .ok text =>
              match ← invocation.print 1 text with
              | .ok () => pure status
              | .error refusal =>
                  invocation.complain ("write error: ".toList ++ refusal.message)
                  pure 1)
        0
      pure (.exited status)
    else
      let (found, sound) ← readOperands invocation given.operands
      let (lines, ended) := linesOf (found.flatMap Prod.snd)
      finish invocation (if sound then 0 else 1) (style.lines ended 0 false lines)

def tee : Utility := fun _ invocation =>
  let known : List Known := [{ letter := 'a', long := "append" },
    { letter := 'i', long := "ignore-interrupts" }]
  withArguments known invocation 1 fun given => do
    let text :=
      match ← invocation.readInput with
      | .ok text => text
      | .error _ => []
    let opening : Opening := if given.has 'a' then .appending else .writing
    let status ← given.operands.foldlM
      (fun status path => do
        match ← openFile invocation.directory (toText path) opening with
        | .ok stream =>
            let _ ← write stream text
            pure status
        | .error refusal =>
            invocation.complain (path ++ ": ".toList ++ refusal.message)
            pure 1)
      0
    finish invocation status text

def withHeadings (wanted : Bool) (part : Text → Text) (found : List (Text × Text)) : Text :=
  let shown := found.map fun (name, text) =>
    let title := if name = ['-'] then "standard input".toList else name
    if wanted then "==> ".toList ++ title ++ " <==\n".toList ++ part text else part text
  List.intercalate (if wanted then ['\n'] else []) shown

def firstLines : Nat → Text → Text
  | 0, _ => []
  | _ + 1, [] => []
  | count + 1, c :: rest =>
      if c = '\n' then c :: firstLines count rest else c :: firstLines (count + 1) rest
termination_by count text => (text.length, count)

def fromLine (number : Nat) (text : Text) : Text :=
  text.drop (firstLines (number - 1) text).length

def lineCount (text : Text) : Nat :=
  (linesOf text).1.length

def withOldCounts (arguments : List Text) : List Text :=
  match arguments with
  | ('-' :: c :: rest) :: others =>
      if c.isDigit && rest.all Char.isDigit then
        "-n".toList :: (c :: rest) :: others
      else arguments
  | _ => arguments

def countKnown : List Known :=
  [{ letter := 'n', long := "lines", takesValue := true },
    { letter := 'c', long := "bytes", takesValue := true }, { letter := 'q', long := "quiet" },
    { letter := 'v', long := "verbose" }, { letter := 'f', long := "follow" }]

def showParts (invocation : Invocation)
    (part : (ofBytes : Bool) → (sign : Option Char) → Nat → Text → Text) : Act Ending := do
  match arguments countKnown false (withOldCounts invocation.arguments) with
  | .error message => misused invocation 1 message
  | .ok given =>
      let (ofBytes, count) : Bool × Text :=
        match given.options.reverse.find? fun option => option.1 = 'n' || option.1 = 'c' with
        | some (letter, value) => (letter = 'c', value)
        | none => (false, "10".toList)
      let (sign, digits) : Option Char × Text :=
        match count with
        | '-' :: rest => (some '-', rest)
        | '+' :: rest => (some '+', rest)
        | _ => (none, count)
      match natural? digits with
      | none =>
          let unit := if ofBytes then "bytes: ".toList else "lines: ".toList
          invocation.complain ("invalid number of ".toList ++ unit ++ quoted count)
          pure (.exited 1)
      | some value =>
          let named := if given.operands.isEmpty then [['-']] else given.operands
          let headed := (1 < named.length && !given.has 'q') || given.has 'v'
          let (found, sound) ← named.foldlM
            (fun (found, sound) operand => do
              match ← readOperand invocation operand with
              | .ok text => pure (found ++ [(operand, text)], sound)
              | .error .isDirectory =>
                  invocation.complain ("error reading ".toList ++ quoted operand
                    ++ ": Is a directory".toList)
                  pure (found, false)
              | .error refusal =>
                  invocation.complain ("cannot open ".toList ++ quoted operand
                    ++ " for reading: ".toList ++ refusal.message)
                  pure (found, false))
            (([] : List (Text × Text)), true)
          finish invocation (if sound then 0 else 1)
            (withHeadings headed (part ofBytes sign value) found)

def head : Utility := fun _ invocation =>
  showParts invocation fun ofBytes sign count text =>
    match ofBytes, sign with
    | true, some '-' => text.take (text.length - count)
    | true, _ => text.take count
    | false, some '-' => firstLines (lineCount text - count) text
    | false, _ => firstLines count text

def tail : Utility := fun _ invocation =>
  showParts invocation fun ofBytes sign count text =>
    match ofBytes, sign with
    | true, some '+' => text.drop (count - 1)
    | true, _ => text.drop (text.length - count)
    | false, some '+' => fromLine count text
    | false, _ => fromLine (lineCount text - count + 1) text

structure Counts where
  lines : Nat
  words : Nat
  bytes : Nat

def wordCount (text : Text) : Nat :=
  (text.splitOnP isSpace).countP fun word => !word.isEmpty

def countsOf (text : Text) : Counts :=
  ⟨text.count '\n', wordCount text, text.length⟩

def wc : Utility := fun _ invocation =>
  let known : List Known := [{ letter := 'l', long := "lines" }, { letter := 'w', long := "words" },
    { letter := 'c', long := "bytes" }, { letter := 'm', long := "chars" },
    { letter := 'L', long := "max-line-length" }]
  withArguments known invocation 1 fun given => do
    let (found, sound) ← readOperands invocation given.operands
    let all := !(given.has 'l' || given.has 'w' || given.has 'c' || given.has 'm')
    let chosen (counts : Counts) : List Nat :=
      (if all || given.has 'l' then [counts.lines] else [])
        ++ (if all || given.has 'w' then [counts.words] else [])
        ++ (if given.has 'm' then [counts.bytes] else [])
        ++ (if all || given.has 'c' then [counts.bytes] else [])
    let counted := found.map fun (name, text) => (name, countsOf text)
    let total : Counts := counted.foldl
      (fun sum entry =>
        ⟨sum.lines + entry.2.lines, sum.words + entry.2.words, sum.bytes + entry.2.bytes⟩)
      ⟨0, 0, 0⟩
    let fromInput := given.operands.isEmpty || given.operands.contains ['-']
    let single := given.operands.length ≤ 1 && (chosen total).length = 1
    let width :=
      if single then 1 else if fromInput then 7 else (showNat total.bytes).length
    let row (name : Text) (counts : Counts) : Text :=
      let cells := (chosen counts).map fun count =>
        let digits := showNat count
        List.replicate (width - digits.length) ' ' ++ digits
      let label : Text := if given.operands.isEmpty then [] else ' ' :: name
      List.intercalate [' '] cells ++ label ++ ['\n']
    let rows := counted.map fun (name, counts) => row name counts
    let last := if 1 < given.operands.length then row "total".toList total else []
    finish invocation (if sound then 0 else 1) (rows.flatten ++ last)

structure Key where
  first : Nat
  firstOffset : Nat := 1
  last : Option (Nat × Nat) := none
  numeric : Bool := false
  reversed : Bool := false
  folded : Bool := false
  unblanked : Bool := false

def keyFields (divider : Option Char) (line : Text) : List Text :=
  match divider with
  | some c => line.splitOn c
  | none =>
      (line.foldl
        (fun (fields : List Text) c =>
          let isBlank : Bool := c = ' ' || c = '\t'
          match fields with
          | [] => [[c]]
          | field :: rest =>
              let inBlanks := field.all fun d => d = ' ' || d = '\t'
              if isBlank && !inBlanks then [c] :: field :: rest
              else (field ++ [c]) :: rest)
        []).reverse

def Key.part (divider : Option Char) (key : Key) (line : Text) : Text :=
  let fields := keyFields divider line
  let joint : Text := (divider.map fun c => [c]).getD []
  let kept :=
    match key.last with
    | none => fields.drop (key.first - 1)
    | some (last, _) => (fields.take last).drop (key.first - 1)
  let whole := List.intercalate joint kept
  let trimmed :=
    if key.unblanked then whole.dropWhile fun c => c = ' ' || c = '\t' else whole
  let ending :=
    match key.last with
    | some (last, offset) =>
        if offset = 0 then trimmed.length
        else
          let before := List.intercalate joint ((fields.take (last - 1)).drop (key.first - 1))
          let extra := if key.first < last then joint.length else 0
          before.length + extra + offset
    | none => trimmed.length
  (trimmed.take ending).drop (key.firstOffset - 1)

def leadingNumber (text : Text) : Int :=
  let trimmed := text.dropWhile fun c => c = ' ' || c = '\t'
  let (negative, rest) :=
    match trimmed with
    | '-' :: rest => (true, rest)
    | _ => (false, trimmed)
  let whole := rest.takeWhile Char.isDigit
  let fraction :=
    match rest.drop whole.length with
    | '.' :: after => after.takeWhile Char.isDigit
    | _ => []
  let digits := (fraction ++ List.replicate 12 '0').take 12
  let size : Int := valueIn 10 (whole ++ digits)
  if negative then -size else size

def Key.compare (divider : Option Char) (key : Key) (left right : Text) : Ordering :=
  let first := key.part divider left
  let second := key.part divider right
  let order : Ordering :=
    if key.numeric then Ord.compare (leadingNumber first) (leadingNumber second)
    else
      let fold (text : Text) : Text := if key.folded then text.map Char.toUpper else text
      if fold first < fold second then .lt else if fold second < fold first then .gt else .eq
  if key.reversed then order.swap else order

def compareKeys (divider : Option Char) (left right : Text) : List Key → Ordering
  | [] => .eq
  | key :: rest =>
      match key.compare divider left right with
      | .eq => compareKeys divider left right rest
      | order => order

def keyPosition? (text : Text) : Option (Nat × Option Nat × Text) :=
  let field := text.takeWhile Char.isDigit
  match natural? field with
  | none => none
  | some number =>
      match text.drop field.length with
      | '.' :: rest =>
          let offset := rest.takeWhile Char.isDigit
          (natural? offset).map fun place => (number, some place, rest.drop offset.length)
      | rest => some (number, none, rest)

def key? (text : Text) : Option Key :=
  let (start, stop) : Text × Option Text :=
    match text.cutFirst ',' with
    | some (start, stop) => (start, some stop)
    | none => (text, none)
  match keyPosition? start, stop.map keyPosition? with
  | some (first, offset, letters), none =>
      some { first, firstOffset := offset.getD 1, numeric := letters.contains 'n',
             reversed := letters.contains 'r', folded := letters.contains 'f',
             unblanked := letters.contains 'b' }
  | some (first, offset, letters), some (some (last, lastOffset, others)) =>
      let letters := letters ++ others
      some { first, firstOffset := offset.getD 1, last := some (last, lastOffset.getD 0),
             numeric := letters.contains 'n', reversed := letters.contains 'r',
             folded := letters.contains 'f', unblanked := letters.contains 'b' }
  | _, _ => none

def keepDistinct (isSame : Text → Text → Bool) : List Text → List Text
  | [] => []
  | line :: rest =>
      match keepDistinct isSame rest with
      | [] => [line]
      | next :: others => if isSame line next then line :: others else line :: next :: others

def sort : Utility := fun _ invocation =>
  let known : List Known := [{ letter := 'r', long := "reverse" },
    { letter := 'n', long := "numeric-sort" }, { letter := 'u', long := "unique" },
    { letter := 'f', long := "ignore-case" }, { letter := 'b', long := "ignore-leading-blanks" },
    { letter := 's', long := "stable" }, { letter := 'c', long := "check" },
    { letter := 'k', long := "key", takesValue := true },
    { letter := 't', long := "field-separator", takesValue := true },
    { letter := 'o', long := "output", takesValue := true }]
  withArguments known invocation 2 fun given => do
    let named := if given.operands.isEmpty then [['-']] else given.operands
    let texts ← named.mapM fun operand => do
      pure (operand, ← readOperand invocation operand)
    match texts.find? fun entry => !entry.2.toOption.isSome with
    | some (operand, result) =>
        let reason :=
          match result with
          | .error refusal => refusal.message
          | .ok _ => []
        let verb :=
          match result with
          | .error .isDirectory => "read failed: ".toList
          | _ => "cannot read: ".toList
        invocation.complain (verb ++ operand ++ ": ".toList ++ reason)
        pure (.exited 2)
    | none =>
        let lines := texts.flatMap fun entry => (linesOf (entry.2.toOption.getD [])).1
        let divider := (given.value? 't').bind List.head?
        let standard : Key :=
          { first := 1, numeric := given.has 'n', folded := given.has 'f',
            unblanked := given.has 'b' }
        let reversed := given.has 'r'
        let keys := (given.values 'k').filterMap fun text =>
          (key? text).map fun key =>
            if key.numeric || key.reversed || key.folded || key.unblanked then key
            else
              { key with
                numeric := given.has 'n'
                folded := given.has 'f'
                unblanked := given.has 'b'
                reversed }
        let byKeys (left right : Text) : Ordering :=
          if keys.isEmpty then
            let order := standard.compare divider left right
            if reversed then order.swap else order
          else compareKeys divider left right keys
        let whole (left right : Text) : Ordering :=
          let order : Ordering :=
            if left < right then .lt else if right < left then .gt else .eq
          if reversed then order.swap else order
        let order (left right : Text) : Ordering :=
          match byKeys left right with
          | .eq => if given.has 's' || given.has 'u' then .eq else whole left right
          | found => found
        let sorted := lines.mergeSort fun left right => order left right ≠ .gt
        let kept :=
          if given.has 'u' then keepDistinct (fun left right => byKeys left right = .eq) sorted
          else sorted
        match given.value? 'o' with
        | none => finish invocation 0 (unlines kept)
        | some path =>
            match ← openFile invocation.directory (toText path) .writing with
            | .ok stream =>
                let _ ← write stream (unlines kept)
                pure success
            | .error refusal =>
                invocation.complain ("open failed: ".toList ++ path ++ ": ".toList
                  ++ refusal.message)
                pure (.exited 2)

def groups (isSame : Text → Text → Bool) : List Text → List (Text × Nat)
  | [] => []
  | line :: rest =>
      match groups isSame rest with
      | [] => [(line, 1)]
      | (next, count) :: others =>
          if isSame line next then (line, count + 1) :: others
          else (line, 1) :: (next, count) :: others

def uniq : Utility := fun _ invocation =>
  let known : List Known := [{ letter := 'c', long := "count" },
    { letter := 'd', long := "repeated" }, { letter := 'u', long := "unique" }, { letter := 'i', long := "ignore-case" }]
  withArguments known invocation 1 fun given => do
    match ← readOperand invocation ((given.operands.head?).getD ['-']) with
    | .error refusal =>
        invocation.complain ((given.operands.headD []) ++ ": ".toList ++ refusal.message)
        pure (.exited 1)
    | .ok text =>
        let fold (line : Text) : Text :=
          if given.has 'i' then line.map Char.toUpper else line
        let found := groups (fun left right => fold left = fold right) (linesOf text).1
        let kept := found.filter fun entry =>
          (!given.has 'd' || 1 < entry.2) && (!given.has 'u' || entry.2 = 1)
        finish invocation 0 (kept.flatMap fun (line, count) =>
          let digits := showNat count
          let label : Text :=
            if given.has 'c' then List.replicate (7 - digits.length) ' ' ++ digits ++ [' ']
            else []
          label ++ line ++ ['\n'])

def ranges? (text : Text) : Option (List (Nat × Option Nat)) :=
  (text.splitOn ',').mapM fun part =>
    match Text.cutFirst '-' part with
    | none => (natural? part).bind fun place =>
        if place = 0 then none else some (place, some place)
    | some (low, high) =>
        match low.isEmpty, high.isEmpty, natural? low, natural? high with
        | true, false, _, some last => some (1, some last)
        | false, true, some first, _ => some (first, none)
        | false, false, some first, some last =>
            if first ≤ last then some (first, some last) else none
        | _, _, _, _ => none

def inRanges (ranges : List (Nat × Option Nat)) (place : Nat) : Bool :=
  ranges.any fun (first, last) => first ≤ place && (last.all fun bound => place ≤ bound)

def pick {α : Type} (ranges : List (Nat × Option Nat)) (items : List α) : List α :=
  (items.zipIdx 1).filterMap fun (item, place) =>
    if inRanges ranges place then some item else none

def cut : Utility := fun _ invocation =>
  let known : List Known := [{ letter := 'd', long := "delimiter", takesValue := true },
    { letter := 'f', long := "fields", takesValue := true },
    { letter := 'c', long := "characters", takesValue := true },
    { letter := 'b', long := "bytes", takesValue := true },
    { letter := 's', long := "only-delimited" },
    { letter := 'O', long := "output-delimiter", takesValue := true }]
  withArguments known invocation 1 fun given => do
    let (found, sound) ← readOperands invocation given.operands
    let lines := found.flatMap fun entry => (linesOf entry.2).1
    let status := if sound then 0 else 1
    let list := (given.value? 'f').orElse fun _ =>
      (given.value? 'c').orElse fun _ => given.value? 'b'
    match list with
    | none => misused invocation 1 "you must specify a list of bytes, characters, or fields".toList
    | some text =>
        match ranges? text with
        | none =>
            if given.has 'f' then
              misused invocation 1 ("invalid field value ".toList ++ quoted text)
            else
              misused invocation 1 ("invalid byte/character position ".toList ++ quoted text)
        | some ranges =>
            if given.has 'f' then
              let divider := (((given.value? 'd').getD ['\t']).head?).getD (Char.ofNat 0)
              let joint := (given.value? 'O').getD [divider]
              finish invocation status (lines.flatMap fun line =>
                if line.contains divider then
                  List.intercalate joint (pick ranges (line.splitOn divider)) ++ ['\n']
                else if given.has 's' then []
                else line ++ ['\n'])
            else
              finish invocation status (lines.flatMap fun line => pick ranges line ++ ['\n'])

def setCharacter (text : Text) : Option (Char × Text) :=
  match text with
  | [] => none
  | '\\' :: c :: rest =>
      if isDigitIn 8 c then
        let digits := ((c :: rest).take 3).takeWhile (isDigitIn 8)
        some (Char.ofNat (valueIn 8 digits % 256), (c :: rest).drop digits.length)
      else
        let shown :=
          match c with
          | 'a' => Char.ofNat 7
          | 'b' => Char.ofNat 8
          | 'f' => Char.ofNat 12
          | 'n' => '\n'
          | 'r' => '\r'
          | 't' => '\t'
          | 'v' => Char.ofNat 11
          | other => other
        some (shown, rest)
  | c :: rest => some (c, rest)

def allBytes : List Char :=
  (List.range 256).map Char.ofNat

/-- The characters that a set lists.  A repetition without a count fills up to `size`. -/
def setCharacters (size : Nat) : Nat → Text → List Char
  | 0, _ => []
  | fuel + 1, text =>
      let class? : Option (List Char × Text) :=
        match text with
        | '[' :: ':' :: rest =>
            let name := rest.takeWhile (· ≠ ':')
            if kindNames.contains name && ":]".toList.isPrefixOf (rest.drop name.length) then
              some (allBytes.filter (isOfKind name), rest.drop (name.length + 2))
            else none
        | '[' :: c :: '*' :: rest =>
            let digits := rest.takeWhile Char.isDigit
            match rest.drop digits.length with
            | ']' :: after =>
                let count := if digits.isEmpty then size else valueIn 10 digits
                some (List.replicate count c, after)
            | _ => none
        | _ => none
      match class? with
      | some (found, rest) => found ++ setCharacters size fuel rest
      | none =>
          match setCharacter text with
          | none => []
          | some (first, rest) =>
              match rest with
              | '-' :: after =>
                  match setCharacter after with
                  | some (last, behind) =>
                      (List.range (last.toNat + 1 - first.toNat)).map
                          (fun place => Char.ofNat (first.toNat + place))
                        ++ setCharacters size fuel behind
                  | none => [first, '-']
              | _ => first :: setCharacters size fuel rest

def squeeze (isSqueezed : Char → Bool) : Option Char → Text → Text
  | _, [] => []
  | before, c :: rest =>
      if before = some c && isSqueezed c then squeeze isSqueezed before rest
      else c :: squeeze isSqueezed (some c) rest

def tr : Utility := fun _ invocation =>
  let known : List Known := [{ letter := 'c', long := "complement" }, { letter := 'C' },
    { letter := 'd', long := "delete" }, { letter := 's', long := "squeeze-repeats" },
    { letter := 't', long := "truncate-set1" }]
  match arguments known true invocation.arguments with
  | .error message => misused invocation 1 message
  | .ok given => do
      let text :=
        match ← invocation.readInput with
        | .ok text => text
        | .error _ => []
      let complement := given.has 'c' || given.has 'C'
      let listed (size : Nat) (set : Text) : List Char :=
        setCharacters size (set.length + 1) set
      let first (set : Text) : List Char :=
        let found := listed 0 set
        if complement then allBytes.filter fun c => !found.contains c else found
      match given.operands, given.has 'd', given.has 's' with
      | [set], true, false =>
          let gone := first set
          finish invocation 0 (text.filter fun c => !gone.contains c)
      | [set], false, true =>
          let squeezed := first set
          finish invocation 0 (squeeze squeezed.contains none text)
      | [set, other], true, true =>
          let gone := first set
          let squeezed := listed 0 other
          finish invocation 0
            (squeeze squeezed.contains none (text.filter fun c => !gone.contains c))
      | [set, other], false, squeezes =>
          let origin := first set
          let target := listed origin.length other
          let filled := target
            ++ List.replicate (origin.length - target.length) (target.getLast?.getD ' ')
          let table := (origin.zip filled).reverse
          let changed := text.map fun c => (table.lookup c).getD c
          finish invocation 0
            (if squeezes then squeeze target.contains none changed else changed)
      | [], _, _ => misused invocation 1 "missing operand".toList
      | [set], false, false =>
          invocation.complain ("missing operand after ".toList ++ quoted set)
          let _ ← invocation.print 2
            ("Two strings must be given when translating.\n".toList ++ hintAt invocation ++ ['\n'])
          pure (.exited 1)
      | [set], true, true =>
          invocation.complain ("missing operand after ".toList ++ quoted set)
          let _ ← invocation.print 2
            ("Two strings must be given when both deleting and squeezing repeats.\n".toList
              ++ hintAt invocation ++ ['\n'])
          pure (.exited 1)
      | _ :: extra :: _, true, false =>
          invocation.complain ("extra operand ".toList ++ quoted extra)
          let _ ← invocation.print 2
            ("Only one string may be given when deleting without squeezing repeats.\n".toList
              ++ hintAt invocation ++ ['\n'])
          pure (.exited 1)
      | _ :: _ :: extra :: _, _, _ =>
          misused invocation 1 ("extra operand ".toList ++ quoted extra)

def rev : Utility := fun _ invocation =>
  withArguments [] invocation 1 fun given => do
    let (found, sound) ← readOperands invocation given.operands
    let (lines, ended) := linesOf (found.flatMap Prod.snd)
    let text := List.intercalate ['\n'] (lines.map List.reverse)
    finish invocation (if sound then 0 else 1)
      (if ended && !lines.isEmpty then text ++ ['\n'] else text)

def tac : Utility := fun _ invocation =>
  withArguments [] invocation 1 fun given => do
    let (found, sound) ← readOperands invocation given.operands
    finish invocation (if sound then 0 else 1)
      (found.flatMap fun (_, text) =>
        let (lines, ended) := linesOf text
        if ended then unlines lines.reverse
        else (lines.getLast?.getD []) ++ unlines lines.dropLast.reverse)

def nl : Utility := fun _ invocation =>
  withArguments [{ letter := 'b', long := "body-numbering", takesValue := true }] invocation 1
    fun given => do
      let (found, sound) ← readOperands invocation given.operands
      let (lines, _) := linesOf (found.flatMap Prod.snd)
      let numbersAll : Bool := given.value? 'b' = some ['a']
      let (text, _) := lines.foldl
        (fun (text, count) line =>
          if numbersAll || !line.isEmpty then
            let digits := showNat (count + 1)
            (text ++ List.replicate (6 - digits.length) ' ' ++ digits ++ '\t' :: line ++ ['\n'],
              count + 1)
          else (text ++ List.replicate 7 ' ' ++ line ++ ['\n'], count))
        (([] : Text), 0)
      finish invocation (if sound then 0 else 1) text

end Tool

end ApiSurface
