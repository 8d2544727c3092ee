import ApiSurface.Tool.Plain

namespace ApiSurface

namespace Tool

open Host Script

def look (invocation : Invocation) (path : Text) : Act (Except Refusal (Place × Node)) := do
  pure (find (← get).files (located invocation.directory (toText path)))

def newPlace (invocation : Invocation) (path : Text) : Act (Except Refusal Place) := do
  let files := (← get).files
  match place files (located invocation.directory (toText path)) with
  | .error refusal => pure (.error refusal)
  | .ok found =>
      match at? files ⟨found.absolute, found.location.dropLast⟩ with
      | some (.directory _) => pure (.ok found)
      | some (.file _) => pure (.error .notDirectory)
      | none => pure (.error .noEntry)

def storeAt (found : Place) (node : Node) : Act Unit :=
  modify fun machine => { machine with files := store machine.files found node }

def discardAt (found : Place) : Act Unit := do
  loosen found
  modify fun machine => { machine with files := discard machine.files found }

def forOperands (operands : List Text) (act : Text → Act Bool) : Act Ending := do
  let sound ← operands.foldlM
    (fun sound operand => do
      let done ← act operand
      pure (sound && done))
    true
  pure (.exited (if sound then 0 else 1))

def cannot (invocation : Invocation) (deed : String) (path : Text) (refusal : Refusal) :
    Act Bool := do
  invocation.complain (deed.toList ++ ' ' :: quoted path ++ ": ".toList ++ refusal.message)
  pure false

def rm : Utility := fun _ invocation =>
  let known : List Known := [{ letter := 'f', long := "force" },
    { letter := 'r', long := "recursive" }, { letter := 'R' }, { letter := 'i' }, { letter := 'd', long := "dir" },
    { letter := 'v', long := "verbose" }]
  withArguments known invocation 1 fun given => do
    let force := given.has 'f'
    let recursive := given.has 'r' || given.has 'R'
    if given.operands.isEmpty && !force then misused invocation 1 "missing operand".toList
    else
      forOperands given.operands fun path => do
        let refuse := cannot invocation "cannot remove" path
        match ← look invocation path with
        | .error .noEntry => if force then pure true else refuse .noEntry
        | .error .notDirectory => if force then pure true else refuse .notDirectory
        | .error refusal => refuse refusal
        | .ok (found, .file _) =>
            discardAt found
            pure true
        | .ok (found, .directory entries) =>
            let name := lastPart path
            if name = ".".toList || name = "..".toList then
              invocation.complain ("refusing to remove '.' or '..' directory: skipping ".toList
                ++ quoted path)
              pure false
            else if recursive || (given.has 'd' && entries.isEmpty) then
              discardAt found
              pure true
            else refuse .isDirectory

def rmdir : Utility := fun _ invocation =>
  withArguments [{ letter := 'p', long := "parents" }] invocation 1 fun given => do
    if given.operands.isEmpty then misused invocation 1 "missing operand".toList
    else
      forOperands given.operands fun path => do
        let refuse := cannot invocation "failed to remove" path
        match ← look invocation path with
        | .error refusal => refuse refusal
        | .ok (_, .file _) => refuse .notDirectory
        | .ok (found, .directory entries) =>
            if entries.isEmpty then
              discardAt found
              pure true
            else refuse .notEmpty

def makeDirectory (invocation : Invocation) (path : Text) : Act (Except Refusal Unit) := do
  match ← look invocation path with
  | .ok _ => pure (.error .alreadyThere)
  | .error .noEntry =>
      match ← newPlace invocation path with
      | .ok found =>
          storeAt found (.directory [])
          pure (.ok ())
      | .error refusal => pure (.error refusal)
  | .error refusal => pure (.error refusal)

def mkdir : Utility := fun _ invocation =>
  let known : List Known := [{ letter := 'p', long := "parents" },
    { letter := 'm', long := "mode", takesValue := true }, { letter := 'v', long := "verbose" }]
  withArguments known invocation 1 fun given => do
    if given.operands.isEmpty then misused invocation 1 "missing operand".toList
    else
      forOperands given.operands fun path => do
        let refuse := cannot invocation "cannot create directory" path
        if given.has 'p' then
          let machine ← get
          let (result, files) :=
            machine.files.createDirectories (located invocation.directory (toText path))
          set { machine with files }
          match result with
          | .ok () => pure true
          | .error _ =>
              match ← look invocation path with
              | .ok (_, .file _) => refuse .alreadyThere
              | _ => refuse .notDirectory
        else
          match ← makeDirectory invocation path with
          | .ok () => pure true
          | .error refusal => refuse refusal

def touch : Utility := fun _ invocation =>
  let known : List Known := [{ letter := 'c', long := "no-create" }, { letter := 'a' },
    { letter := 'm' }, { letter := 'd', long := "date", takesValue := true },
    { letter := 't', takesValue := true },
    { letter := 'r', long := "reference", takesValue := true }]
  withArguments known invocation 1 fun given => do
    if given.operands.isEmpty then misused invocation 1 "missing file operand".toList
    else
      forOperands given.operands fun path => do
        match ← look invocation path with
        | .ok _ => pure true
        | .error .noEntry =>
            if given.has 'c' then pure true
            else
              match ← openFile invocation.directory (toText path) .appending with
              | .ok _ => pure true
              | .error refusal => cannot invocation "cannot touch" path refusal
        | .error refusal => cannot invocation "cannot touch" path refusal

/-- Where an operand goes: into a directory under its own name, or to a name of its own. -/
def destination (invocation : Invocation) (path target : Text) : Act Text := do
  match ← look invocation target with
  | .ok (_, .directory _) => pure (withoutSlashes target ++ '/' :: lastPart path)
  | _ => pure target

def withTarget (invocation : Invocation) (operands : List Text)
    (act : List Text → Text → Act Ending) : Act Ending := do
  match operands with
  | [] => misused invocation 1 "missing file operand".toList
  | [path] =>
      misused invocation 1 ("missing destination file operand after ".toList ++ quoted path)
  | _ =>
      let target := (operands.getLast?).getD []
      let paths := operands.dropLast
      if 1 < paths.length then
        match ← look invocation target with
        | .ok (_, .directory _) => act paths target
        | .ok (_, .file _) =>
            invocation.complain ("target ".toList ++ quoted target ++ ": Not a directory".toList)
            pure (.exited 1)
        | .error refusal =>
            invocation.complain ("target ".toList ++ quoted target ++ ": ".toList
              ++ refusal.message)
            pure (.exited 1)
      else act paths target

def merged : Nat → Node → Option Node → Node
  | fuel + 1, .directory entries, some (.directory old) =>
      .directory (entries.foldl
        (fun (folder : Folder) (entry : Text × Node) =>
          folder.assign entry.1 (merged fuel entry.2 (folder.lookup entry.1))) old)
  | _, .file data, some (.file old) => .file { data with executable := old.executable }
  | _, node, _ => node

def cp : Utility := fun _ invocation =>
  let known : List Known := [{ letter := 'r', long := "recursive" }, { letter := 'R' },
    { letter := 'a', long := "archive" }, { letter := 'p' }, { letter := 'f', long := "force" },
    { letter := 'v', long := "verbose" }, { letter := 'n', long := "no-clobber" },
    { letter := 'i' }, { letter := 'T', long := "no-target-directory" }]
  withArguments known invocation 1 fun given =>
    withTarget invocation given.operands fun paths target => do
      let recursive := given.has 'r' || given.has 'R' || given.has 'a'
      forOperands paths fun path => do
        match ← look invocation path with
        | .error refusal => cannot invocation "cannot stat" path refusal
        | .ok (origin, node) =>
            let isDirectory : Bool :=
              match node with
              | .directory _ => true
              | .file _ => false
            if isDirectory && !recursive then
              invocation.complain ("-r not specified; omitting directory ".toList ++ quoted path)
              pure false
            else
              let goal ← destination invocation path target
              match ← look invocation goal with
              | .ok (there, old) =>
                  if there = origin then
                    invocation.complain (quoted path ++ " and ".toList ++ quoted goal
                      ++ " are the same file".toList)
                    pure false
                  else
                    match node, old with
                    | .directory _, .file _ =>
                        invocation.complain ("cannot overwrite non-directory ".toList
                          ++ quoted goal ++ " with directory ".toList ++ quoted path)
                        pure false
                    | .file _, .directory _ =>
                        invocation.complain ("cannot overwrite directory ".toList
                          ++ quoted goal ++ " with non-directory".toList)
                        pure false
                    | _, _ =>
                        if !given.has 'n' then storeAt there (merged 100 node (some old))
                        pure true
              | .error .noEntry =>
                  match ← newPlace invocation goal with
                  | .ok there =>
                      if Path.demandsDirectory goal && !isDirectory then
                        invocation.complain ("cannot create regular file ".toList ++ quoted goal
                          ++ ": Not a directory".toList)
                        pure false
                      else
                        storeAt there node
                        pure true
                  | .error refusal => cannot invocation "cannot create regular file" goal refusal
              | .error refusal => cannot invocation "cannot create regular file" goal refusal

def mv : Utility := fun _ invocation =>
  let known : List Known := [{ letter := 'f', long := "force" },
    { letter := 'n', long := "no-clobber" }, { letter := 'v', long := "verbose" }, { letter := 'i' },
    { letter := 'T', long := "no-target-directory" }]
  withArguments known invocation 1 fun given =>
    withTarget invocation given.operands fun paths target =>
      forOperands paths fun path => do
        match ← look invocation path with
        | .error refusal => cannot invocation "cannot stat" path refusal
        | .ok (origin, node) =>
            let goal ← destination invocation path target
            let move (there : Place) : Act Bool := do
              discardAt there
              storeAt there node
              modify fun machine => { machine with files := discard machine.files origin }
              pure true
            match ← look invocation goal with
            | .ok (there, old) =>
                if there = origin then
                  invocation.complain (quoted path ++ " and ".toList ++ quoted goal
                    ++ " are the same file".toList)
                  pure false
                else
                  match node, old with
                  | .directory _, .file _ =>
                      invocation.complain ("cannot overwrite non-directory ".toList
                        ++ quoted goal ++ " with directory ".toList ++ quoted path)
                      pure false
                  | .file _, .directory _ =>
                      invocation.complain ("cannot overwrite directory ".toList
                        ++ quoted goal ++ " with non-directory ".toList ++ quoted path)
                      pure false
                  | _, _ => if given.has 'n' then pure true else move there
            | .error .noEntry =>
                match ← newPlace invocation goal with
                | .ok there => move there
                | .error refusal =>
                    invocation.complain ("cannot move ".toList ++ quoted path ++ " to ".toList
                      ++ quoted goal ++ ": ".toList ++ refusal.message)
                    pure false
            | .error refusal =>
                invocation.complain ("cannot move ".toList ++ quoted path ++ " to ".toList
                  ++ quoted goal ++ ": ".toList ++ refusal.message)
                pure false

def executableMode? (mode : Text) : Option (Option Bool) :=
  match mode with
  | [] => none
  | c :: _ =>
      if c.isDigit then
        if mode.all isOctal then some (some (valueIn 8 mode % 2 = 1 || valueIn 8 mode / 64 % 2 = 1))
        else none
      else
        let rest := mode.dropWhile fun letter => "ugoa".toList.contains letter
        match rest with
        | '+' :: letters => some (if letters.contains 'x' then some true else none)
        | '-' :: letters => some (if letters.contains 'x' then some false else none)
        | '=' :: letters => some (some (letters.contains 'x'))
        | _ => none

def chmod : Utility := fun _ invocation => do
  let isMode (text : Text) : Bool :=
    text.head? = some '-' && (text.drop 1).all fun c => "rwxst".toList.contains c
  let settings := invocation.arguments.filter fun text => !isMode text
  let modes := invocation.arguments.filter isMode
  match arguments [{ letter := 'R', long := "recursive" }, { letter := 'f', long := "silent" },
    { letter := 'v', long := "verbose" }] false settings with
  | .error message => misused invocation 1 message
  | .ok given =>
      match modes ++ given.operands with
      | [] => misused invocation 1 "missing operand".toList
      | [mode] => misused invocation 1 ("missing operand after ".toList ++ quoted mode)
      | mode :: paths =>
          match executableMode? mode with
          | none => misused invocation 1 ("invalid mode: ".toList ++ quoted mode)
          | some change =>
              forOperands paths fun path => do
                match ← look invocation path with
                | .error refusal => cannot invocation "cannot access" path refusal
                | .ok (found, .file data) =>
                    storeAt found
                      (.file { data with executable := change.getD data.executable })
                    pure true
                | .ok _ => pure true

def nameMark (given : Given) : Node → Text
  | .directory _ => if given.has 'F' || given.has 'p' then ['/'] else []
  | .file data => if given.has 'F' && data.executable then ['*'] else []

def listFolder (given : Given) (entries : Folder) : Text :=
  let isShown (name : Text) : Bool :=
    given.has 'a' || given.has 'A' || name.head? ≠ some '.'
  let dots : List Text := if given.has 'a' then [".".toList, "..".toList] else []
  let names := dots ++ (Folder.names entries).filter isShown
  let sorted := names.mergeSort fun left right => !decide (right < left)
  let ordered := if given.has 'r' then sorted.reverse else sorted
  ordered.flatMap fun name =>
    let mark : Text :=
      match entries.lookup name with
      | some node => nameMark given node
      | none => nameMark given (.directory [])
    ofText name ++ mark ++ ['\n']

def ls : Utility := fun _ invocation =>
  let known : List Known := [{ letter := 'a', long := "all" },
    { letter := 'A', long := "almost-all" }, { letter := '1' },
    { letter := 'd', long := "directory" }, { letter := 'F', long := "classify" },
    { letter := 'p' }, { letter := 'r', long := "reverse" }, { letter := 't' }, { letter := 'C' },
    { letter := 'x' }, { letter := 'm' }, { letter := 'l' }]
  withArguments known invocation 2 fun given => do
    let operands := if given.operands.isEmpty then [".".toList] else given.operands
    let sorted := operands.mergeSort fun left right => !decide (right < left)
    let (found, sound) ← sorted.foldlM
      (fun (found, sound) path => do
        match ← look invocation path with
        | .ok (_, node) => pure (found ++ [(path, node)], sound)
        | .error refusal =>
            let _ ← cannot invocation "cannot access" path refusal
            pure (found, false))
      (([] : List (Text × Node)), true)
    let isFolder : Text × Node → Bool
      | (_, .directory _) => !given.has 'd'
      | _ => false
    let single := (found.filter fun entry => !isFolder entry).flatMap fun (path, node) =>
      path ++ nameMark given node ++ ['\n']
    let folders := (found.filter isFolder).map fun (path, node) =>
      let inside : Text :=
        match node with
        | .directory entries => listFolder given entries
        | .file _ => []
      if 1 < operands.length then path ++ ":\n".toList ++ inside else inside
    let blocks := (if single.isEmpty then [] else [single]) ++ folders
    finish invocation (if sound then 0 else 2) (List.intercalate ['\n'] blocks)

def cmp : Utility := fun _ invocation =>
  withArguments [{ letter := 's', long := "quiet" }] invocation 2 fun given => do
    match given.operands with
    | [first, second] =>
        match ← readOperand invocation first, ← readOperand invocation second with
        | .ok left, .ok right =>
            if left = right then pure success
            else
              let common := ((left.zip right).takeWhile fun (c, d) => c = d).length
              if given.has 's' then pure (.exited 1)
              else if common < left.length && common < right.length then
                let line := (left.take common).count '\n' + 1
                finish invocation 1 (first ++ ' ' :: second ++ " differ: char ".toList
                  ++ showNat (common + 1) ++ ", line ".toList ++ showNat line ++ ['\n'])
              else
                let shorter := if left.length < right.length then first else second
                let line := (left.take common).count '\n'
                let place : Text :=
                  if (left.take common).getLast? = some '\n' then
                    " after byte ".toList ++ showNat common ++ ", line ".toList ++ showNat line
                  else
                    " after byte ".toList ++ showNat common ++ ", in line ".toList
                      ++ showNat (line + 1)
                invocation.complain ("EOF on ".toList ++ shorter ++ place)
                pure (.exited 1)
        | .error refusal, _ =>
            invocation.complain (first ++ ": ".toList ++ refusal.message)
            pure (.exited 2)
        | _, .error refusal =>
            invocation.complain (second ++ ": ".toList ++ refusal.message)
            pure (.exited 2)
    | _ => misused invocation 2 "missing operand".toList

end Tool

end ApiSurface
