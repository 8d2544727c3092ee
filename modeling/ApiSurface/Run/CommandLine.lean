import ApiSurface.Files.Path

/-!
The command line names an archive, and optionally an output directory and whether to compare.
Arguments are read from left to right.  A value that stands in an argument of its own is checked
only when the next flag or name begins.
-/

namespace ApiSurface

structure CommandLine where
  path : Path
  output : Option Path
  compare : Bool
deriving DecidableEq, Repr

inductive UsageError where
  | missingPath
  | unknownArgument
  | invalidValue
  | repeatedFlag
  | helpRequested
deriving DecidableEq, Repr

def UsageError.message : UsageError → Text
  | .missingPath => "error: the path of an archive is missing".toList
  | .unknownArgument => "error: unexpected argument".toList
  | .invalidValue => "error: a value is missing or invalid".toList
  | .repeatedFlag => "error: a flag is given more than once".toList
  | .helpRequested => []

namespace CommandLine

inductive Flag where
  | output
  | compare
deriving DecidableEq, Repr

inductive Pending where
  | path (value : Text)
  | flag (flag : Flag) (value : Option Text)
deriving DecidableEq, Repr

structure Reading where
  path : Option Path := none
  output : Option Path := none
  compare : Option Bool := none
  pending : Option Pending := none
deriving DecidableEq, Repr

def Reading.take (reading : Reading) (value : Text) : Flag → Except UsageError Reading
  | .output =>
      if reading.output.isSome then .error .repeatedFlag
      else if value.isEmpty then .error .invalidValue
      else .ok { reading with output := some value }
  | .compare =>
      if reading.compare.isSome then .error .repeatedFlag
      else if value = "true".toList then .ok { reading with compare := some true }
      else if value = "false".toList then .ok { reading with compare := some false }
      else .error .invalidValue

def Reading.settle (reading : Reading) : Except UsageError Reading :=
  let settled := { reading with pending := none }
  match reading.pending with
  | none => .ok settled
  | some (.path value) =>
      if value.isEmpty then .error .invalidValue else .ok { settled with path := some value }
  | some (.flag _ none) => .error .invalidValue
  | some (.flag flag (some value)) => settled.take value flag

def Reading.begin (reading : Reading) (pending : Pending) : Except UsageError Reading :=
  reading.settle.map fun settled => { settled with pending := some pending }

def Reading.hasPath (reading : Reading) : Bool :=
  match reading.pending with
  | some (.path _) => true
  | _ => reading.path.isSome

def Reading.place (reading : Reading) (argument : Text) : Except UsageError Reading :=
  if reading.hasPath then .error .unknownArgument else reading.begin (.path argument)

/-- A flag, with the text that is attached to it.  One equals sign in front of that is dropped. -/
def Reading.flag (reading : Reading) (flag : Flag) : Text → Except UsageError Reading
  | [] => reading.begin (.flag flag none)
  | '=' :: value => reading.settle.bind fun settled => settled.take value flag
  | value => reading.settle.bind fun settled => settled.take value flag

/-- An argument that is no flag: the value that a flag waits for, or the path. -/
def Reading.plain (reading : Reading) (argument : Text) : Except UsageError Reading :=
  match reading.pending with
  | some (.flag flag none) => .ok { reading with pending := some (.flag flag (some argument)) }
  | _ => reading.place argument

def Reading.argument (reading : Reading) : Text → Except UsageError Reading
  | '-' :: '-' :: _ => .error .unknownArgument
  | '-' :: 'h' :: _ => reading.settle.bind fun _ => .error .helpRequested
  | '-' :: 'o' :: attached => reading.flag .output attached
  | '-' :: 'c' :: attached => reading.flag .compare attached
  | '-' :: _ :: _ => .error .unknownArgument
  | argument => reading.plain argument

def readPaths : Reading → List Text → Except UsageError Reading
  | reading, [] => .ok reading
  | reading, argument :: rest =>
      match reading.place argument with
      | .error problem => .error problem
      | .ok next => readPaths next rest

/-- Reads all arguments.  Behind two dashes alone there are no more flags. -/
def read : Reading → List Text → Except UsageError Reading
  | reading, [] => .ok reading
  | reading, argument :: rest =>
      if argument = "--".toList then readPaths reading rest
      else
        match reading.argument argument with
        | .error problem => .error problem
        | .ok next => read next rest

/-- The command line that arguments make.  Arguments are read by a library of its own, and this is
how it is taken to read them: flags are single letters and may stand anywhere, `-oV`, `-o=V` and
`-o V` are the same, the value of a flag does not begin with a dash unless it is one, a flag given
twice is refused, and `-h` acts at once. -/
def parse (arguments : List Text) : Except UsageError CommandLine :=
  match read {} arguments with
  | .error problem => .error problem
  | .ok reading =>
      match reading.settle with
      | .error problem => .error problem
      | .ok settled =>
          match settled.path with
          | none => .error .missingPath
          | some path => .ok ⟨path, settled.output, settled.compare.getD false⟩

def help : Text :=
  ("Usage: api-snapshot [OPTIONS] <PATH>\n\n"
    ++ "Arguments:\n"
    ++ "  <PATH>  Path to a .jar or .aar file\n\n"
    ++ "Options:\n"
    ++ "  -o <DIR>         Folder for generated/compared public entries; "
    ++ "entries are printed when absent\n"
    ++ "  -c <true|false>  Compare generated entries with the existing files "
    ++ "instead of writing them [default: false] [possible values: true, false]\n"
    ++ "  -h               Show this help message and exit\n").toList

end CommandLine

end ApiSurface
