import ApiSurface.Host.Invocation

namespace ApiSurface

namespace Host

inductive Format where
  | script (interpreter : Text) (argument : Option Text)
  | program (name : Text)
  | unknown

namespace Format

def isBlank (c : Char) : Bool :=
  c = ' ' || c = '\t'

def zero : Char :=
  Char.ofNat 0

def headLength : Nat := 256

def programMark : Text :=
  Char.ofNat 0x7f :: "ELF".toList

def endsName (c : Char) : Bool :=
  isBlank c || c = zero

/-- The line that names the interpreter, without the blanks at its end.  A line that is longer than
what is looked at still counts if the name of the interpreter ends before. -/
def interpreterLine? (head : Text) : Option Text :=
  let line := head.takeWhile fun c => c ≠ '\n' && c ≠ zero
  if (head.drop line.length).head? = some '\n' then
    some (line.reverse.dropWhile isBlank).reverse
  else
    let name := head.dropWhile isBlank
    if name.any endsName then some head.dropLast else none

def ofLine (line : Text) : Format :=
  let named := line.dropWhile isBlank
  let interpreter := named.takeWhile fun c => !endsName c
  let behind := named.drop interpreter.length
  let argument := (behind.dropWhile isBlank).takeWhile (· ≠ zero)
  if interpreter.isEmpty then .unknown
  else .script interpreter (if argument.isEmpty then none else some argument)

def ofContent (content : Text) : Format :=
  let filled := content.take headLength ++ List.replicate (headLength - content.length) zero
  if "#!".toList.isPrefixOf filled then
    match interpreterLine? (filled.drop 2) with
    | some line => ofLine line
    | none => .unknown
  else if programMark.isPrefixOf content then .program (content.drop programMark.length)
  else .unknown

end Format

def programContent (name : Text) : Bytes :=
  Script.toBytes (Format.programMark ++ name)

def interpreterDepth : Nat := 6

/-- Starts the program in a file.  A script starts its interpreter with the path of the script. -/
def launchAt (first : FirstProgram) (start : Text → Invocation → Act Ending) :
    Nat → Text → Invocation → Act (Except Refusal Ending)
  | 0, _, _ => pure (.error .tooManySteps)
  | depth + 1, path, invocation => do
      let actual := located invocation.directory (Script.toText path)
      if actual = firstProcessPath "exe" then return .ok (← first.start invocation)
      match find (← get).files actual with
      | .error refusal => pure (.error refusal)
      | .ok (_, .directory _) => pure (.error .accessDenied)
      | .ok (_, .file data) =>
          if !data.executable then pure (.error .accessDenied)
          else
            match Format.ofContent (Script.ofBytes data.content) with
            | .unknown => pure (.error .unknownFormat)
            | .program name => return .ok (← start name invocation)
            | .script interpreter argument =>
                launchAt first start depth interpreter
                  { invocation with
                    name := interpreter
                    arguments := argument.toList ++ path :: invocation.arguments }

end Host

end ApiSurface
