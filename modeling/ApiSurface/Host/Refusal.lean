import ApiSurface.Files.FileSystem

/-!
Why the system refuses a program something, in the words that programs use for it, and where paths
lead for a program that has a directory of its own.
-/

namespace ApiSurface

namespace Host

inductive Refusal where
  | noEntry
  | notDirectory
  | isDirectory
  | alreadyThere
  | notEmpty
  | accessDenied
  | nameTooLong
  | badDescriptor
  | unknownFormat
  | invalid
  | tooManySteps
deriving DecidableEq, Repr

def Refusal.message : Refusal → Text
  | .noEntry => "No such file or directory".toList
  | .notDirectory => "Not a directory".toList
  | .isDirectory => "Is a directory".toList
  | .alreadyThere => "File exists".toList
  | .notEmpty => "Directory not empty".toList
  | .accessDenied => "Permission denied".toList
  | .nameTooLong => "File name too long".toList
  | .badDescriptor => "Bad file descriptor".toList
  | .unknownFormat => "Exec format error".toList
  | .invalid => "Invalid argument".toList
  | .tooManySteps => "Too many levels of symbolic links".toList

structure Place where
  absolute : Bool
  location : Location
deriving DecidableEq, Repr

def at? (files : FileSystem) (place : Place) : Option Node :=
  (files.tree place.absolute).get? place.location

def store (files : FileSystem) (place : Place) (node : Node) : FileSystem :=
  files.withTree place.absolute ((files.tree place.absolute).put node place.location)

def discard (files : FileSystem) (place : Place) : FileSystem :=
  files.withTree place.absolute ((files.tree place.absolute).erase place.location)

def follow (files : FileSystem) (absolute : Bool) :
    Location → List Path.Step → Except Refusal Location
  | here, [] => .ok here
  | here, step :: rest =>
      match (files.tree absolute).get? here with
      | none => .error .noEntry
      | some (.file _) => .error .notDirectory
      | some (.directory _) =>
          match step with
          | .stay => follow files absolute here rest
          | .up => follow files absolute here.dropLast rest
          | .into name =>
              if files.admitsName name then follow files absolute (here ++ [name]) rest
              else .error .nameTooLong

def place (files : FileSystem) (path : Path) : Except Refusal Place := do
  if path.isEmpty then throw .noEntry
  if path.contains (Char.ofNat 0) then throw .noEntry
  if !FileSystem.fits files.limits.pathBytes path then throw .nameTooLong
  let absolute := Path.isAbsolute path
  pure ⟨absolute, ← follow files absolute [] (Path.steps path)⟩

def find (files : FileSystem) (path : Path) : Except Refusal (Place × Node) := do
  let place ← place files path
  match at? files place with
  | none => throw .noEntry
  | some (.file data) =>
      if Path.demandsDirectory path then throw .notDirectory
      pure (place, .file data)
  | some node => pure (place, node)

end Host

end ApiSurface
