import ApiSurface.Files.Folder
import ApiSurface.Files.Path

/-!
A file system as one program sees it: the tree below its working directory and the tree below the
top, which absolute paths reach.  An operation fails for want of something on the way, or because
something of the wrong kind stands there, or because the path itself is refused.
-/

namespace ApiSurface

/-- How long names and paths may be and how much a file at a location of one of the two trees may
hold, in bytes.  `none` sets no limit.  The last bound stands for whatever cuts a write short, be it
a limit on the sizes of files or a disk that is full by then, and stays the same during a run. -/
structure Limits where
  nameBytes : Option Nat := none
  pathBytes : Option Nat := none
  fileBytes : Bool → Location → Option Nat := fun _ _ => none

structure FileSystem where
  working : Folder := []
  top : Folder := []
  limits : Limits := {}

namespace FileSystem

inductive Fault where
  | absent
  | refused
deriving DecidableEq, Repr

def tree (files : FileSystem) (absolute : Bool) : Folder :=
  if absolute then files.top else files.working

def withTree (files : FileSystem) (absolute : Bool) (folder : Folder) : FileSystem :=
  if absolute then { files with top := folder } else { files with working := folder }

def fits (limit : Option Nat) (text : Text) : Bool :=
  match limit with
  | none => true
  | some bytes => (Utf8.encode text).length ≤ bytes

def admitsPath (files : FileSystem) (path : Path) : Bool :=
  !path.contains (Char.ofNat 0) && fits files.limits.pathBytes path

def admitsName (files : FileSystem) (name : Text) : Bool :=
  fits files.limits.nameBytes name

/-- Follows steps from a location.  Every step starts in a directory; where the last one leads
need not exist.  The two trees are taken to have nothing to do with each other: a step up from the
working directory stays there instead of leaving for what is around it. -/
def follow (files : FileSystem) (absolute : Bool) :
    Location → List Path.Step → Except Fault Location
  | here, [] => .ok here
  | here, step :: rest =>
      match (files.tree absolute).get? here with
      | none => .error .absent
      | some (.file _) => .error .refused
      | some (.directory _) =>
          match step with
          | .stay => files.follow absolute here rest
          | .up => files.follow absolute here.dropLast rest
          | .into name =>
              if files.admitsName name then files.follow absolute (here ++ [name]) rest
              else .error .refused

/-- Where a path leads. -/
def locate (files : FileSystem) (path : Path) : Except Fault Location :=
  if path.isEmpty then .error .absent
  else if files.admitsPath path then files.follow (Path.isAbsolute path) [] (Path.steps path)
  else .error .refused

/-- The node that a path stands for. -/
def node (files : FileSystem) (path : Path) : Except Fault Node :=
  match files.locate path with
  | .error fault => .error fault
  | .ok location =>
      match (files.tree (Path.isAbsolute path)).get? location with
      | none => .error .absent
      | some (.file data) =>
          if Path.demandsDirectory path then .error .refused else .ok (.file data)
      | some (.directory entries) => .ok (.directory entries)

def isPresent (files : FileSystem) (path : Path) : Bool :=
  match files.node path with
  | .ok _ => true
  | .error _ => false

def isFile (files : FileSystem) (path : Path) : Bool :=
  match files.node path with
  | .ok (.file _) => true
  | _ => false

def file (files : FileSystem) (path : Path) : Except Fault RegularFile :=
  match files.node path with
  | .ok (.file data) => .ok data
  | .ok (.directory _) => .error .refused
  | .error fault => .error fault

def list (files : FileSystem) (path : Path) : Except Fault (List Text) :=
  match files.node path with
  | .ok (.directory entries) => .ok (Folder.names entries)
  | .ok (.file _) => .error .refused
  | .error fault => .error fault

/-- Whether a file at a location may hold so much. -/
def HasRoom (files : FileSystem) (absolute : Bool) (location : Location) (content : Bytes) : Prop :=
  ∀ bytes ∈ files.limits.fileBytes absolute location, content.length ≤ bytes

instance (files : FileSystem) (absolute : Bool) (location : Location) (content : Bytes) :
    Decidable (files.HasRoom absolute location content) :=
  match ending : files.limits.fileBytes absolute location with
  | none => .isTrue (by simp [HasRoom, ending])
  | some bytes => decidable_of_iff (content.length ≤ bytes) (by simp [HasRoom, ending])

/-- As much of a content as there is room for at a location. -/
def portion (files : FileSystem) (absolute : Bool) (location : Location) (content : Bytes) :
    Bytes :=
  match files.limits.fileBytes absolute location with
  | none => content
  | some bytes => content.take bytes

/-- Why a file does not hold what was to be written. -/
inductive WriteFault where
  | unopened (fault : Fault)
  | full
deriving DecidableEq, Repr

/-- Writes a regular file over what it held before.  If there is no room for all of the content,
the file is left with the first part of it.  A file keeps being executable; a new one is not. -/
def write (files : FileSystem) (path : Path) (content : Bytes) :
    Except WriteFault Unit × FileSystem :=
  match files.locate path with
  | .error fault => (.error (.unopened fault), files)
  | .ok location =>
      let absolute := Path.isAbsolute path
      let folder := files.tree absolute
      let store (executable : Bool) : Except WriteFault Unit × FileSystem :=
        if Path.demandsDirectory path then (.error (.unopened .refused), files)
        else
          let stored := files.portion absolute location content
          (if files.HasRoom absolute location content then .ok () else .error .full,
            files.withTree absolute (folder.put (.file ⟨stored, executable⟩) location))
      match folder.get? location with
      | none => store false
      | some (.file data) => store data.executable
      | some (.directory _) => (.error (.unopened .refused), files)

/-- Creates the directories that are missing along steps.  Those created before a failure stay.  A
missing directory with nothing but stays behind it is not created. -/
def createAlong (files : FileSystem) (absolute : Bool) :
    Location → List Path.Step → Except Fault Unit × FileSystem
  | _, [] => (.ok (), files)
  | here, .stay :: rest => files.createAlong absolute here rest
  | here, .up :: rest => files.createAlong absolute here.dropLast rest
  | here, .into name :: rest =>
      if files.admitsName name then
        let next := here ++ [name]
        match (files.tree absolute).get? next with
        | some (.directory _) => files.createAlong absolute next rest
        | some (.file _) => (.error .refused, files)
        | none =>
            if !rest.isEmpty && rest.all (· = .stay) then (.error .absent, files)
            else
              (files.withTree absolute ((files.tree absolute).put (.directory []) next)).createAlong
                absolute next rest
      else (.error .refused, files)

/-- Creates a directory and those above it, as far as they are missing.  The empty path is the
working directory, which is there. -/
def createDirectories (files : FileSystem) (path : Path) : Except Fault Unit × FileSystem :=
  if path.isEmpty then (.ok (), files)
  else if files.admitsPath path then
    files.createAlong (Path.isAbsolute path) [] (Path.steps path)
  else (.error .refused, files)

/-- Creates one directory where nothing stands yet.  The one above it has to be there. -/
def createDirectory (files : FileSystem) (path : Path) : Except Fault FileSystem :=
  match files.locate path with
  | .error fault => .error fault
  | .ok location =>
      let absolute := Path.isAbsolute path
      let folder := files.tree absolute
      match folder.get? location with
      | none => .ok (files.withTree absolute (folder.put (.directory []) location))
      | some _ => .error .refused

def remove (files : FileSystem) (path : Path) : Except Fault FileSystem :=
  match files.node path, files.locate path with
  | .ok _, .ok location =>
      let absolute := Path.isAbsolute path
      .ok (files.withTree absolute ((files.tree absolute).erase location))
  | .error fault, _ => .error fault
  | _, .error fault => .error fault

def allowExecution (files : FileSystem) (path : Path) : Except Fault FileSystem :=
  match files.file path, files.locate path with
  | .ok data, .ok location =>
      let absolute := Path.isAbsolute path
      let folder := files.tree absolute
      .ok (files.withTree absolute
        (folder.put (.file { data with executable := true }) location))
  | .error fault, _ => .error fault
  | _, .error fault => .error fault

/-- Writes a file after creating the directories above it. -/
def plant (files : FileSystem) (path : Path) (content : Bytes) :
    Except Fault Unit × FileSystem :=
  let parent := (Path.steps path).dropLast
  if files.admitsPath path then
    match files.createAlong (Path.isAbsolute path) [] parent with
    | (.error fault, reached) => (.error fault, reached)
    | (.ok (), reached) =>
        match reached.write path content with
        | (.ok (), written) => (.ok (), written)
        | (.error (.unopened fault), written) => (.error fault, written)
        | (.error .full, written) => (.error .refused, written)
  else (.error .refused, files)

/-- Everything below the working directory by its path, in ascending order of paths, with the file
that stands there. -/
def listing (files : FileSystem) : List (Text × Option RegularFile) :=
  let found := (Folder.walk [] files.working).map fun (location, data) =>
    (List.intercalate ['/'] location, data)
  found.mergeSort fun left right => !decide (right.1 < left.1)

/-- Everything in both trees by its path, directories in front of what they hold. -/
def paths (files : FileSystem) : List (Text × Option RegularFile) :=
  let relative := (Folder.walk [] files.working).map fun (location, data) =>
    (List.intercalate ['/'] location, data)
  let absolute := (Folder.walk [] files.top).map fun (location, data) =>
    ('/' :: List.intercalate ['/'] location, data)
  relative ++ absolute

def changesSince (files earlier : FileSystem) : List (Text × Option RegularFile) :=
  let known := earlier.paths
  files.paths.filter fun entry => !known.contains entry

end FileSystem

end ApiSurface
