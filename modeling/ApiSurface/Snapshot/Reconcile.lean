import ApiSurface.Action
import ApiSurface.Snapshot.Mismatch
import ApiSurface.Snapshot.PackageMap

/-!
A snapshot is a directory tree with one directory for each package and one file for each entry.
Entries are written to it, compared with it, or only printed.  A comparison reports each mismatch
as it is found, and finds all of them before it is over.
-/

namespace ApiSurface

inductive Mode where
  | print
  | generate (root : Path)
  | compare (root : Path)
deriving DecidableEq, Repr

namespace Snapshot

variable {σ : Type}

def packageDirectory (root package : Text) : Text :=
  ((package.splitOn '.').filter fun segment => !segment.isEmpty).foldl Path.join root

def sourceEndings : List Text :=
  [".java", ".kt"].map String.toList

def isSourceName (name : Text) : Bool :=
  sourceEndings.any fun ending => name.endsWith ending

def printEntry (entry : Entry) : Action σ Unit := do
  Action.write ("-- package: ".toList ++ entry.package ++ ", name: ".toList ++ entry.fileName
    ++ ['\n'])
  Action.write entry.source
  if entry.source.getLast? ≠ some '\n' then Action.write ['\n']

def generateEntry (directory : Path) (entry : Entry) : Action σ Unit :=
  let path := Path.join directory entry.fileName
  Action.writeFile (fun _ => .system .writeFile path) path (Utf8.encode entry.source)

def generatePackage (directory : Path) (entries : List Entry) : Action σ Unit := do
  Action.createDirectories directory
  entries.forM (generateEntry directory)
  Action.note (.generated directory entries.length)

def record (mismatch : Mismatch) : Action σ Mismatch := do
  Action.note (.mismatched mismatch.path)
  Action.write (mismatch.render ++ ['\n'])
  pure mismatch

def compareEntry (package directory : Text) (entry : Entry) : Action σ (Option Mismatch) := do
  let path := Path.join directory entry.fileName
  let existing ← Action.ask? (.system .readFile path) fun files => files.file path
  match existing with
  | none => return some (← record (.missing package entry.fileName path))
  | some data =>
      if data.content = Utf8.encode entry.source then return none
      else
        return some
          (← record (.content path entry.source (Utf8.decodeLossy data.content)))

def compareEntries (package directory : Text) : List Entry → Action σ (List Mismatch)
  | [] => pure []
  | entry :: rest => do
      let found ← compareEntry package directory entry
      let later ← compareEntries package directory rest
      pure (found.toList ++ later)

def recordStale (directory : Path) : List Text → Action σ (List Mismatch)
  | [] => pure []
  | name :: rest => do
      let path := Path.join directory name
      let state ← get
      if isSourceName name && state.files.isFile path then
        let found ← record (.stale path)
        let later ← recordStale directory rest
        pure (found :: later)
      else recordStale directory rest

/-- Compares the entries of a package with the files of its directory.  The directory is created
if there is none. -/
def comparePackage (package directory : Text) (entries : List Entry) :
    Action σ (List Mismatch) := do
  let listed ← Action.ask? (.system .listDirectory directory) fun files => files.list directory
  Action.createDirectories directory
  let found ← compareEntries package directory entries
  let unclaimed := (listed.getD []).filter fun name =>
    !entries.any fun entry => entry.fileName = name
  let stale ← recordStale directory unclaimed
  let mismatches := found ++ stale
  Action.note (.compared package entries.length mismatches.length)
  pure mismatches

def reconcilePackage (mode : Mode) (package : Text) (entries : List Entry) :
    Action σ (List Mismatch) :=
  match mode with
  | .print => do
      entries.forM printEntry
      pure []
  | .generate root => do
      generatePackage (packageDirectory root package) entries
      pure []
  | .compare root => comparePackage package (packageDirectory root package) entries

def reconcileAll (mode : Mode) : List (Text × List Entry) → Action σ (List Mismatch)
  | [] => pure []
  | (package, entries) :: rest => do
      let found ← reconcilePackage mode package entries
      let later ← reconcileAll mode rest
      pure (found ++ later)

/-- Reconciles every package of a map with a snapshot, in the order of the map. -/
def reconcile (mode : Mode) (map : PackageMap) : Action σ (List Mismatch) :=
  reconcileAll mode map.packages

def verdict (mismatches : List Mismatch) : Except Failure Unit :=
  if mismatches.isEmpty then .ok () else .error (.comparisonFailed mismatches.length)

end Snapshot

end ApiSurface
