import ApiSurface.Run.Program

/-!
The command line program.  It loads what a run can touch, the archive, the output directory and the
disassembler script, runs on that, and then saves what the run has changed.
-/

namespace ApiSurface

namespace Main

def variableNames : List Text :=
  [Environment.javapVariable, Environment.batchSizeVariable, Environment.javaHomeVariable,
    Environment.logVariable, Environment.plainVariable, Environment.scratchVariable,
    Environment.searchVariable, Environment.homeVariable]

/-- The name of the directory in which an aar is unpacked.  It exists only while the program
runs. -/
def scratchName : Text :=
  "api-snapshot-scratch".toList

def readEnvironment : IO Environment :=
  variableNames.filterMapM fun name => do
    let value ← IO.getEnv (String.ofList name)
    pure (value.map fun text => (name, text.toList))

/-- Loads a file, or a directory with everything in it.  What cannot be read is left out. -/
partial def load (files : FileSystem) (path : Path) : IO FileSystem := do
  try
    let real ← IO.FS.realPath (String.ofList path)
    if ← real.isDir then
      let found ← real.readDir
      found.foldlM
        (fun loaded entry => load loaded (Path.join path entry.fileName.toList))
        (files.createDirectories path).2
    else
      let content ← IO.FS.readBinFile real
      let loaded := (files.plant path content.toList).2
      match loaded.allowExecution path with
      | .ok allowed => pure allowed
      | .error _ => pure loaded
  catch _ => pure files

def loadDirectory (files : FileSystem) (path : Path) : IO FileSystem := do
  try
    let real ← IO.FS.realPath (String.ofList path)
    if ← real.isDir then pure (files.createDirectories path).2 else pure files
  catch _ => pure files

def save (change : Text × Option RegularFile) : IO Unit :=
  match change with
  | (path, none) => IO.FS.createDirAll (String.ofList path)
  | (path, some data) => IO.FS.writeBinFile (String.ofList path) data.content.toByteArray

/-- What a run may read: the archive, the output directory, and the script it calls. -/
def inputs (arguments : List Text) (environment : Environment) : List Text :=
  match CommandLine.parse arguments with
  | .error _ => []
  | .ok commandLine =>
      let home := (environment.lookup Environment.javaHomeVariable).map fun directory =>
        Path.join (Path.join directory "bin".toList) Javap.programName
      let searchPath :=
        (environment.lookup Environment.searchVariable).getD Host.standardSearchPath
      let named := (environment.lookup Environment.javapVariable).getD Javap.programName
      [commandLine.path] ++ commandLine.output.toList ++ home.toList
        ++ Host.candidates searchPath named

end Main

end ApiSurface

open ApiSurface in
def main (arguments : List String) : IO UInt32 := do
  let started ← IO.monoMsNow
  let given := arguments.map String.toList
  let environment ← Main.readEnvironment
  let found ← (Main.inputs given environment).foldlM Main.load { top := Script.systemFolder }
  let files ← Main.loadDirectory found environment.scratchParent
  let ended := Program.run given environment Main.scratchName files
  (ended.files.changesSince files).forM Main.save
  let finished ← IO.monoMsNow
  IO.print (String.ofList (ended.printed (Nat.toDigits 10 (finished - started))))
  IO.eprint (String.ofList ended.complaints)
  pure (UInt32.ofNat ended.status)
