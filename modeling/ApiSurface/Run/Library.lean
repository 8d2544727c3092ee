import ApiSurface.Action

/-! Library archives as files: which classes they hold, and how the inner archive of an aar comes
out. -/

namespace ApiSurface

namespace Library

variable {σ : Type} [Archive.Reader]

def readBytes (path : Path) : Action σ Bytes := do
  let node ← Action.ask (.system .openFile path) fun files => files.node path
  match node with
  | .file data => pure data.content
  | .directory _ => throw (.system .mapFile path)

def openArchive (kind : InputKind) (path : Path) : Action σ Archive := do
  let bytes ← readBytes path
  match Archive.read? bytes with
  | some archive => pure archive
  | none => throw (.unreadableArchive kind path)

def listClasses (jar : Path) : Action σ (List Text) := do
  let archive ← openArchive .jar jar
  match archive.classNames with
  | .ok names => pure names
  | .error fault => throw (.inaccessibleMember fault)

/-- Unpacks the inner archive of an aar into a directory, and gives the path of the file there.  If
the inner archive is damaged, the file holds what could be unpacked. -/
def extractInnerJar (aar destination : Path) : Action σ Text := do
  let archive ← openArchive .aar aar
  match archive.find? innerJarName with
  | none => throw (.missingInnerJar aar)
  | some member =>
      match member.access with
      | .error _ => throw (.inaccessibleInnerJar aar)
      | .ok stored => do
          let target := Path.join destination innerJarName
          let (content, sound) := stored.unpack
          let failure : FileSystem.WriteFault → Failure
            | .unopened _ => .system .createFile target
            | .full => .system .unpackInnerJar aar
          Action.writeFile failure target content
          if sound then pure target else throw (.system .unpackInnerJar aar)

/-- Runs an action on the jar that an input stands for: the input itself, or what is unpacked from
it into a scratch directory. -/
def withJar {α : Type} (kind : InputKind) (source scratch : Path)
    (action : Path → Action σ α) : Action σ α :=
  match kind with
  | .jar => action source
  | .aar => Action.withScratch scratch do
      let jar ← extractInnerJar source scratch
      Action.note (.unpacked source jar)
      action jar

/-- The jar that an input stands for and its classes, or why they cannot be listed. -/
def inspect (kind : InputKind) (source scratch : Path) :
    Action σ (Text × Except Failure (List Text)) :=
  withJar kind source scratch fun jar state =>
    match listClasses jar state with
    | .ok names after => .ok (jar, .ok names) after
    | .error failure after => .ok (jar, .error failure) after

end Library

end ApiSurface
