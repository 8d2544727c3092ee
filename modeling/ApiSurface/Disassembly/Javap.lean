import ApiSurface.Disassembly.Disassembler
import ApiSurface.Environment
import ApiSurface.Script.Launching
import ApiSurface.Text.Blank

/-!
The disassembler that is a program of its own.  It is given the jar and the class names as
arguments, and what it prints is the disassembly, whatever its exit status.
-/

namespace ApiSurface

namespace Javap

variable {σ : Type}

def programName : Text :=
  "javap".toList

/-- Which program to run: the one that the environment names, or that of the Java installation it
names, or the one on the search path. -/
def resolve (environment : Environment) (files : FileSystem) : Text :=
  match environment.lookup Environment.javapVariable with
  | some path => path
  | none =>
      match environment.lookup Environment.javaHomeVariable with
      | none => programName
      | some home =>
          let candidate := Path.join (Path.join home "bin".toList) programName
          if files.isPresent candidate then candidate else programName

def arguments (jar : Path) (classes : List Text) : List Text :=
  "-public".toList :: "-cp".toList :: jar :: classes

def isPassable (argument : Text) : Bool :=
  !argument.contains (Char.ofNat 0)

def disassembleFrom (first : Host.FirstProgram) (environment : Environment) (program : Path) :
    Disassembler σ :=
  fun jar classes => do
    let state ← get
    let given := arguments jar classes
    if !(program :: given).all isPassable then throw (.system .execute program)
    match Script.execute first state.files environment program given with
    | .error _ => throw (.system .execute program)
    | .ok finished =>
        set { state with files := finished.files }
        if finished.status ≠ some 0 then
          Action.note (.disassemblerErrors (Utf8.decodeLossy finished.errors).trim
            finished.status classes.length)
        pure (Utf8.decodeLossy finished.output)

/-- The disassembler of a program that cannot be started again. -/
def disassemble (environment : Environment) (program : Path) : Disassembler σ :=
  disassembleFrom {} environment program

end Javap

end ApiSurface
