import ApiSurface.Files.Path
import ApiSurface.Text.Quoted

/-! What a run notes down while it goes on.  Each event has a level, the part of the program that
it comes from, a message, and facts. -/

namespace ApiSurface

namespace Log

inductive Level where
  | error
  | warn
  | info
  | debug
  | trace
deriving DecidableEq, Repr

def Level.talkativeness : Level → Nat
  | .error => 1
  | .warn => 2
  | .info => 3
  | .debug => 4
  | .trace => 5

def Level.label : Level → Text
  | .error => "ERROR".toList
  | .warn => " WARN".toList
  | .info => " INFO".toList
  | .debug => "DEBUG".toList
  | .trace => "TRACE".toList

inductive Event where
  | compareWithoutOutput
  | starting (program : Path) (config : Text)
  | unpacked (aar jar : Path)
  | listed (jar : Path) (classes : Nat)
  | parsed (batch classes entries : Nat)
  | nothingFound (source : Path)
  | extracted (packages entries : Nat)
  | generated (directory : Path) (files : Nat)
  | compared (package : Text) (entries mismatches : Nat)
  | mismatched (path : Path)
  | disassemblerErrors (complaint : Text) (status : Option Nat) (classes : Nat)
deriving DecidableEq, Repr

namespace Event

def level : Event → Level
  | .compareWithoutOutput => .warn
  | .starting _ _ => .debug
  | .unpacked _ _ => .debug
  | .listed _ _ => .info
  | .parsed _ _ _ => .debug
  | .nothingFound _ => .warn
  | .extracted _ _ => .info
  | .generated _ _ => .debug
  | .compared _ _ _ => .debug
  | .mismatched _ => .debug
  | .disassemblerErrors _ _ _ => .warn

def root : Text :=
  "api_snapshot".toList

def origin (event : Event) : Text :=
  let within (part : String) : Text := root ++ "::".toList ++ part.toList
  match event with
  | .compareWithoutOutput => within "config"
  | .starting _ _ => root
  | .unpacked _ _ => within "archive"
  | .listed _ _ => within "extract"
  | .parsed _ _ _ => within "extract"
  | .nothingFound _ => within "extract"
  | .extracted _ _ => within "extract"
  | .generated _ _ => within "reconcile"
  | .compared _ _ _ => within "reconcile"
  | .mismatched _ => within "reconcile"
  | .disassemblerErrors _ _ _ => within "javap"

def message : Event → Text
  | .compareWithoutOutput =>
      "-c true has no effect without -o, printing entries instead".toList
  | .starting _ _ => "starting run".toList
  | .unpacked _ _ => "unpacked aar".toList
  | .listed _ _ => "listed classes".toList
  | .parsed _ _ _ => "parsed javap batch".toList
  | .nothingFound _ => "no public classes found".toList
  | .extracted _ _ => "extracted public entries".toList
  | .generated _ _ => "generated package".toList
  | .compared _ _ _ => "compared package".toList
  | .mismatched _ => "mismatch".toList
  | .disassemblerErrors complaint _ _ => "javap reported errors: ".toList ++ complaint

def shownStatus : Option Nat → Text
  | some code => "Some(".toList ++ Nat.toDigits 10 code ++ ")".toList
  | none => "None".toList

def facts (event : Event) : List (Text × Text) :=
  let named (name : String) (value : Text) : Text × Text := (name.toList, value)
  let counted (name : String) (value : Nat) : Text × Text :=
    (name.toList, Nat.toDigits 10 value)
  match event with
  | .compareWithoutOutput => []
  | .starting program config => [named "javap" program, named "config" config]
  | .unpacked aar jar => [named "aar" aar, named "jar" jar]
  | .listed jar classes => [named "jar" jar, counted "classes" classes]
  | .parsed batch classes entries =>
      [counted "batch" batch, counted "classes" classes, counted "entries" entries]
  | .nothingFound source => [named "source" source]
  | .extracted packages entries => [counted "packages" packages, counted "entries" entries]
  | .generated directory files => [named "dir" directory, counted "files" files]
  | .compared package entries mismatches =>
      [named "package" (Quoted.encode package), counted "entries" entries,
        counted "mismatches" mismatches]
  | .mismatched path => [named "path" path]
  | .disassemblerErrors _ status classes =>
      [named "status" (shownStatus status), counted "classes" classes]

def hasFact (event : Event) (name : Text) : Bool :=
  name = "message".toList || event.facts.any fun fact => fact.1 = name

def isWarning (event : Event) : Bool :=
  event.level = .warn

end Event

end Log

end ApiSurface
