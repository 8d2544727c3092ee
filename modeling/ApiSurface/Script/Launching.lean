import ApiSurface.Host.Format
import ApiSurface.Script.Startup
import ApiSurface.Tool.Table

/-!
The interpreter as a whole, and the system that its programs belong to.  An interpreter works with
one of a lower level for what is inside of words and commands, down to a last level on which every
program is at its end.
-/

namespace ApiSurface

namespace Script

open Host

def shellNames : List Text :=
  ["sh", "dash", "bash"].map String.toList

def startProgram (below : Interpreter) (name : Text) (invocation : Invocation) : Act Ending :=
  if shellNames.contains name then runShell below invocation
  else
    match Tool.table.lookup name with
    | some tool => tool below.launch invocation
    | none => pure (.exited 127)

def launchWith (first : FirstProgram) (below : Interpreter) : Launcher :=
  launchAt first (startProgram below) interpreterDepth

def Interpreter.ofLevel (first : FirstProgram) : Nat → Interpreter
  | 0 =>
      { expand := fun _ _ => throw (.killed 11)
        run := fun _ _ => throw (.killed 11)
        script := fun _ _ => throw (.killed 11)
        launch := fun _ _ => pure (.ok (.killed 11)) }
  | level + 1 =>
      let below := ofLevel first level
      { expand := expandWord below
        run := runCommand below
        script := runScript below
        launch := launchWith first below }

def Interpreter.standard (first : FirstProgram) : Interpreter :=
  ofLevel first 12000

def programFolder (names : List Text) : Node :=
  .directory (names.map fun name => (name, .file ⟨programContent name, true⟩))

def systemFolder : Folder :=
  let programs := programFolder (shellNames ++ Tool.table.map Prod.fst)
  let none : Node := .directory []
  let nested (names : List (String × Node)) : Node :=
    .directory (names.map fun (name, node) => (name.toList, node))
  [("bin", programs), ("dev", none), ("etc", none), ("home", none), ("root", none),
    ("sbin", none), ("tmp", none),
    ("usr", nested [("bin", programs), ("lib", none), ("sbin", none),
      ("local", nested [("bin", none), ("sbin", none)])]),
    ("var", nested [("tmp", none)])].map fun (name, node) => (name.toList, node)

structure Finished where
  status : Option Nat
  output : Bytes
  errors : Bytes
  files : FileSystem

def execute (first : FirstProgram) (files : FileSystem) (environment : List (Text × Text))
    (name : Text) (arguments : List Text) : Except Refusal Finished :=
  let attempt : Act (Except Refusal Finished) := do
    let input ← addStream ⟨.nothing, .reading, 0⟩
    let output ← addBuffer [] .writing
    let errors ← addBuffer [] .writing
    modify fun machine => { machine with processes := machine.processes + 1 }
    let invocation : Invocation :=
      { name := ofText name
        arguments := arguments.map ofText
        environment := environment.map fun (key, value) => (ofText key, ofText value)
        descriptors := [(0, input), (1, output), (2, errors)]
        directory := [] }
    match ← launchNamed (Interpreter.standard first).launch (ofText name) invocation with
    | .error refusal => pure (.error refusal)
    | .ok ending =>
        let status : Option Nat :=
          match ending with
          | .exited status => some status
          | .killed _ => none
        pure (.ok {
          status
          output := toBytes (← bufferText output)
          errors := toBytes (← bufferText errors)
          files := (← get).files })
  let commandLine := first.words.flatMap fun word => toBytes (ofText word ++ [zero])
  (attempt { files, commandLine }).1

end Script

end ApiSurface
