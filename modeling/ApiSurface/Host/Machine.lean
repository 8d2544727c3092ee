import ApiSurface.Script.Syntax
import ApiSurface.Host.Refusal

/-!
What programs share while they run: the files, and the streams that they have opened.  A stream
keeps its own position, so that programs that share a stream go on where another one stopped.
-/

namespace ApiSurface

namespace Host

open Script (Opening)

/-- Where a stream leads.  What is written into a buffer is kept from last to first. -/
inductive Target where
  | nothing
  | file (place : Place)
  | loose (content : Bytes)
  | buffer (written : List Text)

structure Stream where
  target : Target
  opening : Opening
  position : Nat := 0

def firstProcess : Nat := 4000

structure Machine where
  files : FileSystem
  /-- What the first process was called with, every word followed by a zero. -/
  commandLine : Bytes := []
  streams : Array Stream := #[]
  patience : Nat := 4000000
  processes : Nat := firstProcess
  /-- Signals on their way, with the processes they are for. -/
  signals : List (Nat × Nat) := []

def homePath : Text :=
  "/work".toList

abbrev Descriptors := List (Nat × Nat)

inductive Ending where
  | exited (status : Nat)
  | killed (signal : Nat)
deriving DecidableEq, Repr

def Ending.status : Ending → Nat
  | .exited status => status
  | .killed signal => 128 + signal

abbrev Act := StateM Machine

def located (directory path : Path) : Path :=
  let whole := if path.isEmpty then path else Path.join directory path
  if whole = homePath then ".".toList
  else if (homePath ++ ['/']).isPrefixOf whole then '.' :: whole.drop homePath.length
  else whole

def absolutePath (directory : Path) : Path :=
  if directory.isEmpty then homePath else Path.join homePath directory

def directoryAt (path : Path) : Path :=
  if path = homePath then []
  else if (homePath ++ ['/']).isPrefixOf path then path.drop (homePath.length + 1)
  else path

def devicePath (name : String) : Text :=
  "/dev/".toList ++ name.toList

def isDevice (path : Path) : Bool :=
  path = devicePath "null" || path = devicePath "zero" || path = devicePath "tty"

def firstProcessPath (name : String) : Text :=
  "/proc/".toList ++ Script.showNat firstProcess ++ '/' :: name.toList

def find? (directory path : Path) : Act (Option (Place × Node)) := do
  match find (← get).files (located directory path) with
  | .ok found => pure (some found)
  | .error _ => pure none

def addStream (stream : Stream) : Act Nat := do
  let machine ← get
  set { machine with streams := machine.streams.push stream }
  pure machine.streams.size

def stream? (index : Nat) : Act (Option Stream) := do
  pure (← get).streams[index]?

def setStream (index : Nat) (stream : Stream) : Act Unit :=
  modify fun machine => { machine with streams := machine.streams.setIfInBounds index stream }

def joined : List Text → Text
  | [] => []
  | [text] => text
  | written => written.reverse.flatten

def contentOf (files : FileSystem) : Target → Bytes
  | .nothing => []
  | .file place =>
      match at? files place with
      | some (.file data) => data.content
      | _ => []
  | .loose content => content
  | .buffer written => Script.toBytes (joined written)

def mayRead (stream : Stream) : Bool :=
  stream.opening = .reading || stream.opening = .both

def mayWrite (stream : Stream) : Bool :=
  stream.opening ≠ .reading

def unread (index : Nat) : Act (Except Refusal Text) := do
  let machine ← get
  match machine.streams[index]? with
  | none => pure (.error .badDescriptor)
  | some stream =>
      if !mayRead stream then pure (.error .badDescriptor)
      else
        match stream.target with
        | .buffer written => pure (.ok (joined written))
        | target =>
            match target with
            | .file place =>
                if let some (.directory _) := at? machine.files place then
                  return .error .isDirectory
            | _ => pure ()
            let content := contentOf machine.files target
            pure (.ok (Script.ofBytes (content.drop stream.position)))

def skip (index count : Nat) : Act Unit := do
  match ← stream? index with
  | none => pure ()
  | some stream =>
      match stream.target with
      | .buffer written =>
          setStream index { stream with target := .buffer [(joined written).drop count] }
      | _ => setStream index { stream with position := stream.position + count }

def overwritten (content : Bytes) (position : Nat) (bytes : Bytes) : Bytes :=
  content.take position ++ List.replicate (position - content.length) 0 ++ bytes
    ++ content.drop (position + bytes.length)

def write (index : Nat) (text : Text) : Act (Except Refusal Unit) := do
  let machine ← get
  match machine.streams[index]? with
  | none => pure (.error .badDescriptor)
  | some stream =>
      if !mayWrite stream then pure (.error .badDescriptor)
      else if text.isEmpty then pure (.ok ())
      else
        match stream.target with
        | .nothing => pure (.ok ())
        | .buffer written =>
            setStream index { stream with target := .buffer (text :: written) }
            pure (.ok ())
        | target =>
            let content := contentOf machine.files target
            let position :=
              if stream.opening = .appending then content.length else stream.position
            let bytes := Script.toBytes text
            let changed := overwritten content position bytes
            let moved := { stream with position := position + bytes.length }
            match target with
            | .file place =>
                let executable :=
                  match at? machine.files place with
                  | some (.file data) => data.executable
                  | _ => false
                set { machine with
                  files := store machine.files place (.file ⟨changed, executable⟩) }
                setStream index moved
            | _ => setStream index { moved with target := .loose changed }
            pure (.ok ())

def openNode (opening : Opening) (place : Place) : Node → Act (Except Refusal Stream)
  | .directory _ =>
      match opening with
      | .reading => pure (.ok ⟨.file place, opening, 0⟩)
      | _ => pure (.error .isDirectory)
  | .file data => do
      if opening = .writing || opening = .replacing then
        modify fun machine =>
          { machine with files := store machine.files place (.file ⟨[], data.executable⟩) }
      pure (.ok ⟨.file place, opening, 0⟩)

def openFile (directory path : Path) (opening : Opening) : Act (Except Refusal Nat) := do
  let machine ← get
  let actual := located directory path
  if isDevice actual then
    return .ok (← addStream ⟨.nothing, opening, 0⟩)
  if opening = .reading && actual = firstProcessPath "cmdline" then
    return .ok (← addStream ⟨.loose machine.commandLine, opening, 0⟩)
  match find machine.files actual with
  | .ok (place, node) =>
      match ← openNode opening place node with
      | .ok stream => return .ok (← addStream stream)
      | .error refusal => return .error refusal
  | .error .noEntry =>
      if opening = .reading then return .error .noEntry
      match place machine.files actual with
      | .error refusal => return .error refusal
      | .ok place =>
          if Path.demandsDirectory actual then return .error .isDirectory
          match at? machine.files ⟨place.absolute, place.location.dropLast⟩ with
          | some (.directory _) =>
              set { machine with files := store machine.files place (.file ⟨[], false⟩) }
              return .ok (← addStream ⟨.file place, opening, 0⟩)
          | _ => return .error .noEntry
  | .error refusal => return .error refusal

def loosen (place : Place) : Act Unit :=
  modify fun machine =>
    { machine with
      streams := machine.streams.map fun stream =>
        match stream.target with
        | .file other =>
            if place.absolute = other.absolute && place.location.isPrefixOf other.location then
              { stream with target := .loose (contentOf machine.files stream.target) }
            else stream
        | _ => stream }

def addBuffer (text : Text) (opening : Opening) : Act Nat :=
  addStream ⟨.buffer (if text.isEmpty then [] else [text]), opening, 0⟩

def bufferText (index : Nat) : Act Text := do
  match ← stream? index with
  | some ⟨.buffer written, _, _⟩ => pure (joined written)
  | _ => pure []

end Host

end ApiSurface
