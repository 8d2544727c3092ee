import ApiSurface.Script.Expansion

/-! Redirections: which streams the descriptors of a command stand for. -/

namespace ApiSurface

namespace Script

open Host (Refusal Descriptors)

inductive Prepared where
  | file (descriptor : Nat) (opening : Opening) (path : Text)
  | duplicate (descriptor : Nat) (source : Option Nat)
  | document (descriptor : Nat) (index : Nat)
deriving DecidableEq, Repr

def Descriptors.assign (descriptors : Descriptors) (descriptor stream : Nat) : Descriptors :=
  (descriptor, stream) :: descriptors.filter fun entry => entry.1 ≠ descriptor

def Descriptors.close (descriptors : Descriptors) (descriptor : Nat) : Descriptors :=
  descriptors.filter fun entry => entry.1 ≠ descriptor

section

variable (below : Interpreter)

/-- Gives up on a descriptor that is none.  This counts as a mistake in the script as far as it has
been read. -/
def badDescriptor {α : Type} : Run α := do
  Run.change fun shell => { shell with line := shell.lineRead }
  Run.fail "Syntax error: Bad fd number".toList

def prepare : Redirection → Run Prepared
  | .file descriptor opening target => do
      pure (.file descriptor opening (← expandText below { tilde := true } target))
  | .duplicate descriptor source => do
      match ← expandFields below source with
      | [] => Run.fail "Bad redirection".toList
      | ['-'] :: _ => pure (.duplicate descriptor none)
      | [digit] :: _ =>
          if digit.isDigit then pure (.duplicate descriptor (some (digitValue digit)))
          else badDescriptor
      | _ => badDescriptor
  | .document descriptor index => pure (.document descriptor index)

def openMessage (opening : Opening) (path : Text) (refusal : Refusal) : Text :=
  let reads : Bool := opening = .reading
  let reason :=
    match refusal with
    | .noEntry | .notDirectory =>
        if reads then "No such file".toList else "Directory nonexistent".toList
    | _ => refusal.message
  "cannot ".toList ++ (if reads then "open ".toList else "create ".toList) ++ path ++ ": ".toList
    ++ reason

def isKept (shell : Shell) (path : Text) : Run Bool := do
  match ← Run.host (Host.find? shell.directory (toText path)) with
  | some (_, .file _) => pure shell.options.keepsFiles
  | _ => pure false

def redirectOne (prepared : Prepared) : Run Unit := do
  let shell ← Run.shell
  let assign (descriptor stream : Nat) : Run Unit :=
    Run.change fun shell =>
      { shell with descriptors := Descriptors.assign shell.descriptors descriptor stream }
  match prepared with
  | .file descriptor opening path =>
      if opening = .writing && (← isKept shell path) then
        Run.fail (openMessage opening path .alreadyThere)
      match ← Run.host (Host.openFile shell.directory (toText path) opening) with
      | .ok stream => assign descriptor stream
      | .error refusal => Run.fail (openMessage opening path refusal)
  | .duplicate descriptor none =>
      Run.change fun shell =>
        { shell with descriptors := Descriptors.close shell.descriptors descriptor }
  | .duplicate descriptor (some source) =>
      if source ≠ descriptor then
        match shell.descriptors.lookup source with
        | some stream => assign descriptor stream
        | none => Run.fail (showNat source ++ ": ".toList ++ Refusal.badDescriptor.message)
  | .document descriptor index =>
      match shell.documents.lookup index with
      | none => pure ()
      | some document =>
          let text ←
            if document.expands then expandText below { quoted := true } document.body
            else pure document.body.unquoted
          let stream ← Run.host (Host.addBuffer text .reading)
          assign descriptor stream

/-- Redirects the descriptors of the shell.  Tells whether all redirections were possible. -/
def redirect (prepared : List Prepared) : Run Bool := do
  let possible ← Run.succeeds (prepared.forM (redirectOne below))
  if !possible then Run.setStatus 2
  pure possible

def keepingDescriptors {α : Type} (step : Run α) : Run α := do
  let before := (← Run.shell).descriptors
  Run.andThen step (Run.change fun shell => { shell with descriptors := before })

end

end Script

end ApiSurface
