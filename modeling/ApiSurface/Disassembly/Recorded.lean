import ApiSurface.Disassembly.Disassembler

/-!
A disassembler that prints texts given beforehand and keeps a list of the calls made to it.
-/

namespace ApiSurface

namespace Recorded

structure Listing where
  failOn : Option Text
  blocks : List (Text × Text)
  fallback : Option Text
deriving DecidableEq, Repr

abbrev Call := Text × List Text

def namePlace : Text :=
  ['{', 'n', 'a', 'm', 'e', '}']

/-- What is printed for a class.  The fallback stands for all classes without a text of their
own. -/
def Listing.textOf (listing : Listing) (name : Text) : Text :=
  match listing.blocks.lookup name with
  | some text => text
  | none =>
      match listing.fallback with
      | some text => text.substitute namePlace name
      | none => []

def Listing.textsOf (listing : Listing) : List Text → Except Failure Text
  | [] => .ok []
  | name :: rest =>
      if listing.failOn = some name then
        .error (.disassembler ("disassembler failed on ".toList ++ name))
      else
        match listing.textsOf rest with
        | .error failure => .error failure
        | .ok later => .ok (listing.textOf name ++ later)

def disassemble (listing : Listing) : Disassembler (List Call) := fun jar classes => do
  modify fun state => { state with disassembler := state.disassembler ++ [(jar, classes)] }
  match listing.textsOf classes with
  | .ok text => pure text
  | .error failure => throw failure

end Recorded

end ApiSurface
