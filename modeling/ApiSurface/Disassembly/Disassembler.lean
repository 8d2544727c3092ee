import ApiSurface.Action

namespace ApiSurface

/-- A disassembler prints the classes of a jar that it is given the names of.  It may keep a state
of its own, and act on the rest of the state like any action. -/
abbrev Disassembler (σ : Type) := Path → List Text → Action σ Text

end ApiSurface
