import ApiSurface.Disassembly.Disassembler
import ApiSurface.Run.Config
import ApiSurface.Run.Library

/-!
The classes of an archive go to a disassembler in batches.  What it prints is read into entries,
and the entries are reconciled with a snapshot once all batches are through.
-/

namespace ApiSurface

namespace Extraction

variable {α σ : Type} [Archive.Reader]

def batchesAfter (size : Nat) : Nat → List α → List (List α)
  | _, [] => []
  | skipped + 1, _ :: rest => batchesAfter size skipped rest
  | 0, first :: rest => (first :: rest.take (size - 1)) :: batchesAfter size (size - 1) rest

/-- A list in batches of `size` elements, the last one of what remains.  Zero counts as one. -/
def batches (size : Nat) (elements : List α) : List (List α) :=
  batchesAfter size 0 elements

/-- The entries of batches, in order and with `index` batches before them.  The first failure ends
it. -/
def disassembleAll (disassemble : Disassembler σ) (jar : Path) :
    Nat → List (List Text) → Action σ (List Entry)
  | _, [] => pure []
  | index, batch :: rest => do
      let raw ← disassemble jar batch
      let parsed := Entry.parseAll raw
      Action.note (.parsed index batch.length parsed.length)
      let later ← disassembleAll disassemble jar (index + 1) rest
      pure (parsed ++ later)

def entries (disassemble : Disassembler σ) (jar : Path) (classes : List Text)
    (batchSize : Nat) : Action σ (List Entry) :=
  disassembleAll disassemble jar 0 (batches batchSize classes)

def packageMap (disassemble : Disassembler σ) (jar : Path) (batchSize : Nat) :
    Action σ PackageMap := do
  let classes ← Library.listClasses jar
  Action.note (.listed jar classes.length)
  let found ← entries disassemble jar classes batchSize
  pure (PackageMap.ofEntries found)

def run (config : RunConfig) (disassemble : Disassembler σ) (scratch : Path) :
    Action σ (List Mismatch) :=
  Library.withJar config.kind config.source scratch fun jar => do
    let map ← packageMap disassemble jar config.batchSize
    if map.isEmpty then Action.note (.nothingFound config.source)
    Action.note (.extracted map.packageCount map.entryCount)
    Snapshot.reconcile config.mode map

end Extraction

end ApiSurface
