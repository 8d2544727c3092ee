import ApiSurface.Disassembly.Entry

/-!
Entries by package.  Packages are in ascending order, the entries of one package in the order in
which they came.
-/

namespace ApiSurface

structure PackageMap where
  packages : List (Text × List Entry)
deriving DecidableEq, Repr

namespace PackageMap

def insertInto (entry : Entry) : List (Text × List Entry) → List (Text × List Entry)
  | [] => [(entry.package, [entry])]
  | (package, entries) :: rest =>
      if entry.package = package then (package, entries ++ [entry]) :: rest
      else if entry.package < package then
        (entry.package, [entry]) :: (package, entries) :: rest
      else (package, entries) :: insertInto entry rest

def insert (map : PackageMap) (entry : Entry) : PackageMap :=
  ⟨insertInto entry map.packages⟩

def ofEntries (entries : List Entry) : PackageMap :=
  entries.foldl insert ⟨[]⟩

def packageCount (map : PackageMap) : Nat :=
  map.packages.length

def entries (map : PackageMap) : List Entry :=
  map.packages.flatMap Prod.snd

def entryCount (map : PackageMap) : Nat :=
  map.entries.length

def isEmpty (map : PackageMap) : Bool :=
  map.packages.isEmpty

end PackageMap

end ApiSurface
