import ApiSurface.Text.Utf8

/-!
A folder holds named nodes, each a regular file or a folder again.  A location is the list of
names that lead to a node.
-/

namespace ApiSurface

structure RegularFile where
  content : Bytes
  executable : Bool
deriving DecidableEq, Repr

inductive Node where
  | file (data : RegularFile)
  | directory (entries : List (Text × Node))

abbrev Folder := List (Text × Node)

abbrev Location := List Text

namespace Folder

/-- The folder in which `name` stands for `node` and every other name for what it did. -/
def assign (folder : Folder) (name : Text) (node : Node) : Folder :=
  match folder with
  | [] => [(name, node)]
  | (key, old) :: rest =>
      if key = name then (key, node) :: rest else (key, old) :: assign rest name node

def discard (folder : Folder) (name : Text) : Folder :=
  folder.filter fun entry => entry.1 ≠ name

/-- The node at a location.  The folder itself stands at the empty one. -/
def get? (folder : Folder) : Location → Option Node
  | [] => some (.directory folder)
  | name :: rest =>
      match folder.lookup name with
      | none => none
      | some (.directory inner) => get? inner rest
      | some (.file data) => if rest.isEmpty then some (.file data) else none

/-- Places a node at a location whose parent is there.  Nothing happens otherwise. -/
def put (folder : Folder) (node : Node) : Location → Folder
  | [] => folder
  | name :: rest =>
      if rest.isEmpty then folder.assign name node
      else
        match folder.lookup name with
        | some (.directory inner) => folder.assign name (.directory (put inner node rest))
        | _ => folder

/-- Removes the node at a location, with everything below it. -/
def erase (folder : Folder) : Location → Folder
  | [] => []
  | name :: rest =>
      if rest.isEmpty then folder.discard name
      else
        match folder.lookup name with
        | some (.directory inner) => folder.assign name (.directory (erase inner rest))
        | _ => folder

/-- The names in a folder, each once and in ascending order. -/
def names (folder : Folder) : List Text :=
  ((folder.map Prod.fst).mergeSort fun left right => !decide (right < left)).eraseDups

mutual

/-- A node and everything below it, with the location of each and the file that stands there. -/
def walkNode (location : Location) : Node → List (Location × Option RegularFile)
  | .file data => [(location, some data)]
  | .directory entries => (location, none) :: walk location entries

def walk (location : Location) : List (Text × Node) → List (Location × Option RegularFile)
  | [] => []
  | (name, node) :: rest => walkNode (location ++ [name]) node ++ walk location rest

end

end Folder

end ApiSurface
