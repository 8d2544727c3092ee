import ApiSurface.Files.FileSystem
import Mathlib.Data.List.Lex
import Mathlib.Tactic.Common

/-! What stands at the locations of a folder: a regular file, a directory, or nothing.  Placing a
node changes what stands at one location only. -/

namespace ApiSurface

/-- What a node is, whatever a directory holds. -/
inductive Node.Kind where
  | file (data : RegularFile)
  | directory
deriving DecidableEq, Repr

def Node.kind : Node → Node.Kind
  | .file data => .file data
  | .directory _ => .directory

@[simp] theorem Node.kind_file (data : RegularFile) :
    (Node.file data).kind = .file data := rfl

@[simp] theorem Node.kind_directory (entries : Folder) :
    (Node.directory entries).kind = .directory := rfl

namespace Folder

theorem lookup_cons (key first : Text) (node : Node) (rest : Folder) :
    List.lookup key ((first, node) :: rest) =
      if key = first then some node else List.lookup key rest := by
  rw [List.lookup_cons]
  by_cases same : key = first
  · simp [same]
  · rw [beq_eq_false_iff_ne.mpr same, if_neg same]

theorem lookup_assign (folder : Folder) (name key : Text) (node : Node) :
    (folder.assign name node).lookup key =
      if key = name then some node else folder.lookup key := by
  induction folder with
  | nil => rw [assign, lookup_cons]
  | cons entry rest induction =>
      obtain ⟨first, old⟩ := entry
      rw [assign, lookup_cons]
      by_cases here : first = name
      · subst here
        rw [if_pos rfl, lookup_cons]
        by_cases same : key = first <;> simp [same]
      · rw [if_neg here, lookup_cons, induction]
        by_cases same : key = first
        · subst same
          simp [here]
        · simp [same]

@[simp] theorem get?_nil (folder : Folder) :
    folder.get? [] = some (.directory folder) := by
  rw [get?]

theorem get?_cons (folder : Folder) (name : Text) (rest : Location) :
    folder.get? (name :: rest) =
      match folder.lookup name with
      | none => none
      | some (.directory inner) => get? inner rest
      | some (.file data) => if rest.isEmpty then some (.file data) else none :=
  rfl

def kind? (folder : Folder) (location : Location) : Option Node.Kind :=
  (folder.get? location).map Node.kind

@[simp] theorem kind?_nil (folder : Folder) :
    folder.kind? [] = some .directory := by
  simp [kind?]

theorem kind?_cons (folder : Folder) (name : Text) (rest : Location) :
    folder.kind? (name :: rest) =
      match folder.lookup name with
      | none => none
      | some (.directory inner) => kind? inner rest
      | some (.file data) => if rest.isEmpty then some (.file data) else none := by
  rw [kind?, get?_cons]
  cases folder.lookup name with
  | none => rfl
  | some node =>
      cases node with
      | file data => cases rest <;> rfl
      | directory inner => rfl

theorem kind?_of_below {folder : Folder} {location : Location} {name : Text} {rest : Location}
    (stands : folder.kind? (location ++ name :: rest) ≠ none) :
    folder.kind? location = some .directory := by
  induction location generalizing folder with
  | nil => simp
  | cons first location induction =>
      rw [List.cons_append, kind?_cons] at stands
      rw [kind?_cons]
      cases found : folder.lookup first with
      | none => simp [found] at stands
      | some node =>
          cases node with
          | file data => simp [found] at stands
          | directory inner =>
              simp only [found] at stands ⊢
              exact induction stands

theorem get?_entry {folder : Folder} {location : Location} {entries : Folder}
    (found : folder.get? location = some (.directory entries)) (name : Text) :
    folder.get? (location ++ [name]) = entries.lookup name := by
  induction location generalizing folder with
  | nil =>
      rw [get?_nil] at found
      obtain rfl : folder = entries := by simpa using found
      rw [List.nil_append, get?_cons]
      cases List.lookup name folder with
      | none => rfl
      | some node => cases node <;> simp
  | cons first location induction =>
      rw [get?_cons] at found
      rw [List.cons_append, get?_cons]
      cases inside : folder.lookup first with
      | none => simp [inside] at found
      | some node =>
          cases node with
          | file data =>
              simp only [inside] at found
              split_ifs at found
              simp at found
          | directory inner =>
              simp only [inside] at found ⊢
              exact induction found

/-- A node that holds nothing, placed where no directory is, changes that location only. -/
theorem kind?_put {folder : Folder} {parent : Location} {name : Text} {node : Node}
    (above : folder.kind? parent = some .directory)
    (vacant : folder.kind? (parent ++ [name]) ≠ some .directory)
    (bare : ∀ entries, node = .directory entries → entries = [])
    (location : Location) :
    (folder.put node (parent ++ [name])).kind? location =
      if location = parent ++ [name] then some node.kind else folder.kind? location := by
  induction parent generalizing folder location with
  | nil =>
      cases location with
      | nil => simp
      | cons key rest =>
          rw [List.nil_append, put, kind?_cons]
          simp only [List.isEmpty_nil, if_true, lookup_assign]
          by_cases same : key = name
          · subst same
            cases rest with
            | nil => cases node <;> simp
            | cons next rest =>
                -- No directory stood here, so there was nothing below either.
                have behind : folder.kind? (key :: next :: rest) = none := by
                  by_contra stands
                  exact vacant (kind?_of_below stands)
                rw [behind]
                cases node with
                | file data => simp
                | directory entries =>
                    obtain rfl := bare entries rfl
                    simp [kind?_cons]
          · rw [kind?_cons]
            simp [same]
  | cons first parent induction =>
      rw [kind?_cons] at above
      rw [List.cons_append, kind?_cons] at vacant
      cases inside : folder.lookup first with
      | none => simp [inside] at above
      | some old =>
          cases old with
          | file data =>
              simp only [inside] at above
              split_ifs at above
              simp at above
          | directory inner =>
              simp only [inside] at above vacant
              rw [List.cons_append, put]
              rw [if_neg (by simp)]
              simp only [inside]
              cases location with
              | nil => simp
              | cons key rest =>
                  rw [kind?_cons, kind?_cons, lookup_assign]
                  by_cases same : key = first
                  · subst same
                    simp [inside, induction above vacant]
                  · simp [same]

end Folder

end ApiSurface
