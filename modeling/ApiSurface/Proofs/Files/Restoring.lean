import ApiSurface.Proofs.Files.Removal

/-! Storing files where files stand.  What was stored at one place before is forgotten, the order of
places does not matter, and what stands there already changes nothing. -/

namespace ApiSurface

namespace Folder

variable {folder : Folder} {node later : Node} {data data' : RegularFile}
  {location other : Location}

theorem put_self (found : folder.get? location = some (.file data)) :
    folder.put (.file data) location = folder := by
  induction location generalizing folder with
  | nil => rfl
  | cons name rest induction =>
      rw [get?_cons] at found
      cases inside : folder.lookup name with
      | none => simp [inside] at found
      | some held =>
          cases held with
          | file old =>
              simp only [inside] at found
              split_ifs at found with ends
              obtain rfl := List.isEmpty_iff.mp ends
              obtain rfl : old = data := by simpa using found
              exact assign_self inside
          | directory inner =>
              simp only [inside] at found
              have deeper : rest ≠ [] := by
                intro ends
                simp [ends] at found
              rw [put_inside inside deeper, induction found, assign_self inside]

theorem put_put (folder : Folder) (node later : Node) (location : Location) :
    (folder.put node location).put later location = folder.put later location := by
  induction location generalizing folder with
  | nil => rfl
  | cons name rest induction =>
      cases rest with
      | nil => exact assign_assign folder name node later
      | cons next rest =>
          have deeper : next :: rest ≠ [] := List.cons_ne_nil next rest
          rcases directory_or_not folder name with ⟨inner, found⟩ | outside
          · rw [put_inside found deeper, put_inside (by rw [lookup_assign, if_pos rfl]) deeper,
              assign_assign, induction, put_inside found deeper]
          · rw [put_outside outside deeper]

private theorem put_comm_of_ne {name key : Text} {rest more : Location} (distinct : name ≠ key)
    (known : folder.lookup name ≠ none) (node later : Node) :
    (folder.put node (name :: rest)).put later (key :: more) =
      (folder.put later (key :: more)).put node (name :: rest) := by
  have kept (placed : Node) : (folder.assign name placed).lookup key = folder.lookup key := by
    rw [lookup_assign, if_neg (Ne.symm distinct)]
  have kept' (placed : Node) : (folder.assign key placed).lookup name = folder.lookup name := by
    rw [lookup_assign, if_neg distinct]
  rcases put_cases folder node name rest with ⟨placed, puts⟩ | keeps <;>
    rcases put_cases folder later key more with ⟨placed', puts'⟩ | keeps'
  · rw [puts folder rfl, puts' folder rfl, puts' _ (kept _), puts _ (kept' _),
      assign_comm distinct known]
  · rw [puts folder rfl, keeps' folder rfl, keeps' _ (kept _), puts folder rfl]
  · rw [keeps folder rfl, puts' folder rfl, keeps _ (kept' _)]
  · rw [keeps folder rfl, keeps' folder rfl, keeps folder rfl]

theorem put_comm (distinct : location ≠ other) (found : folder.get? location = some (.file data))
    (found' : folder.get? other = some (.file data')) (node later : Node) :
    (folder.put node location).put later other = (folder.put later other).put node location := by
  induction location generalizing folder other with
  | nil => simp at found
  | cons name rest induction =>
      cases other with
      | nil => simp at found'
      | cons key more =>
          by_cases same : name = key
          · subst same
            rw [get?_cons] at found found'
            cases inside : folder.lookup name with
            | none => simp [inside] at found
            | some held =>
                cases held with
                | file old =>
                    simp only [inside] at found found'
                    split_ifs at found found' with ends ends'
                    rw [List.isEmpty_iff.mp ends, List.isEmpty_iff.mp ends'] at distinct
                    exact absurd rfl distinct
                | directory inner =>
                    simp only [inside] at found found'
                    have deeper : rest ≠ [] := by
                      intro ends
                      simp [ends] at found
                    have deeper' : more ≠ [] := by
                      intro ends
                      simp [ends] at found'
                    have apart : rest ≠ more := fun ends => distinct (congrArg (name :: ·) ends)
                    have entered (placed : Node) :
                        (folder.assign name placed).lookup name = some placed := by
                      rw [lookup_assign, if_pos rfl]
                    rw [put_inside inside deeper, put_inside (entered _) deeper', assign_assign,
                      put_inside inside deeper', put_inside (entered _) deeper, assign_assign,
                      induction apart found found']
          · refine put_comm_of_ne same ?_ node later
            intro missing
            rw [get?_cons, missing] at found
            cases found

end Folder

namespace FileSystem

open ApiSurface.Path

variable {files : FileSystem} {absolute : Bool} {location other : Location}
  {data data' : RegularFile} {content later : Bytes}

/-- Stores a file over the one that stands there, which keeps being executable. -/
def restore (files : FileSystem) (absolute : Bool) (location : Location) (content : Bytes) :
    FileSystem :=
  files.place absolute
    (.file ⟨content, keepsExecutable (files.kind? absolute location)⟩) location

theorem exists_parent (stands : files.kind? absolute location = some (.file data)) :
    ∃ parent name, location = parent ++ [name] ∧
      files.kind? absolute parent = some .directory := by
  cases location using List.reverseRecOn with
  | nil => simp at stands
  | append_singleton parent name => exact ⟨parent, name, rfl, kind?_of_child stands⟩

theorem kind?_restore (stands : files.kind? absolute location = some (.file data))
    (content : Bytes) (side : Bool) (place : Location) :
    (files.restore absolute location content).kind? side place =
      if side = absolute ∧ place = location then some (.file ⟨content, data.executable⟩)
      else files.kind? side place := by
  obtain ⟨parent, name, rfl, above⟩ := exists_parent stands
  rw [restore, kind?_place above (by simp [stands]) (by simp), stands]
  rfl

theorem overlay_restore (stands : files.kind? absolute location = some (.file data))
    (content : Bytes) :
    Overlay absolute (fun _ => False)
      (fun place => if place = location then some content else none) files
      (files.restore absolute location content) := by
  obtain ⟨parent, name, rfl, above⟩ := exists_parent stands
  exact overlay_place_file above (by simp [stands]) content _

private theorem get?_of_kind? (stands : files.kind? absolute location = some (.file data)) :
    (files.tree absolute).get? location = some (.file data) := by
  rw [kind?, Folder.kind?] at stands
  cases found : (files.tree absolute).get? location with
  | none => simp [found] at stands
  | some node =>
      cases node with
      | file held =>
          obtain rfl : held = data := by simpa [found] using stands
          rfl
      | directory entries => simp [found] at stands

private theorem restore_eq (stands : files.kind? absolute location = some (.file data))
    (content : Bytes) :
    files.restore absolute location content =
      files.place absolute (.file ⟨content, data.executable⟩) location := by
  rw [restore, stands]
  rfl

theorem restore_self {executable : Bool}
    (stands : files.kind? absolute location = some (.file ⟨content, executable⟩)) :
    files.restore absolute location content = files := by
  rw [restore_eq stands, place, Folder.put_self (get?_of_kind? stands)]
  cases absolute <;> rfl

theorem restore_restore (stands : files.kind? absolute location = some (.file data))
    (content later : Bytes) :
    (files.restore absolute location content).restore absolute location later =
      files.restore absolute location later := by
  have again := kind?_restore stands content absolute location
  rw [if_pos ⟨rfl, rfl⟩] at again
  rw [restore_eq again, restore_eq stands, restore_eq stands]
  have puts := Folder.put_put (files.tree absolute) (.file ⟨content, data.executable⟩)
    (.file ⟨later, data.executable⟩) location
  cases absolute <;> simp_all [place, tree, withTree]

theorem restore_comm (distinct : location ≠ other)
    (stands : files.kind? absolute location = some (.file data))
    (stands' : files.kind? absolute other = some (.file data')) (content later : Bytes) :
    (files.restore absolute location content).restore absolute other later =
      (files.restore absolute other later).restore absolute location content := by
  have first := kind?_restore stands content absolute other
  have second := kind?_restore stands' later absolute location
  rw [if_neg (by simp [Ne.symm distinct]), stands'] at first
  rw [if_neg (by simp [distinct]), stands] at second
  rw [restore_eq first, restore_eq second, restore_eq stands, restore_eq stands']
  have puts := Folder.put_comm distinct (get?_of_kind? stands) (get?_of_kind? stands')
    (.file ⟨content, data.executable⟩) (.file ⟨later, data'.executable⟩)
  cases absolute <;> simp_all [place, tree, withTree]

end FileSystem

end ApiSurface
