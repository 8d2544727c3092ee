import ApiSurface.Proofs.Files.Operation

/-! Removing a node with everything below it.  This undoes what was placed there, and it commutes
with what is placed elsewhere. -/

namespace ApiSurface

namespace Folder

variable {folder inner : Folder} {name other : Text} {node later : Node}
  {rest place : Location}

theorem lookup_discard (folder : Folder) (name key : Text) :
    (folder.discard name).lookup key = if key = name then none else folder.lookup key := by
  induction folder with
  | nil => simp [discard]
  | cons entry folder induction =>
      obtain ⟨first, old⟩ := entry
      unfold discard at induction ⊢
      rw [List.filter_cons, lookup_cons]
      by_cases here : first = name
      · subst here
        rw [if_neg (by simp), induction]
        split_ifs <;> rfl
      · rw [if_pos (by simpa using here), lookup_cons, induction]
        split_ifs <;> simp_all

theorem discard_of_absent (absent : folder.lookup name = none) : folder.discard name = folder := by
  rw [discard, List.filter_eq_self]
  intro entry member
  have distinct := List.lookup_eq_none_iff.mp absent entry member
  exact decide_eq_true (Ne.symm (bne_iff_ne.mp distinct))

theorem discard_assign_self (folder : Folder) (name : Text) (node : Node) :
    (folder.assign name node).discard name = folder.discard name := by
  induction folder with
  | nil => simp [assign, discard]
  | cons entry folder induction =>
      obtain ⟨first, old⟩ := entry
      unfold discard at induction ⊢
      rw [assign]
      split_ifs with here
      · simp [here]
      · rw [List.filter_cons, List.filter_cons, induction]

theorem discard_assign_of_ne (distinct : other ≠ name) (folder : Folder) (node : Node) :
    (folder.assign other node).discard name = (folder.discard name).assign other node := by
  induction folder with
  | nil => simp [assign, discard, distinct]
  | cons entry folder induction =>
      obtain ⟨first, old⟩ := entry
      unfold discard at induction ⊢
      rw [assign, List.filter_cons]
      by_cases here : first = other
      · subst here
        simp [distinct, assign]
      · rw [if_neg here, List.filter_cons, induction]
        split_ifs
        · rw [assign, if_neg here]
        · rfl

theorem assign_assign (folder : Folder) (name : Text) (node later : Node) :
    (folder.assign name node).assign name later = folder.assign name later := by
  induction folder with
  | nil => simp [assign]
  | cons entry folder induction =>
      obtain ⟨first, old⟩ := entry
      by_cases here : first = name
      · simp [assign, here]
      · simp [assign, here, induction]

theorem assign_self (found : folder.lookup name = some node) :
    folder.assign name node = folder := by
  induction folder with
  | nil => cases found
  | cons entry folder induction =>
      obtain ⟨first, old⟩ := entry
      rw [lookup_cons] at found
      rw [assign]
      by_cases here : first = name
      · obtain rfl : old = node := by simpa [here] using found
        rw [if_pos here]
      · rw [if_neg here, induction (by simpa [Ne.symm here] using found)]

theorem assign_comm (distinct : name ≠ other) (known : folder.lookup name ≠ none) :
    (folder.assign name node).assign other later =
      (folder.assign other later).assign name node := by
  induction folder with
  | nil => exact absurd rfl known
  | cons entry folder induction =>
      obtain ⟨first, old⟩ := entry
      rw [lookup_cons] at known
      by_cases here : first = name
      · subst here
        simp [assign, distinct]
      · have inside := induction (by simpa [Ne.symm here] using known)
        by_cases there : first = other
        · subst there
          simp [assign, here]
        · simp [assign, here, there, inside]

theorem put_inside (found : folder.lookup name = some (.directory inner)) (deeper : rest ≠ []) :
    folder.put node (name :: rest) = folder.assign name (.directory (inner.put node rest)) := by
  rw [put, if_neg (by simpa using deeper), found]

theorem put_outside (outside : ∀ inner, folder.lookup name ≠ some (.directory inner))
    (deeper : rest ≠ []) : folder.put node (name :: rest) = folder := by
  rw [put, if_neg (by simpa using deeper)]
  split
  · next found => exact absurd found (outside _)
  · rfl

theorem erase_inside (found : folder.lookup name = some (.directory inner))
    (deeper : rest ≠ []) :
    folder.erase (name :: rest) = folder.assign name (.directory (inner.erase rest)) := by
  rw [erase, if_neg (by simpa using deeper), found]

theorem erase_outside (outside : ∀ inner, folder.lookup name ≠ some (.directory inner))
    (deeper : rest ≠ []) : folder.erase (name :: rest) = folder := by
  rw [erase, if_neg (by simpa using deeper)]
  split
  · next found => exact absurd found (outside _)
  · rfl

theorem erase_name (folder : Folder) (name : Text) : folder.erase [name] = folder.discard name :=
  rfl

theorem directory_or_not (folder : Folder) (name : Text) :
    (∃ inner, folder.lookup name = some (.directory inner)) ∨
      ∀ inner, folder.lookup name ≠ some (.directory inner) := by
  rw [← not_exists]
  exact Classical.em _

theorem put_cases (folder : Folder) (node : Node) (name : Text) (rest : Location) :
    (∃ placed, ∀ changed : Folder, changed.lookup name = folder.lookup name →
      changed.put node (name :: rest) = changed.assign name placed) ∨
    ∀ changed : Folder, changed.lookup name = folder.lookup name →
      changed.put node (name :: rest) = changed := by
  rcases eq_or_ne rest [] with rfl | deeper
  · exact .inl ⟨node, fun _ _ => rfl⟩
  rcases directory_or_not folder name with ⟨inner, found⟩ | outside
  · exact .inl ⟨_, fun _ same => put_inside (same.trans found) deeper⟩
  · exact .inr fun _ same => put_outside (fun inner => same ▸ outside inner) deeper

theorem kind?_erase (filled : place ≠ []) (folder : Folder) (location : Location) :
    (folder.erase place).kind? location =
      if place <+: location then none else folder.kind? location := by
  induction place generalizing folder location with
  | nil => exact absurd rfl filled
  | cons name rest induction =>
      cases location with
      | nil => simp
      | cons key more =>
          simp only [List.cons_prefix_cons]
          rcases eq_or_ne rest [] with rfl | deeper
          · rw [erase_name, kind?_cons, kind?_cons, lookup_discard]
            by_cases same : key = name
            · simp [same]
            · simp [same, Ne.symm same]
          rcases directory_or_not folder name with ⟨inner, found⟩ | outside
          · rw [erase_inside found deeper, kind?_cons, kind?_cons, lookup_assign]
            by_cases same : key = name
            · subst same
              simp [found, induction deeper]
            · simp [same, Ne.symm same]
          · rw [erase_outside outside deeper]
            split_ifs with above
            · obtain ⟨rfl, below⟩ := above
              have further : more ≠ [] := fun ends => deeper (List.prefix_nil.mp (ends ▸ below))
              rw [kind?_cons]
              cases found : folder.lookup name with
              | none => rfl
              | some node =>
                  cases node with
                  | file data => simp [further]
                  | directory inner => exact absurd found (outside inner)
            · rfl

theorem erase_of_vacant (vacant : folder.kind? place = none) : folder.erase place = folder := by
  induction place generalizing folder with
  | nil => simp at vacant
  | cons name rest induction =>
      rw [kind?_cons] at vacant
      rcases eq_or_ne rest [] with rfl | deeper
      · rw [erase_name]
        apply discard_of_absent
        cases found : folder.lookup name with
        | none => rfl
        | some node => cases node <;> simp [found] at vacant
      rcases directory_or_not folder name with ⟨inner, found⟩ | outside
      · simp only [found] at vacant
        rw [erase_inside found deeper, induction vacant, assign_self found]
      · exact erase_outside outside deeper

theorem erase_put_below (filled : place ≠ []) {location : Location}
    (below : place <+: location) (folder : Folder) (node : Node) :
    (folder.put node location).erase place = folder.erase place := by
  induction place generalizing folder location with
  | nil => exact absurd rfl filled
  | cons name rest induction =>
      obtain ⟨more, rfl⟩ : ∃ more, location = name :: (rest ++ more) :=
        below.imp fun _ => Eq.symm
      rcases eq_or_ne rest [] with rfl | deeper
      · rw [erase_name, erase_name]
        rcases put_cases folder node name ([] ++ more) with ⟨placed, puts⟩ | keeps
        · rw [puts folder rfl, discard_assign_self]
        · rw [keeps folder rfl]
      have further : rest ++ more ≠ [] := by simp [deeper]
      rcases directory_or_not folder name with ⟨inner, found⟩ | outside
      · rw [put_inside found further, erase_inside (by rw [lookup_assign, if_pos rfl]) deeper,
          assign_assign, induction deeper (List.prefix_append _ _), erase_inside found deeper]
      · rw [put_outside outside further]

theorem erase_put_apart {location : Location} (below : ¬ place <+: location)
    (above : ¬ location <+: place) (folder : Folder) (node : Node) :
    (folder.put node location).erase place = (folder.erase place).put node location := by
  induction place generalizing folder location with
  | nil => exact absurd List.nil_prefix below
  | cons name rest induction =>
      cases location with
      | nil => exact absurd List.nil_prefix above
      | cons key more =>
          rw [List.cons_prefix_cons] at below above
          by_cases same : key = name
          · subst same
            have deeper : rest ≠ [] := fun ends => below ⟨rfl, ends ▸ List.nil_prefix⟩
            have further : more ≠ [] := fun ends => above ⟨rfl, ends ▸ List.nil_prefix⟩
            rcases directory_or_not folder key with ⟨inner, found⟩ | outside
            · rw [put_inside found further, erase_inside (by rw [lookup_assign, if_pos rfl]) deeper,
                assign_assign, erase_inside found deeper,
                put_inside (by rw [lookup_assign, if_pos rfl]) further, assign_assign,
                induction (fun begins => below ⟨rfl, begins⟩) (fun begins => above ⟨rfl, begins⟩)]
            · rw [put_outside outside further, erase_outside outside deeper,
                put_outside outside further]
          · rcases put_cases folder node key more with ⟨placed, puts⟩ | keeps
            · have kept : (folder.assign key placed).lookup name = folder.lookup name := by
                rw [lookup_assign, if_neg (Ne.symm same)]
              rw [puts folder rfl]
              rcases eq_or_ne rest [] with rfl | deeper
              · rw [erase_name, erase_name, puts _ (by rw [lookup_discard, if_neg same]),
                  discard_assign_of_ne same]
              rcases directory_or_not folder name with ⟨inner, found⟩ | outside
              · rw [erase_inside (kept.trans found) deeper, erase_inside found deeper,
                  puts _ (by rw [lookup_assign, if_neg same]),
                  assign_comm (Ne.symm same) (by simp [found])]
              · rw [erase_outside (fun inner => kept ▸ outside inner) deeper,
                  erase_outside outside deeper, puts folder rfl]
            · have kept : (folder.erase (name :: rest)).lookup key = folder.lookup key := by
                rcases eq_or_ne rest [] with rfl | deeper
                · rw [erase_name, lookup_discard, if_neg same]
                rcases directory_or_not folder name with ⟨inner, found⟩ | outside
                · rw [erase_inside found deeper, lookup_assign, if_neg same]
                · rw [erase_outside outside deeper]
              rw [keeps folder rfl, keeps _ kept]

end Folder

namespace FileSystem

open ApiSurface.Path

variable {files : FileSystem} {side absolute : Bool} {place location : Location} {node : Node}

/-- The file system without what stands at a location and below it. -/
def without (files : FileSystem) (side : Bool) (place : Location) : FileSystem :=
  files.withTree side ((files.tree side).erase place)

@[simp] theorem limits_without (files : FileSystem) (side : Bool) (place : Location) :
    (files.without side place).limits = files.limits := by
  cases side <;> rfl

theorem kind?_without (filled : place ≠ []) (files : FileSystem) (side absolute : Bool)
    (location : Location) :
    (files.without side place).kind? absolute location =
      if absolute = side ∧ place <+: location then none else files.kind? absolute location := by
  have erased := Folder.kind?_erase filled (files.tree side) location
  cases side <;> cases absolute <;> simp_all [without, kind?, tree, withTree]

theorem without_of_vacant (vacant : files.kind? side place = none) :
    files.without side place = files := by
  rw [without, Folder.erase_of_vacant vacant]
  cases side <;> rfl

theorem without_place_below (filled : place ≠ []) (below : place <+: location)
    (files : FileSystem) (side : Bool) (node : Node) :
    (files.place side node location).without side place = files.without side place := by
  have erased := Folder.erase_put_below filled below (files.tree side) node
  cases side <;> simp_all [without, FileSystem.place, tree, withTree]

theorem without_place_apart
    (apart : absolute = side → ¬ place <+: location ∧ ¬ location <+: place)
    (files : FileSystem) (node : Node) :
    (files.place absolute node location).without side place =
      (files.without side place).place absolute node location := by
  by_cases same : absolute = side
  · subst same
    obtain ⟨below, above⟩ := apart rfl
    have erased := Folder.erase_put_apart below above (files.tree absolute) node
    cases absolute <;> simp_all [without, FileSystem.place, tree, withTree]
  · cases side <;> cases absolute <;>
      first
        | exact absurd rfl same
        | rfl

end FileSystem

end ApiSurface
