import ApiSurface.Run.CommandLine
import Mathlib.Tactic.Common

/-! The grammar of the command line.  Arguments are items in any order, of which one is the path,
and there is one at most of each other kind.  No arguments are cut into items in two ways. -/

namespace ApiSurface

namespace CommandLine

/-- A part of a command line. -/
inductive Item where
  | path (value : Path)
  | output (value : Path)
  | compare (value : Bool)
deriving DecidableEq, Repr

/-- A text that is no flag. -/
def IsPlain (argument : Text) : Prop :=
  argument.head? = some '-' → argument = ['-']

instance (argument : Text) : Decidable (IsPlain argument) :=
  inferInstanceAs (Decidable (_ → _))

def Flag.name : Flag → Text
  | .output => "-o".toList
  | .compare => "-c".toList

/-- What a flag says with a value. -/
inductive Flag.Means : Flag → Text → Item → Prop
  | output {value : Path} (filled : value ≠ []) : Means .output value (.output value)
  | yes : Means .compare "true".toList (.compare true)
  | no : Means .compare "false".toList (.compare false)

/-- The value in a text that is attached to a flag. -/
inductive Carries : Text → Text → Prop
  | bare {value : Text} (bare : value.head? ≠ some '=') : Carries value value
  | equated (value : Text) : Carries ('=' :: value) value

/-- The arguments that an item may be written as. -/
inductive Item.Spells : Item → List Text → Prop
  | path {value : Path} (filled : value ≠ []) (plain : IsPlain value) : Spells (.path value) [value]
  | apart {flag : Flag} {value : Text} {item : Item} (means : flag.Means value item)
      (plain : IsPlain value) : Spells item [flag.name, value]
  | attached {flag : Flag} {attached value : Text} {item : Item} (carries : Carries attached value)
      (means : flag.Means value item) : Spells item [flag.name ++ attached]

/-- Arguments cut into items.  Behind two dashes alone every argument is a path. -/
inductive IsCut : List Text → List Item → List Item → Prop
  | nil : IsCut [] [] []
  | dashes {values : List Path} (filled : ∀ value ∈ values, value ≠ []) :
      IsCut ("--".toList :: values) [] (values.map .path)
  | cons {item : Item} {arguments later : List Text} {front behind : List Item}
      (spells : item.Spells arguments) (rest : IsCut later front behind) :
      IsCut (arguments ++ later) (item :: front) behind

def Item.path? : Item → Option Path
  | .path value => some value
  | _ => none

def Item.output? : Item → Option Path
  | .output value => some value
  | _ => none

def Item.compare? : Item → Option Bool
  | .compare value => some value
  | _ => none

/-- Items of which one is a path, and of the others there is one of each kind at most. -/
structure Describe (items : List Item) (line : CommandLine) : Prop where
  path : items.filterMap Item.path? = [line.path]
  output : items.filterMap Item.output? = line.output.toList
  compare : ∃ value : Option Bool, items.filterMap Item.compare? = value.toList ∧
    line.compare = value.getD false

variable {item : Item} {items front behind : List Item} {flag : Flag} {value : Text}
  {arguments rest : List Text} {line : CommandLine}

theorem Flag.Means.filled (means : flag.Means value item) : value ≠ [] := by
  cases means with
  | output filled => exact filled
  | yes => decide
  | no => decide

theorem Flag.Means.unique {other : Item} (means : flag.Means value item)
    (meant : flag.Means value other) : item = other := by
  cases means <;> cases meant <;> rfl

theorem Carries.unique {attached other : Text} (carries : Carries attached value)
    (carried : Carries attached other) : value = other := by
  cases carries with
  | bare bare =>
      cases carried with
      | bare => rfl
      | equated => exact absurd rfl bare
  | equated =>
      cases carried with
      | bare bare => exact absurd rfl bare
      | equated => rfl

theorem not_isPlain_dashes : ¬ IsPlain "--".toList := by
  decide

theorem not_isPlain_name (flag : Flag) (attached : Text) : ¬ IsPlain (flag.name ++ attached) := by
  cases flag <;> simp [IsPlain, Flag.name]

theorem name_append_inj {other : Flag} {attached more : Text}
    (same : flag.name ++ attached = other.name ++ more) : flag = other ∧ attached = more := by
  cases flag <;> cases other <;> simp_all [Flag.name]

theorem Item.Spells.unique {other : Item} {others more : List Text} (spells : item.Spells arguments)
    (spelt : other.Spells others) (same : arguments ++ rest = others ++ more) :
    item = other ∧ rest = more := by
  cases spells with
  | path filled plain =>
      cases spelt with
      | path => simpa using same
      | @apart flag =>
          obtain ⟨rfl, -⟩ := List.cons.inj same
          exact absurd plain (flag.name.append_nil ▸ not_isPlain_name flag [])
      | attached =>
          obtain ⟨rfl, -⟩ := List.cons.inj same
          exact absurd plain (not_isPlain_name _ _)
  | @apart flag value item means =>
      cases spelt with
      | path filled plain =>
          obtain ⟨rfl, -⟩ := List.cons.inj same
          exact absurd plain (flag.name.append_nil ▸ not_isPlain_name flag [])
      | apart meant =>
          obtain ⟨name, both⟩ := List.cons.inj same
          obtain ⟨rfl, left⟩ := List.cons.inj both
          obtain ⟨rfl, -⟩ := name_append_inj (congrArg (· ++ []) name)
          exact ⟨means.unique meant, left⟩
      | attached carries meant =>
          obtain ⟨name, -⟩ := List.cons.inj same
          obtain ⟨rfl, rfl⟩ := name_append_inj (flag.name.append_nil.trans name)
          exact absurd (carries.unique (.bare (by simp))) meant.filled
  | @attached flag attached value item carries means =>
      cases spelt with
      | path filled plain =>
          obtain ⟨rfl, -⟩ := List.cons.inj same
          exact absurd plain (not_isPlain_name _ _)
      | @apart other _ _ _ =>
          obtain ⟨name, -⟩ := List.cons.inj same
          obtain ⟨rfl, rfl⟩ := name_append_inj (name.trans other.name.append_nil.symm)
          exact absurd (carries.unique (.bare (by simp))) means.filled
      | attached carried meant =>
          obtain ⟨name, left⟩ := List.cons.inj same
          obtain ⟨rfl, rfl⟩ := name_append_inj name
          obtain rfl := carries.unique carried
          exact ⟨means.unique meant, left⟩

theorem Item.Spells.exists_cons (spells : item.Spells arguments) :
    ∃ first more, arguments = first :: more ∧ first ≠ "--".toList := by
  cases spells with
  | path filled plain => exact ⟨_, [], rfl, fun same => not_isPlain_dashes (same ▸ plain)⟩
  | @apart flag value => exact ⟨flag.name, [value], rfl, by cases flag <;> decide⟩
  | @attached flag attached =>
      exact ⟨flag.name ++ attached, [], rfl, by cases flag <;> simp [Flag.name]⟩

theorem IsCut.of_append {later : List Text} {moved others : List Item}
    (spells : item.Spells arguments) (cuts : IsCut (arguments ++ later) moved others) :
    ∃ front, moved = item :: front ∧ IsCut later front others := by
  generalize whole : arguments ++ later = together at cuts
  cases cuts with
  | nil =>
      obtain ⟨first, more, rfl, -⟩ := spells.exists_cons
      cases whole
  | dashes =>
      obtain ⟨first, more, rfl, other⟩ := spells.exists_cons
      exact absurd (List.cons.inj whole).left other
  | cons spelt rest =>
      obtain ⟨rfl, rfl⟩ := spells.unique spelt whole
      exact ⟨_, rfl, rest⟩

theorem IsCut.unique {moved others : List Item} (cut : IsCut arguments front behind)
    (cuts : IsCut arguments moved others) : front = moved ∧ behind = others := by
  induction cut generalizing moved with
  | nil =>
      generalize whole : [] = together at cuts
      cases cuts with
      | nil => exact ⟨rfl, rfl⟩
      | dashes => cases whole
      | cons spells =>
          obtain ⟨first, more, rfl, -⟩ := spells.exists_cons
          cases whole
  | dashes filled =>
      generalize whole : "--".toList :: _ = together at cuts
      cases cuts with
      | nil => cases whole
      | dashes =>
          obtain ⟨-, rfl⟩ := List.cons.inj whole
          exact ⟨rfl, rfl⟩
      | cons spells =>
          obtain ⟨first, more, rfl, other⟩ := spells.exists_cons
          exact absurd (List.cons.inj whole).left.symm other
  | cons spells rest hypothesis =>
      obtain ⟨front, rfl, left⟩ := cuts.of_append spells
      obtain ⟨rfl, rfl⟩ := hypothesis left
      exact ⟨rfl, rfl⟩

theorem eq_toList_of_perm {α : Type} {held : List α} {value : Option α}
    (same : held.Perm value.toList) : held = value.toList := by
  cases value with
  | none => exact same.eq_nil
  | some value => exact List.perm_singleton.mp same

theorem Describe.of_perm {others : List Item} (same : others.Perm items)
    (describe : Describe items line) : Describe others line where
  path := List.perm_singleton.mp (describe.path ▸ same.filterMap _)
  output := eq_toList_of_perm (describe.output ▸ same.filterMap _)
  compare := by
    obtain ⟨value, compare, meant⟩ := describe.compare
    exact ⟨value, eq_toList_of_perm (compare ▸ same.filterMap _), meant⟩

end CommandLine

end ApiSurface
