import ApiSurface.Files.FileSystem
import Mathlib.Data.List.Basic
import Mathlib.Data.List.Induction
import Mathlib.Tactic.Common

/-! Where the steps of a path lead, if every one of them can be taken.  A straight path, one that
never goes up, leads through the ancestors of where it ends. -/

namespace ApiSurface

namespace Text

theorem mem_splitOn {mark : Char} {text piece : Text} (member : piece ∈ text.splitOn mark) :
    mark ∉ piece ∧ ∀ c ∈ piece, c ∈ text := by
  induction text generalizing piece with
  | nil =>
      obtain rfl : piece = [] := by simpa using member
      simp
  | cons first rest induction =>
      rw [List.splitOn_cons_eq_if_modifyHead] at member
      by_cases marked : first = mark
      · rw [if_pos (beq_iff_eq.mpr marked), List.mem_cons] at member
        rcases member with rfl | member
        · simp
        · obtain ⟨unmarked, inside⟩ := induction member
          exact ⟨unmarked, fun c found => .tail first (inside c found)⟩
      · rw [if_neg (by simpa using marked)] at member
        obtain ⟨head, others, pieces⟩ :=
          List.exists_cons_of_ne_nil (List.splitOn_ne_nil mark rest)
        rw [pieces, List.modifyHead_cons, List.mem_cons] at member
        rcases member with rfl | member
        · obtain ⟨unmarked, inside⟩ := @induction head (by rw [pieces]; exact List.mem_cons_self)
          refine ⟨by simp [unmarked, Ne.symm marked], ?_⟩
          intro c found
          rcases List.mem_cons.mp found with rfl | found
          · exact List.mem_cons_self
          · exact .tail first (inside c found)
        · obtain ⟨unmarked, inside⟩ := @induction piece (by rw [pieces]; exact .tail head member)
          exact ⟨unmarked, fun c found => .tail first (inside c found)⟩

end Text

namespace Path

def terminator : Char :=
  Char.ofNat 0

/-- A name that some path leads to. -/
structure IsName (name : Text) : Prop where
  ne_nil : name ≠ []
  no_slash : '/' ∉ name
  no_terminator : terminator ∉ name
  ne_stay : name ≠ ".".toList
  ne_up : name ≠ "..".toList

instance (name : Text) : Decidable (IsName name) :=
  decidable_of_iff
    (name ≠ [] ∧ '/' ∉ name ∧ terminator ∉ name ∧ name ≠ ".".toList ∧ name ≠ "..".toList)
    ⟨fun ⟨filled, slash, clean, stay, up⟩ => ⟨filled, slash, clean, stay, up⟩,
      fun isName => ⟨isName.ne_nil, isName.no_slash, isName.no_terminator, isName.ne_stay,
        isName.ne_up⟩⟩

def Step.lead (here : Location) : Step → Location
  | .stay => here
  | .up => here.dropLast
  | .into name => here ++ [name]

def Step.name? : Step → Option Text
  | .into name => some name
  | _ => none

def reach (here : Location) : List Step → Location
  | [] => here
  | step :: rest => reach (step.lead here) rest

def starts (here : Location) : List Step → List Location
  | [] => []
  | step :: rest => here :: starts (step.lead here) rest

def trail (here : Location) (steps : List Step) : List Location :=
  starts here steps ++ [reach here steps]

/-- Where a path leads, if every step of it can be taken. -/
abbrev goal (path : Path) : Location :=
  reach [] path.steps

def names (path : Path) : Location :=
  path.steps.filterMap Step.name?

def IsStraight (path : Path) : Prop :=
  Step.up ∉ path.steps

instance (path : Path) : Decidable path.IsStraight :=
  inferInstanceAs (Decidable (_ ∉ _))

@[simp] theorem reach_nil (here : Location) : reach here [] = here := rfl

@[simp] theorem reach_cons (here : Location) (step : Step) (rest : List Step) :
    reach here (step :: rest) = reach (step.lead here) rest := rfl

@[simp] theorem starts_nil (here : Location) : starts here [] = [] := rfl

@[simp] theorem starts_cons (here : Location) (step : Step) (rest : List Step) :
    starts here (step :: rest) = here :: starts (step.lead here) rest := rfl

theorem reach_append (here : Location) (steps later : List Step) :
    reach here (steps ++ later) = reach (reach here steps) later := by
  induction steps generalizing here with
  | nil => rfl
  | cons step steps induction => exact induction (step.lead here)

theorem starts_append (here : Location) (steps later : List Step) :
    starts here (steps ++ later) =
      starts here steps ++ starts (reach here steps) later := by
  induction steps generalizing here with
  | nil => rfl
  | cons step steps induction =>
      exact congrArg (here :: ·) (induction (step.lead here))

theorem mem_trail {here location : Location} {steps : List Step} :
    location ∈ trail here steps ↔
      location ∈ starts here steps ∨ location = reach here steps := by
  simp [trail]

theorem trail_cons (here : Location) (step : Step) (rest : List Step) :
    trail here (step :: rest) = here :: trail (step.lead here) rest := rfl

theorem here_mem_trail (here : Location) (steps : List Step) :
    here ∈ trail here steps := by
  cases steps <;> simp [trail]

theorem reach_mem_trail (here : Location) (steps : List Step) :
    reach here steps ∈ trail here steps :=
  mem_trail.mpr (.inr rfl)

theorem mem_trail_iff_begins {here location : Location} {steps : List Step} :
    location ∈ trail here steps ↔ ∃ part, part <+: steps ∧ location = reach here part := by
  induction steps generalizing here with
  | nil => simp [trail]
  | cons step steps induction =>
      rw [trail_cons, List.mem_cons, induction]
      constructor
      · rintro (rfl | ⟨part, begins, rfl⟩)
        · exact ⟨[], List.nil_prefix, rfl⟩
        · exact ⟨step :: part, List.cons_prefix_cons.mpr ⟨rfl, begins⟩, rfl⟩
      · rintro ⟨part, begins, rfl⟩
        cases part with
        | nil => exact .inl rfl
        | cons first part =>
            obtain ⟨rfl, later⟩ := List.cons_prefix_cons.mp begins
            exact .inr ⟨part, later, rfl⟩

private theorem mem_of_mem_trail {here location : Location} {steps : List Step} {name : Text}
    (member : location ∈ trail here steps) (named : name ∈ location) :
    name ∈ here ∨ Step.into name ∈ steps := by
  induction steps generalizing here with
  | nil =>
      obtain rfl : location = here := by simpa [trail] using member
      exact .inl named
  | cons step steps induction =>
      rw [trail_cons, List.mem_cons] at member
      rcases member with rfl | member
      · exact .inl named
      rcases induction member with before | later
      · cases step with
        | stay => exact .inl before
        | up => exact .inl (List.dropLast_subset here before)
        | into entered =>
            rcases List.mem_append.mp before with before | new
            · exact .inl before
            · exact .inr (List.mem_singleton.mp new ▸ List.mem_cons_self)
      · exact .inr (.tail step later)

theorem mem_steps_of_mem_trail {location : Location} {steps : List Step} {name : Text}
    (member : location ∈ trail [] steps) (named : name ∈ location) :
    Step.into name ∈ steps := by
  simpa using mem_of_mem_trail member named

theorem reach_of_straight {steps : List Step} (straight : Step.up ∉ steps)
    (here : Location) :
    reach here steps = here ++ steps.filterMap Step.name? := by
  induction steps generalizing here with
  | nil => simp
  | cons step steps induction =>
      have later : Step.up ∉ steps := fun member => straight (.tail step member)
      cases step with
      | stay => exact induction later here
      | up => exact absurd List.mem_cons_self straight
      | into name =>
          rw [reach_cons, induction later]
          simp [Step.lead, Step.name?]

theorem trail_of_straight {steps : List Step} (straight : Step.up ∉ steps)
    {here location : Location} (member : location ∈ trail here steps) :
    location <+: reach here steps := by
  induction steps generalizing here with
  | nil => simp_all [trail]
  | cons step steps induction =>
      have later : Step.up ∉ steps := fun member => straight (.tail step member)
      rw [trail_cons, List.mem_cons] at member
      rcases member with rfl | member
      · rw [reach_of_straight straight]
        exact List.prefix_append _ _
      · exact induction later member

private theorem mem_trail_of_begins {steps : List Step} (straight : Step.up ∉ steps)
    {here location : Location} (ahead : here <+: location)
    (above : location <+: reach here steps) : location ∈ trail here steps := by
  induction steps generalizing here with
  | nil =>
      obtain rfl := ahead.eq_of_length_le above.length_le
      exact here_mem_trail _ _
  | cons step steps induction =>
      have later : Step.up ∉ steps := fun member => straight (.tail step member)
      rw [trail_cons, List.mem_cons]
      cases step with
      | stay => exact .inr (induction later ahead above)
      | up => exact absurd List.mem_cons_self straight
      | into name =>
          obtain ⟨further, rfl⟩ := ahead
          cases further with
          | nil => exact .inl (List.append_nil here)
          | cons first further =>
              refine .inr (induction later ?_ above)
              rw [reach_cons, reach_of_straight later, Step.lead, List.append_assoc,
                List.prefix_append_right_inj] at above
              obtain rfl : first = name := (List.cons_prefix_cons.mp above).1
              rw [List.append_cons here first further]
              exact List.prefix_append _ _

theorem reach_steps {path : Path} (straight : path.IsStraight) :
    reach [] path.steps = path.names := by
  rw [reach_of_straight straight, List.nil_append, names]

theorem trail_steps {path : Path} (straight : path.IsStraight) {location : Location}
    (member : location ∈ trail [] path.steps) :
    location <+: path.names :=
  reach_steps straight ▸ trail_of_straight straight member

/-- A straight path comes along the ancestors of where it leads, and along nothing else. -/
theorem mem_trail_steps_iff {path : Path} (straight : path.IsStraight) {location : Location} :
    location ∈ trail [] path.steps ↔ location <+: path.names := by
  refine ⟨trail_steps straight, fun above => ?_⟩
  rw [← reach_steps straight] at above
  exact mem_trail_of_begins straight location.nil_prefix above

theorem steps_append_slash (path rest : Path) :
    steps (path ++ '/' :: rest) = steps path ++ steps rest := by
  simp only [steps, List.splitOn_append_cons_self, List.filter_append, List.map_append]

theorem steps_of_part {part : Text} (filled : part ≠ []) (inside : '/' ∉ part) :
    steps part = [Step.ofPart part] := by
  rw [steps, List.splitOn_eq_singleton inside]
  cases part with
  | nil => exact absurd rfl filled
  | cons c rest => rfl

theorem not_isAbsolute_of_part {part : Text} (inside : '/' ∉ part) :
    isAbsolute part = false := by
  cases part with
  | nil => rfl
  | cons c rest =>
      have : c ≠ '/' := fun same => inside (same ▸ List.mem_cons_self)
      simp [isAbsolute, this]

theorem join_of_relative {base part : Path} (relative : isAbsolute part = false) :
    join base part =
      if base.isEmpty || demandsDirectory base then base ++ part else base ++ '/' :: part := by
  rw [join, relative]
  rfl

theorem steps_join_of_relative {part : Path} (base : Path)
    (relative : isAbsolute part = false) :
    steps (join base part) = steps base ++ steps part := by
  rw [join_of_relative relative]
  induction base using List.reverseRecOn with
  | nil => rfl
  | append_singleton base last _ =>
      by_cases slash : last = '/'
      · subst slash
        have trailing : demandsDirectory (base ++ ['/']) = true := by
          simp [demandsDirectory]
        have bare : steps (base ++ ['/']) = steps base := by
          rw [steps_append_slash]
          simp [steps]
        rw [trailing, Bool.or_true, if_pos rfl, bare, List.append_assoc, List.singleton_append,
          steps_append_slash]
      · have plain : ((base ++ [last]).isEmpty || demandsDirectory (base ++ [last])) = false := by
          simp [demandsDirectory, slash]
        rw [plain, if_neg Bool.false_ne_true, steps_append_slash]

theorem isAbsolute_join_of_relative {part : Path} (base : Path)
    (relative : isAbsolute part = false) : isAbsolute (join base part) = isAbsolute base := by
  rw [join_of_relative relative]
  cases base with
  | nil => exact relative
  | cons c rest => split <;> rfl

theorem steps_join {part : Text} (base : Path) (filled : part ≠ []) (inside : '/' ∉ part) :
    steps (join base part) = steps base ++ [Step.ofPart part] := by
  rw [steps_join_of_relative base (not_isAbsolute_of_part inside), steps_of_part filled inside]

theorem isAbsolute_join {part : Text} (base : Path) (inside : '/' ∉ part) :
    isAbsolute (join base part) = isAbsolute base :=
  isAbsolute_join_of_relative base (not_isAbsolute_of_part inside)

theorem steps_foldl_join {parts : List Path}
    (relative : ∀ part ∈ parts, isAbsolute part = false) (base : Path) :
    steps (parts.foldl join base) = steps base ++ parts.flatMap steps ∧
      isAbsolute (parts.foldl join base) = isAbsolute base := by
  induction parts generalizing base with
  | nil => simp
  | cons part parts induction =>
      obtain ⟨here, others⟩ := List.forall_mem_cons.mp relative
      obtain ⟨sameSteps, sameTop⟩ := induction others (join base part)
      rw [List.foldl_cons, sameSteps, sameTop, steps_join_of_relative base here,
        isAbsolute_join_of_relative base here, List.append_assoc, List.flatMap_cons]
      exact ⟨rfl, rfl⟩

theorem foldl_join_of_absolute {parts : List Path}
    (absolute : ∃ part ∈ parts, isAbsolute part = true) (base other : Path) :
    isAbsolute (parts.foldl join base) = true ∧
      parts.foldl join base = parts.foldl join other := by
  induction parts generalizing base other with
  | nil => simp at absolute
  | cons part parts induction =>
      by_cases later : ∃ part ∈ parts, isAbsolute part = true
      · exact induction later (join base part) (join other part)
      · have here : isAbsolute part = true := by
          rcases absolute with ⟨first, member, absolute⟩
          rcases List.mem_cons.mp member with rfl | member
          · exact absolute
          · exact absurd ⟨first, member, absolute⟩ later
        have relative : ∀ part ∈ parts, isAbsolute part = false := by simpa using later
        have restarts (base : Path) : join base part = part := by rw [join, if_pos here]
        rw [List.foldl_cons, List.foldl_cons, restarts base, restarts other]
        exact ⟨(steps_foldl_join relative part).2.trans here, rfl⟩

theorem join_ne_nil {base part : Text} (filled : part ≠ []) : join base part ≠ [] := by
  unfold join
  split_ifs <;> simp [filled]

theorem not_demandsDirectory_join {part : Text} (base : Path) (filled : part ≠ [])
    (inside : '/' ∉ part) : demandsDirectory (join base part) = false := by
  have ending : part.getLast? ≠ some '/' :=
    fun last => inside (List.mem_of_getLast? last)
  have same : (join base part).getLast? = part.getLast? := by
    rw [join_of_relative (not_isAbsolute_of_part inside)]
    split_ifs
    · exact List.getLast?_append_of_ne_nil base filled
    · rw [List.append_cons]
      exact List.getLast?_append_of_ne_nil _ filled
  simpa [demandsDirectory, same] using ending

theorem ofPart_of_isName {name : Text} (isName : IsName name) :
    Step.ofPart name = .into name := by
  rw [Step.ofPart, if_neg isName.ne_stay, if_neg isName.ne_up]

theorem steps_join_name {name : Text} (base : Path) (isName : IsName name) :
    steps (join base name) = steps base ++ [.into name] := by
  rw [steps_join base isName.ne_nil isName.no_slash, ofPart_of_isName isName]

theorem join_inj {name other : Text} {base : Path} (isName : IsName name)
    (isName' : IsName other) : join base name = join base other ↔ name = other := by
  refine ⟨fun same => ?_, congrArg (join base)⟩
  have steps := congrArg steps same
  rw [steps_join_name base isName, steps_join_name base isName'] at steps
  simpa using steps

theorem names_join {name : Text} (base : Path) (isName : IsName name) :
    names (join base name) = names base ++ [name] := by
  simp [names, steps_join_name base isName, Step.name?]

theorem isStraight_join {base : Path} {name : Text} (straight : base.IsStraight)
    (isName : IsName name) : (join base name).IsStraight := by
  rw [IsStraight, steps_join_name base isName, List.mem_append, List.mem_singleton]
  rintro (member | same)
  · exact straight member
  · cases same

theorem isName_of_mem_steps {path : Path} {name : Text} (clean : terminator ∉ path)
    (member : Step.into name ∈ path.steps) : IsName name := by
  simp only [steps, List.mem_map, List.mem_filter] at member
  obtain ⟨part, ⟨split, filled⟩, isPart⟩ := member
  unfold Step.ofPart at isPart
  split_ifs at isPart with stay up
  obtain rfl : part = name := by simpa using isPart
  obtain ⟨no_slash, inside⟩ := Text.mem_splitOn split
  exact {
    ne_nil := by simpa using filled
    no_slash
    no_terminator := fun found => clean (inside _ found)
    ne_stay := stay
    ne_up := up }

end Path

end ApiSurface
