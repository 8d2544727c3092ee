import ApiSurface.Proofs.Disassembly.Naming
import ApiSurface.Proofs.Text.Words
import Mathlib.Data.Bool.AllAny

/-! The grammar of declaration lines.  A class text is read exactly if its first line declares a
type by this grammar, and every line that is laid out by it declares one. -/

namespace ApiSurface

namespace Declaration

variable {line name word package simple : Text}

/-- All words that may stand in front of a declared name. -/
def leadingWords : List Text :=
  "public".toList :: modifiers

theorem isLeading_iff : isLeading word = true ↔ word ∈ leadingWords := by
  rw [isLeading, leadingWords, Bool.or_eq_true, decide_eq_true_eq, List.contains_iff_mem,
    List.mem_cons]

theorem plain_of_leading :
    ∀ word ∈ leadingWords, word ≠ [] ∧ ∀ c ∈ word, isBlank c = false ∧ c ≠ '<' := by
  have checked : (leadingWords.all fun word =>
      decide (word ≠ []) && word.all fun c => decide (isBlank c = false ∧ c ≠ '<')) = true := by
    decide
  simpa only [List.all_eq_true, Bool.and_eq_true, decide_eq_true_eq] using checked

/-- A name that consists of a package, if there is one, and a simple name. -/
structure IsQualified (name package simple : Text) : Prop where
  parts : name = simple ∧ package = [] ∨ name = package ++ '.' :: simple
  undotted : '.' ∉ simple
  filled : simple ≠ []
  unbraced : simple.head? ≠ some '{'

/-- A word that names a type, perhaps with the begin of its parameters. -/
def Names (word package simple : Text) : Prop :=
  ∃ name parameters, word = name ++ parameters ∧ '<' ∉ name ∧
    (∀ c ∈ parameters.head?, c = '<') ∧ IsQualified name package simple

/-- A line that has the word `public`, and whose first word that may not stand in front of a name
names a type. -/
def Declares (line package simple : Text) : Prop :=
  ∃ front word behind, Text.Shows line (front ++ word :: behind) ∧ front ⊆ leadingWords ∧
    word ∉ leadingWords ∧ "public".toList ∈ front ++ word :: behind ∧ Names word package simple

theorem ofQualified_eq_iff :
    ofQualified name = ⟨package, simple⟩ ↔
      (name = simple ∧ package = [] ∨ name = package ++ '.' :: simple) ∧ '.' ∉ simple := by
  constructor
  · intro read
    rw [ofQualified] at read
    split at read
    · next before after cut =>
      obtain ⟨rfl, rfl⟩ := Declaration.mk.inj read
      obtain ⟨rfl, undotted⟩ := Text.cutLast_eq_some_iff.mp cut
      exact ⟨.inr rfl, undotted⟩
    · next cut =>
      obtain ⟨rfl, rfl⟩ := Declaration.mk.inj read
      exact ⟨.inl ⟨rfl, rfl⟩, Text.cutLast_eq_none_iff.mp cut⟩
  · rintro ⟨⟨rfl, rfl⟩ | rfl, undotted⟩
    · rw [ofQualified, Text.cutLast_eq_none_iff.mpr undotted]
    · rw [ofQualified, Text.cutLast_append package undotted]

theorem names_iff :
    Names word package simple ↔
      ofQualified (word.takeWhile (· ≠ '<')) = ⟨package, simple⟩ ∧ simple ≠ [] ∧
        simple.head? ≠ some '{' := by
  constructor
  · rintro ⟨name, parameters, rfl, plain, begins, qualified⟩
    rw [Text.takeWhile_ne_eq_iff.mpr ⟨parameters, rfl, plain, begins⟩]
    exact ⟨ofQualified_eq_iff.mpr ⟨qualified.parts, qualified.undotted⟩, qualified.filled,
      qualified.unbraced⟩
  · rintro ⟨read, filled, unbraced⟩
    generalize cut : word.takeWhile (· ≠ '<') = name at read
    obtain ⟨parameters, split, plain, begins⟩ := Text.takeWhile_ne_eq_iff.mp cut
    obtain ⟨parts, undotted⟩ := ofQualified_eq_iff.mp read
    exact ⟨name, parameters, split, plain, begins, ⟨parts, undotted, filled, unbraced⟩⟩

theorem parse?_eq_some_iff_declares :
    parse? line = some ⟨package, simple⟩ ↔ Declares line package simple := by
  rw [parse?_eq_some_iff]
  constructor
  · rintro ⟨isPublic, word, found, same, filled, unbraced⟩
    obtain ⟨other, front, behind, split, leading⟩ := List.find?_eq_some_iff_append.mp found
    refine ⟨front, word, behind, Text.shows_iff.mpr split, ?_, ?_, split ▸ isPublic,
      names_iff.mpr ⟨same.symm, filled, unbraced⟩⟩
    · intro first member
      simpa [isLeading_iff] using leading first member
    · simpa [← isLeading_iff] using other
  · rintro ⟨front, word, behind, shown, leading, other, isPublic, names⟩
    obtain ⟨same, filled, unbraced⟩ := names_iff.mp names
    rw [shown.words_eq]
    refine ⟨isPublic, word, ?_, same.symm, filled, unbraced⟩
    refine List.find?_eq_some_iff_append.mpr ⟨?_, front, behind, rfl, fun first member => ?_⟩
    · simpa [← isLeading_iff] using other
    · simpa [isLeading_iff] using leading member

end Declaration

open Declaration

/-- A simple name with a number between its dollar signs. -/
def HasNumber (simple : Text) : Prop :=
  ∃ piece ∈ simple.splitOn '$', piece ≠ [] ∧ ∀ c ∈ piece, '0' ≤ c ∧ c ≤ '9'

theorem isSynthetic_iff {simple : Text} : isSynthetic simple = true ↔ HasNumber simple := by
  simp [isSynthetic, HasNumber, Text.isDigit_iff]

instance (simple : Text) : Decidable (HasNumber simple) :=
  decidable_of_iff (isSynthetic simple = true) isSynthetic_iff

namespace Entry

variable {line below source : Text} {entry : Entry}

/-- A class text whose first line declares a class, neither anonymous nor generated, and the entry
of that class. -/
inductive Presents : Text → Entry → Prop
  | intro {line below package simple : Text} (single : '\n' ∉ line)
      (feeds : ∀ c ∈ below.head?, c = '\n') (declares : Declares line package simple)
      (named : ¬ HasNumber simple) :
      Presents (line ++ below) ⟨package, simple ++ ".java".toList, line ++ below⟩

theorem ofSource?_append (single : '\n' ∉ line) (feeds : ∀ c ∈ below.head?, c = '\n') :
    ofSource? (line ++ below) = (parse? line).bind fun declaration =>
      if isSynthetic declaration.simpleName then none
      else some ⟨declaration.package, declaration.simpleName ++ ".java".toList, line ++ below⟩ := by
  by_cases filled : line ++ below = []
  · rw [filled, (List.append_eq_nil_iff.mp filled).1]
    rfl
  · obtain ⟨row, first, same⟩ :=
      Option.map_eq_some_iff.mp (Text.words_firstLine? single feeds filled)
    have read : parse? row = parse? line := by simp only [parse?, same]
    rw [ofSource?, first]
    dsimp only
    rw [read]
    cases parse? line <;> rfl

theorem ofSource?_eq_some_iff_presents : ofSource? source = some entry ↔ Presents source entry := by
  constructor
  · intro read
    obtain ⟨line, below, rfl, single, feeds⟩ : ∃ line below, source = line ++ below ∧
        '\n' ∉ line ∧ ∀ c ∈ below.head?, c = '\n' :=
      ⟨_, Text.takeWhile_ne_eq_iff.mp rfl⟩
    rw [ofSource?_append single feeds] at read
    obtain ⟨⟨package, simple⟩, parsed, read⟩ := Option.bind_eq_some_iff.mp read
    split_ifs at read with generated
    obtain rfl := Option.some.inj read
    exact .intro single feeds (parse?_eq_some_iff_declares.mp parsed)
      (mt isSynthetic_iff.mpr generated)
  · rintro ⟨single, feeds, declares, named⟩
    rw [ofSource?_append single feeds, parse?_eq_some_iff_declares.mpr declares, Option.bind_some,
      if_neg (mt isSynthetic_iff.mp named)]

end Entry

/-- A declaration line with blanks wherever there may be some, and what stands below it.  Each word
in front of the name comes with the gap behind it, and the tail is what follows the name. -/
structure DeclarationText where
  indent : Text
  leading : List (Text × Text)
  package : Option Text
  simple : Text
  tail : Text
  below : Text

namespace DeclarationText

variable {given : DeclarationText} {leading : List (Text × Text)} {rest : Text}

def name (given : DeclarationText) : Text :=
  match given.package with
  | some package => package ++ '.' :: given.simple
  | none => given.simple

def lead (leading : List (Text × Text)) : Text :=
  leading.flatMap fun (word, gap) => word ++ gap

def line (given : DeclarationText) : Text :=
  given.indent ++ (lead given.leading ++ (given.name ++ given.tail))

def text (given : DeclarationText) : Text :=
  given.line ++ given.below

structure IsSpace (gap : Text) : Prop where
  blank : Text.IsGap gap
  single : '\n' ∉ gap

instance (gap : Text) : Decidable (IsSpace gap) :=
  decidable_of_iff (Text.IsGap gap ∧ '\n' ∉ gap)
    ⟨fun ⟨blank, single⟩ => ⟨blank, single⟩, fun space => ⟨space.blank, space.single⟩⟩

/-- A text that is laid out by the grammar.  A reserved word names the type only where parameters
follow at once. -/
structure IsLaidOut (given : DeclarationText) : Prop where
  indent : IsSpace given.indent
  leading : ∀ item ∈ given.leading, item.1 ∈ leadingWords ∧ item.2 ≠ [] ∧ IsSpace item.2
  isPublic : "public".toList ∈ given.leading.map Prod.fst
  package : ∀ package ∈ given.package, ∀ c ∈ package, isBlank c = false ∧ c ≠ '<'
  filled : given.simple ≠ []
  simple : ∀ c ∈ given.simple, isBlank c = false ∧ c ≠ '<' ∧ c ≠ '.'
  unbraced : given.simple.head? ≠ some '{'
  tail : '\n' ∉ given.tail ∧ ∀ c ∈ given.tail.head?, c = '<' ∨ isBlank c = true
  unreserved : given.name ∈ leadingWords → given.tail.head? = some '<'
  below : ∀ c ∈ given.below.head?, c = '\n'

theorem words_lead
    (each : ∀ item ∈ leading, item.1 ∈ leadingWords ∧ item.2 ≠ [] ∧ IsSpace item.2)
    (rest : Text) : (lead leading ++ rest).words = leading.map Prod.fst ++ rest.words := by
  induction leading with
  | nil => rfl
  | cons item leading induction =>
      obtain ⟨⟨reserved, filledGap, space⟩, others⟩ := List.forall_mem_cons.mp each
      obtain ⟨filled, plain⟩ := plain_of_leading item.1 reserved
      rw [lead, List.flatMap_cons, ← lead, List.append_assoc, List.append_assoc,
        (space.blank.breaksOff_append filledGap _).words_append, space.blank.words_append,
        induction others, Text.words_of_unbroken filled fun c member => (plain c member).1]
      rfl

theorem IsLaidOut.isQualified (laidOut : given.IsLaidOut) :
    IsQualified given.name (given.package.getD []) given.simple where
  parts := by
    rw [DeclarationText.name]
    cases given.package with
    | none => exact .inl ⟨rfl, rfl⟩
    | some package => exact .inr rfl
  undotted member := (laidOut.simple '.' member).2.2 rfl
  filled := laidOut.filled
  unbraced := laidOut.unbraced

theorem IsLaidOut.plain (laidOut : given.IsLaidOut) :
    ∀ c ∈ given.name, isBlank c = false ∧ c ≠ '<' := by
  have simple (c : Char) (member : c ∈ given.simple) : isBlank c = false ∧ c ≠ '<' :=
    ⟨(laidOut.simple c member).1, (laidOut.simple c member).2.1⟩
  rw [DeclarationText.name]
  cases held : given.package with
  | none => exact simple
  | some package =>
      exact List.forall_mem_append.mpr
        ⟨laidOut.package package held, List.forall_mem_cons.mpr ⟨by decide, simple⟩⟩

theorem IsLaidOut.single (laidOut : given.IsLaidOut) : '\n' ∉ given.line := by
  have lead : '\n' ∉ lead given.leading := by
    intro member
    obtain ⟨item, found, inside⟩ := List.mem_flatMap.mp member
    obtain ⟨reserved, -, space⟩ := laidOut.leading item found
    rcases List.mem_append.mp inside with inside | inside
    · exact absurd ((plain_of_leading item.1 reserved).2 '\n' inside).1 (by decide)
    · exact space.single inside
  have name : '\n' ∉ given.name := fun member => absurd (laidOut.plain '\n' member).1 (by decide)
  simp only [line, List.mem_append, not_or]
  exact ⟨laidOut.indent.single, lead, name, laidOut.tail.1⟩

theorem IsLaidOut.name_ne_nil (laidOut : given.IsLaidOut) : given.name ≠ [] := by
  rw [DeclarationText.name]
  cases given.package with
  | none => exact laidOut.filled
  | some package => simp

theorem IsLaidOut.declares (laidOut : given.IsLaidOut) :
    Declares given.line (given.package.getD []) given.simple := by
  -- The word that names the type goes on to the first blank of the tail.
  obtain ⟨parameters, more, split, unbroken, breaks⟩ : ∃ parameters more,
      given.tail = parameters ++ more ∧ (∀ c ∈ parameters, isBlank c = false) ∧
        Text.BreaksOff more := by
    obtain ⟨more, split, inside, stops⟩ :=
      Text.takeWhile_eq_iff.mp (Eq.refl (given.tail.takeWhile fun c => !isBlank c))
    exact ⟨_, more, split, by simpa using inside, fun c first => by simpa using stops c first⟩
  have begins : ∀ c ∈ parameters.head?, c = '<' := by
    intro c first
    have head : c ∈ given.tail.head? := by
      rw [split, List.head?_append, Option.mem_def.mp first]
      rfl
    refine (laidOut.tail.2 c head).resolve_right ?_
    simp [unbroken c (List.mem_of_mem_head? first)]
  have other : given.name ++ parameters ∉ leadingWords := by
    intro reserved
    cases parameters with
    | nil =>
        rw [List.append_nil] at reserved
        have angle := laidOut.unreserved reserved
        rw [split] at angle
        exact absurd (breaks '<' angle) (by decide)
    | cons c parameters =>
        obtain rfl := begins c rfl
        have inside : '<' ∈ given.name ++ '<' :: parameters :=
          List.mem_append_right _ List.mem_cons_self
        exact ((plain_of_leading _ reserved).2 '<' inside).2 rfl
  have words : given.line.words =
      given.leading.map Prod.fst ++ (given.name ++ parameters) :: more.words := by
    have filled : given.name ++ parameters ≠ [] :=
      List.append_ne_nil_of_left_ne_nil laidOut.name_ne_nil parameters
    rw [line, laidOut.indent.blank.words_append, words_lead laidOut.leading, split,
      ← List.append_assoc given.name, breaks.words_append, Text.words_of_unbroken filled,
      List.singleton_append]
    exact List.forall_mem_append.mpr ⟨fun c member => (laidOut.plain c member).1, unbroken⟩
  refine ⟨given.leading.map Prod.fst, given.name ++ parameters, more.words,
    Text.shows_iff.mpr words, ?_, other, List.mem_append_left _ laidOut.isPublic,
    given.name, parameters, rfl, fun member => (laidOut.plain '<' member).2 rfl, begins,
    laidOut.isQualified⟩
  intro word member
  obtain ⟨item, found, rfl⟩ := List.mem_map.mp member
  exact (laidOut.leading item found).1

end DeclarationText

namespace Entry

/-- A class text that is laid out by the grammar is read unless its class is anonymous or
generated, and an entry is read from those texts only whose first line declares it. -/
theorem ofSource?_by_grammar :
    (∀ given : DeclarationText, given.IsLaidOut →
      (¬ HasNumber given.simple → ofSource? given.text =
        some ⟨given.package.getD [], given.simple ++ ".java".toList, given.text⟩) ∧
      (HasNumber given.simple → ofSource? given.text = none)) ∧
    ∀ source entry, ofSource? source = some entry ↔ Presents source entry := by
  refine ⟨fun given laidOut => ?_, fun source entry => ofSource?_eq_some_iff_presents⟩
  have read := ofSource?_append laidOut.single laidOut.below
  rw [parse?_eq_some_iff_declares.mpr laidOut.declares, Option.bind_some] at read
  constructor
  · intro named
    rwa [if_neg (mt isSynthetic_iff.mp named)] at read
  · intro numbered
    rwa [if_pos (isSynthetic_iff.mpr numbered)] at read

/-- Blanks of several kinds, a modifier in front of `public`, an empty segment of the package, and a
dollar sign before digits and a letter. -/
def sampleDeclaration : DeclarationText where
  indent := " \t".toList
  leading := [("static".toList, "\u00a0".toList), ("public".toList, "\r ".toList),
    ("class".toList, " ".toList)]
  package := some "a..b".toList
  simple := "Box$1x".toList
  tail := "<T, U> extends public \x7b\r".toList
  below := "\n\x7d\n".toList

theorem ofSource?_by_grammar_sample :
    let entry : Entry := ⟨"a..b".toList, "Box$1x.java".toList, sampleDeclaration.text⟩
    sampleDeclaration.IsLaidOut ∧ ¬ HasNumber sampleDeclaration.simple ∧
      ofSource? sampleDeclaration.text = some entry ∧ Presents sampleDeclaration.text entry := by
  intro entry
  have laidOut : sampleDeclaration.IsLaidOut :=
    { indent := by decide
      leading := by decide
      isPublic := by decide
      package := by
        rintro package ⟨⟩
        exact List.all_iff_forall_prop.mp (by decide)
      filled := by decide
      simple := List.all_iff_forall_prop.mp (by decide)
      unbraced := by decide
      tail := ⟨by decide, by rintro c ⟨⟩; exact .inl rfl⟩
      unreserved _ := rfl
      below := by rintro c ⟨⟩; rfl }
  have named : ¬ HasNumber sampleDeclaration.simple := by decide
  obtain ⟨complete, sound⟩ := ofSource?_by_grammar
  have read : ofSource? sampleDeclaration.text = some entry :=
    (complete sampleDeclaration laidOut).1 named
  exact ⟨laidOut, named, read, (sound _ _).mp read⟩

end Entry

end ApiSurface
