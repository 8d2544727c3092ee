import ApiSurface.Archive.Basic
import ApiSurface.Proofs.Disassembly.Naming
import ApiSurface.Proofs.Snapshot.Regular
import Mathlib.Data.List.Nodup

/-! The qualified names of classes: as the names of members in an archive, with dots as a
disassembler knows them, and as the places of entries in a snapshot. -/

namespace ApiSurface

open ApiSurface.Path

namespace Archive

/-- A text with dots for slashes of either kind. -/
def withDots (stem : Text) : Text :=
  stem.map fun c => if c = '/' ∨ c = '\\' then '.' else c

theorem className?_append_classEnding (stem : Text) :
    className? (stem ++ classEnding) = some (withDots stem) := by
  rw [className?, Text.dropEnding?_eq_some_iff.mpr rfl]
  rfl

theorem className?_eq_none {name : Text} (other : ¬classEnding <:+ name) :
    className? name = none := by
  rw [className?, Option.map_eq_none_iff, Option.eq_none_iff_forall_ne_some]
  intro stem dropped
  exact other ⟨stem, (Text.dropEnding?_eq_some_iff.mp dropped).symm⟩

/-- The classes of an archive whose members can all be opened. -/
def classList (archive : Archive) : List Text :=
  archive.filterMap fun member => className? member.name

theorem classList_cons (member : Member) (archive : Archive) :
    classList (member :: archive) = (className? member.name).toList ++ classList archive := by
  rw [classList, List.filterMap_cons]
  cases className? member.name <;> rfl

end Archive

/-- A class by the folders it lies in and its simple name. -/
structure QualifiedName where
  folders : List Text
  simple : Text
deriving DecidableEq, Repr

namespace QualifiedName

variable {name other : QualifiedName}

def memberName (name : QualifiedName) : Text :=
  ['/'].intercalate (name.folders ++ [name.simple ++ Archive.classEnding])

def dotted (name : QualifiedName) : Text :=
  ['.'].intercalate (name.folders ++ [name.simple])

def package (name : QualifiedName) : Text :=
  ['.'].intercalate name.folders

def fileName (name : QualifiedName) : Text :=
  name.simple ++ ".java".toList

def entry (name : QualifiedName) (source : Text) : Entry :=
  ⟨name.package, name.fileName, source⟩

/-- A text that may stand between the slashes of a member's name. -/
structure IsSegment (segment : Text) : Prop where
  filled : segment ≠ []
  undotted : '.' ∉ segment
  no_slash : '/' ∉ segment
  no_backslash : '\\' ∉ segment
  no_angle : '<' ∉ segment
  no_terminator : terminator ∉ segment
  unbroken : ∀ c ∈ segment, isBlank c = false

/-- A name that a declaration line shows as it is. -/
structure IsOrdinary (name : QualifiedName) : Prop where
  segments : ∀ segment ∈ name.folders ++ [name.simple], IsSegment segment
  unbraced : name.simple.head? ≠ some '{'
  unreserved : name.folders = [] → name.simple ∉ "public".toList :: Declaration.modifiers

instance (segment : Text) : Decidable (IsSegment segment) :=
  decidable_of_iff
    (segment ≠ [] ∧ '.' ∉ segment ∧ '/' ∉ segment ∧ '\\' ∉ segment ∧ '<' ∉ segment ∧
      terminator ∉ segment ∧ segment.all (fun c => !isBlank c) = true)
    ⟨fun ⟨filled, dot, slash, backslash, angle, clean, unbroken⟩ =>
        ⟨filled, dot, slash, backslash, angle, clean, by simpa using unbroken⟩,
      fun isSegment => ⟨isSegment.filled, isSegment.undotted, isSegment.no_slash,
        isSegment.no_backslash, isSegment.no_angle, isSegment.no_terminator,
        by simpa using isSegment.unbroken⟩⟩

instance (name : QualifiedName) : Decidable name.IsOrdinary :=
  decidable_of_iff
    ((∀ segment ∈ name.folders ++ [name.simple], IsSegment segment) ∧
      name.simple.head? ≠ some '{' ∧
      (name.folders = [] → name.simple ∉ "public".toList :: Declaration.modifiers))
    ⟨fun ⟨segments, unbraced, unreserved⟩ => ⟨segments, unbraced, unreserved⟩,
      fun ordinary => ⟨ordinary.segments, ordinary.unbraced, ordinary.unreserved⟩⟩

theorem IsOrdinary.folder (ordinary : name.IsOrdinary) {folder : Text}
    (member : folder ∈ name.folders) : IsSegment folder :=
  ordinary.segments folder (List.mem_append_left _ member)

theorem IsOrdinary.simple (ordinary : name.IsOrdinary) : IsSegment name.simple :=
  ordinary.segments name.simple (List.mem_append_right _ (List.mem_singleton.mpr rfl))

theorem className?_memberName (ordinary : name.IsOrdinary) :
    Archive.className? name.memberName = some name.dotted := by
  rw [memberName, Text.intercalate_append_last, Archive.className?_append_classEnding,
    Archive.withDots, dotted, Text.map_intercalate]
  · rfl
  · intro segment member
    have isSegment := ordinary.segments segment member
    refine (List.map_congr_left fun c inside => ?_).trans (List.map_id segment)
    apply if_neg
    rintro (rfl | rfl)
    · exact isSegment.no_slash inside
    · exact isSegment.no_backslash inside

theorem memberName_inj (ordinary : name.IsOrdinary) (ordinary' : other.IsOrdinary) :
    name.memberName = other.memberName ↔ name = other := by
  refine ⟨fun same => ?_, congrArg memberName⟩
  have pieces (name : QualifiedName) (ordinary : name.IsOrdinary) :
      name.memberName.splitOn '/' = name.folders ++ [name.simple ++ Archive.classEnding] := by
    refine List.splitOn_intercalate '/' (List.forall_mem_append.mpr ⟨?_, ?_⟩) (by simp)
    · exact fun folder member => (ordinary.folder member).no_slash
    · rw [List.forall_mem_singleton, List.mem_append, not_or]
      exact ⟨ordinary.simple.no_slash, by decide⟩
  have split := congrArg (List.splitOn '/') same
  rw [pieces name ordinary, pieces other ordinary'] at split
  obtain ⟨sameFolders, sameLast⟩ := List.append_inj' split rfl
  obtain ⟨sameSimple, -⟩ := List.append_inj' (List.singleton_inj.mp sameLast) rfl
  cases name
  cases other
  exact congrArg₂ QualifiedName.mk sameFolders sameSimple

/-- The classes that a list of names stands for in an archive, in its order. -/
structure Lists (names : List QualifiedName) (archive : Archive) : Prop where
  ordinary : ∀ name ∈ names, name.IsOrdinary
  sublist : (names.map memberName).Sublist (archive.map Archive.Member.name)
  dotted : archive.classList = names.map QualifiedName.dotted
  complete : ∀ member ∈ archive, Archive.classEnding <:+ member.name →
    member.name ∈ names.map memberName

theorem exists_lists {archive : Archive}
    (ordinary : ∀ member ∈ archive, Archive.classEnding <:+ member.name →
      ∃ name : QualifiedName, name.IsOrdinary ∧ member.name = name.memberName) :
    ∃ names, Lists names archive := by
  induction archive with
  | nil => exact ⟨[], by simp, .slnil, rfl, by simp⟩
  | cons member archive induction =>
      obtain ⟨here, others⟩ := List.forall_mem_cons.mp ordinary
      obtain ⟨names, lists⟩ := induction others
      by_cases ends : Archive.classEnding <:+ member.name
      · obtain ⟨name, named, same⟩ := here ends
        refine ⟨name :: names, List.forall_mem_cons.mpr ⟨named, lists.ordinary⟩, ?_, ?_, ?_⟩
        · rw [List.map_cons, List.map_cons, same]
          exact lists.sublist.cons_cons _
        · rw [Archive.classList_cons, same, className?_memberName named, lists.dotted]
          rfl
        · rw [List.map_cons, ← same, List.forall_mem_cons]
          exact ⟨fun _ => List.mem_cons_self,
            fun other member ending => .tail _ (lists.complete other member ending)⟩
      · refine ⟨names, lists.ordinary, lists.sublist.cons _, ?_, ?_⟩
        · rw [Archive.classList_cons, Archive.className?_eq_none ends, lists.dotted]
          rfl
        · exact List.forall_mem_cons.mpr ⟨fun ending => absurd ending ends, lists.complete⟩

theorem Lists.nodup {names : List QualifiedName} {archive : Archive} (lists : Lists names archive)
    (distinct : (archive.map Archive.Member.name).Nodup) : names.Nodup :=
  List.Nodup.of_map memberName (distinct.sublist lists.sublist)

theorem Lists.mem_iff {names : List QualifiedName} {archive : Archive}
    (lists : Lists names archive) :
    name ∈ names ↔ name.IsOrdinary ∧ name.memberName ∈ archive.map Archive.Member.name := by
  constructor
  · intro listed
    exact ⟨lists.ordinary name listed, lists.sublist.subset (List.mem_map_of_mem listed)⟩
  · rintro ⟨ordinary, held⟩
    obtain ⟨member, inside, same⟩ := List.mem_map.mp held
    have ending : Archive.classEnding <:+ member.name := by
      rw [same, memberName, Text.intercalate_append_last]
      exact List.suffix_append _ _
    obtain ⟨other, listed, same'⟩ := List.mem_map.mp (lists.complete member inside ending)
    have equal := (memberName_inj (lists.ordinary other listed) ordinary).mp (same'.trans same)
    exact equal ▸ listed

theorem mem_dotted {c : Char} (member : c ∈ name.dotted) :
    c = '.' ∨ ∃ segment ∈ name.folders ++ [name.simple], c ∈ segment :=
  Text.mem_of_mem_intercalate member

theorem unbroken_dotted (ordinary : name.IsOrdinary) : ∀ c ∈ name.dotted, isBlank c = false := by
  intro c member
  rcases mem_dotted member with rfl | ⟨segment, found, inside⟩
  · decide
  · exact (ordinary.segments segment found).unbroken c inside

theorem no_angle_dotted (ordinary : name.IsOrdinary) : '<' ∉ name.dotted := by
  intro member
  rcases mem_dotted member with same | ⟨segment, found, inside⟩
  · cases same
  · exact (ordinary.segments segment found).no_angle inside

theorem dotted_of_folders (inner : name.folders ≠ []) :
    name.dotted = name.package ++ '.' :: name.simple :=
  Text.intercalate_concat '.' inner name.simple

theorem ofQualified_dotted (ordinary : name.IsOrdinary) :
    Declaration.ofQualified name.dotted = ⟨name.package, name.simple⟩ := by
  by_cases outer : name.folders = []
  · have bare : name.dotted = name.simple := by simp [dotted, outer]
    rw [Declaration.ofQualified, bare, Text.cutLast_eq_none_iff.mpr ordinary.simple.undotted,
      package, outer]
    rfl
  · rw [Declaration.ofQualified, dotted_of_folders outer,
      Text.cutLast_append name.package ordinary.simple.undotted]

theorem not_isLeading_dotted (ordinary : name.IsOrdinary) :
    Declaration.isLeading name.dotted = false := by
  have leading : Declaration.isLeading name.dotted = true ↔
      name.dotted ∈ "public".toList :: Declaration.modifiers := by
    simp [Declaration.isLeading]
  rw [← Bool.not_eq_true, leading]
  by_cases outer : name.folders = []
  · have bare : name.dotted = name.simple := by simp [dotted, outer]
    rw [bare]
    exact ordinary.unreserved outer
  · intro reserved
    have undotted : ∀ word ∈ "public".toList :: Declaration.modifiers, '.' ∉ word := by decide
    refine undotted _ reserved ?_
    rw [dotted_of_folders outer]
    exact List.mem_append_right _ List.mem_cons_self

theorem dotted_inj (ordinary : name.IsOrdinary) (ordinary' : other.IsOrdinary) :
    name.dotted = other.dotted ↔ name = other := by
  refine ⟨fun same => ?_, congrArg dotted⟩
  have pieces (name : QualifiedName) (ordinary : name.IsOrdinary) :
      name.dotted.splitOn '.' = name.folders ++ [name.simple] :=
    List.splitOn_intercalate '.'
      (fun segment member => (ordinary.segments segment member).undotted) (by simp)
  have split := congrArg (List.splitOn '.') same
  rw [pieces name ordinary, pieces other ordinary'] at split
  obtain ⟨sameFolders, sameSimple⟩ := List.append_inj' split rfl
  cases name
  cases other
  exact congrArg₂ QualifiedName.mk sameFolders (List.singleton_inj.mp sameSimple)

theorem dotted_ne_nil (ordinary : name.IsOrdinary) : name.dotted ≠ [] := by
  by_cases outer : name.folders = []
  · simpa [dotted, outer] using ordinary.simple.filled
  · rw [dotted_of_folders outer]
    simp

theorem segments_package (ordinary : name.IsOrdinary) :
    Snapshot.segments name.package = name.folders := by
  by_cases outer : name.folders = []
  · rw [package, outer]
    rfl
  · rw [Snapshot.segments, package,
      List.splitOn_intercalate '.' (fun folder member => (ordinary.folder member).undotted) outer]
    refine List.filter_eq_self.mpr fun folder member => ?_
    simpa using (ordinary.folder member).filled

theorem isRegular_entry (ordinary : name.IsOrdinary) (source : Text) :
    (name.entry source).IsRegular where
  package := by
    constructor
    · intro member
      rcases Text.mem_of_mem_intercalate member with same | ⟨folder, found, inside⟩
      · cases same
      · exact (ordinary.folder found).no_slash inside
    · intro member
      rcases Text.mem_of_mem_intercalate member with same | ⟨folder, found, inside⟩
      · cases same
      · exact (ordinary.folder found).no_terminator inside
  segmented := by
    by_cases outer : name.folders = []
    · exact .inl (by rw [entry, package, outer]; rfl)
    · right
      change ∀ segment ∈ name.package.splitOn '.', segment ≠ []
      rw [package,
        List.splitOn_intercalate '.' (fun folder member => (ordinary.folder member).undotted) outer]
      exact fun folder member => (ordinary.folder member).filled
  named := ⟨name.simple, ordinary.simple.filled, ordinary.simple.undotted,
    ⟨ordinary.simple.no_slash, ordinary.simple.no_terminator⟩, rfl⟩

theorem target_entry (root : Path) (ordinary : name.IsOrdinary) (source : Text) :
    Snapshot.target root (name.entry source) = names root ++ name.folders ++ [name.fileName] := by
  rw [Snapshot.target, entry, segments_package ordinary]

theorem key_entry_inj (ordinary : name.IsOrdinary) (ordinary' : other.IsOrdinary)
    {source source' : Text} :
    (name.entry source).key = (other.entry source').key ↔ name = other := by
  constructor
  · intro same
    obtain ⟨samePackage, sameFile⟩ := Prod.mk.inj same
    have sameFolders := congrArg Snapshot.segments samePackage
    change Snapshot.segments name.package = Snapshot.segments other.package at sameFolders
    rw [segments_package ordinary, segments_package ordinary'] at sameFolders
    obtain ⟨sameSimple, -⟩ := List.append_inj' sameFile rfl
    cases name
    cases other
    exact congrArg₂ QualifiedName.mk sameFolders sameSimple
  · rintro rfl
    rfl

end QualifiedName

end ApiSurface
