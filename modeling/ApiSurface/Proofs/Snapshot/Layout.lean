import ApiSurface.Proofs.Files.Operation
import ApiSurface.Snapshot.Reconcile

namespace ApiSurface

open ApiSurface.Path

/-- A text that a part of a path may hold. -/
structure Text.IsClean (text : Text) : Prop where
  no_slash : '/' ∉ text
  no_terminator : terminator ∉ text

/-- An entry whose package and file name stay within the snapshot, and whose file name is no
segment of a package. -/
structure Entry.IsPlain (entry : Entry) : Prop where
  package : Text.IsClean entry.package
  fileName : IsName entry.fileName
  dotted : '.' ∈ entry.fileName

instance (text : Text) : Decidable text.IsClean :=
  decidable_of_iff ('/' ∉ text ∧ terminator ∉ text)
    ⟨fun ⟨slash, clean⟩ => ⟨slash, clean⟩, fun clean => ⟨clean.no_slash, clean.no_terminator⟩⟩

instance (entry : Entry) : Decidable entry.IsPlain :=
  decidable_of_iff
    (Text.IsClean entry.package ∧ IsName entry.fileName ∧ '.' ∈ entry.fileName)
    ⟨fun ⟨package, fileName, dotted⟩ => ⟨package, fileName, dotted⟩,
      fun plain => ⟨plain.package, plain.fileName, plain.dotted⟩⟩

namespace Snapshot

variable {root : Path} {package : Text} {entry other : Entry}

def segments (package : Text) : List Text :=
  (package.splitOn '.').filter fun segment => !segment.isEmpty

/-- The path of the file that holds an entry. -/
def destination (root : Path) (entry : Entry) : Path :=
  join (packageDirectory root entry.package) entry.fileName

/-- The location of that file. -/
def target (root : Path) (entry : Entry) : Location :=
  names root ++ segments entry.package ++ [entry.fileName]

theorem mem_segments (clean : Text.IsClean package) {segment : Text}
    (member : segment ∈ segments package) : IsName segment ∧ '.' ∉ segment := by
  obtain ⟨split, filled⟩ := List.mem_filter.mp member
  obtain ⟨undotted, inside⟩ := Text.mem_splitOn split
  refine ⟨?_, undotted⟩
  exact {
    ne_nil := by simpa using filled
    no_slash := fun found => clean.no_slash (inside _ found)
    no_terminator := fun found => clean.no_terminator (inside _ found)
    ne_stay := by
      rintro rfl
      simp at undotted
    ne_up := by
      rintro rfl
      simp at undotted }

private theorem isAbsolute_segment (clean : Text.IsClean package) {segment : Text}
    (member : segment ∈ segments package) : isAbsolute segment = false :=
  not_isAbsolute_of_part (mem_segments clean member).1.no_slash

private theorem flatMap_steps_segments (clean : Text.IsClean package) :
    (segments package).flatMap steps = (segments package).map .into := by
  rw [List.map_eq_flatMap]
  refine List.flatMap_congr fun segment member => ?_
  have isName := (mem_segments clean member).1
  rw [steps_of_part isName.ne_nil isName.no_slash, ofPart_of_isName isName]

theorem steps_packageDirectory (root : Path) (clean : Text.IsClean package) :
    steps (packageDirectory root package) = steps root ++ (segments package).map .into := by
  rw [← flatMap_steps_segments clean]
  exact (steps_foldl_join (fun _ => isAbsolute_segment clean) root).1

theorem isAbsolute_packageDirectory (root : Path) (clean : Text.IsClean package) :
    isAbsolute (packageDirectory root package) = isAbsolute root :=
  (steps_foldl_join (fun _ => isAbsolute_segment clean) root).2

theorem packageDirectory_ne_nil (filled : root ≠ []) (clean : Text.IsClean package) :
    packageDirectory root package ≠ [] := by
  refine List.foldlRecOn (motive := (· ≠ [])) (segments package) join filled ?_
  intro base _ segment member
  exact join_ne_nil (mem_segments clean member).1.ne_nil

theorem names_packageDirectory (root : Path) (clean : Text.IsClean package) :
    names (packageDirectory root package) = names root ++ segments package := by
  rw [names, steps_packageDirectory root clean, List.filterMap_append, ← names,
    List.filterMap_map]
  congr 1
  exact List.filterMap_some

theorem isStraight_packageDirectory (straight : root.IsStraight)
    (clean : Text.IsClean package) : IsStraight (packageDirectory root package) := by
  rw [IsStraight, steps_packageDirectory root clean]
  simpa [IsStraight] using straight

theorem packageDirectory_congr {package other : Text}
    (same : segments package = segments other) :
    packageDirectory root package = packageDirectory root other :=
  congrArg (List.foldl join root) same

theorem steps_destination (plain : entry.IsPlain) :
    steps (destination root entry) =
      steps (packageDirectory root entry.package) ++ [.into entry.fileName] :=
  steps_join_name _ plain.fileName

theorem isAbsolute_destination (plain : entry.IsPlain) :
    isAbsolute (destination root entry) = isAbsolute root := by
  rw [destination, isAbsolute_join _ plain.fileName.no_slash,
    isAbsolute_packageDirectory root plain.package]

theorem names_destination (plain : entry.IsPlain) :
    names (destination root entry) = target root entry := by
  rw [destination, names_join _ plain.fileName, names_packageDirectory root plain.package]
  rfl

theorem not_demandsDirectory_destination (plain : entry.IsPlain) :
    demandsDirectory (destination root entry) = false :=
  not_demandsDirectory_join _ plain.fileName.ne_nil plain.fileName.no_slash

theorem isStraight_destination (straight : root.IsStraight) (plain : entry.IsPlain) :
    (destination root entry).IsStraight :=
  isStraight_join (isStraight_packageDirectory straight plain.package) plain.fileName

theorem target_eq_iff :
    target root entry = target root other ↔
      segments entry.package = segments other.package ∧ entry.fileName = other.fileName := by
  simp [target, List.append_assoc]

theorem destination_eq_iff (plain : entry.IsPlain) (plain' : other.IsPlain) :
    destination root entry = destination root other ↔
      target root entry = target root other := by
  constructor
  · intro same
    rw [← names_destination plain, ← names_destination plain', same]
  · intro same
    obtain ⟨sameSegments, sameName⟩ := target_eq_iff.mp same
    rw [destination, destination, packageDirectory_congr sameSegments, sameName]

/-- Where the directories of packages are, and the directories around them. -/
def Ground (root : Path) (location : Location) : Prop :=
  ∃ package, Text.IsClean package ∧ location <+: names (packageDirectory root package)

theorem not_ground_of_dotted {name : Text} (dotted : '.' ∈ name) (within : List Text) :
    ¬ Ground root (names root ++ within ++ [name]) := by
  rintro ⟨package, clean, above⟩
  rw [names_packageDirectory root clean, List.append_assoc,
    List.prefix_append_right_inj] at above
  have member : name ∈ segments package :=
    above.subset (List.mem_append_right within List.mem_cons_self)
  exact (mem_segments clean member).2 dotted

theorem not_ground_target (plain : entry.IsPlain) : ¬ Ground root (target root entry) :=
  not_ground_of_dotted plain.dotted _

theorem ground_of_trail (straight : root.IsStraight) (clean : Text.IsClean package)
    {location : Location}
    (member : location ∈ trail [] (steps (packageDirectory root package))) :
    Ground root location :=
  ⟨package, clean, trail_steps (isStraight_packageDirectory straight clean) member⟩

end Snapshot

end ApiSurface
