import ApiSurface.Proofs.Disassembly.Naming
import ApiSurface.Proofs.Snapshot.Regular

/-! Which entries of disassemblies share a file of the snapshot, and that none of their files is in
the way of a package.  A root may lead anywhere, also upwards. -/

namespace ApiSurface

open ApiSurface.Path

/-- A package that is empty or has no empty segments. -/
def Text.IsSegmented (package : Text) : Prop :=
  package = [] ∨ ∀ segment ∈ package.splitOn '.', segment ≠ []

namespace Entry

variable {raw : Text} {entry : Entry}

theorem ending_of_parseAll (member : entry ∈ parseAll raw) :
    ".java".toList <:+ entry.fileName := by
  obtain ⟨simple, -, -, same⟩ := fileName_of_parseAll member
  exact ⟨simple, same.symm⟩

theorem isPlain_of_parseAll (member : entry ∈ parseAll raw)
    (package : Text.IsClean entry.package) (named : Text.IsClean entry.fileName) :
    entry.IsPlain :=
  isPlain_of_ending package named (ending_of_parseAll member)

theorem isRegular_of_parseAll (member : entry ∈ parseAll raw)
    (package : Text.IsClean entry.package) (named : Text.IsClean entry.fileName)
    (segmented : Text.IsSegmented entry.package) : entry.IsRegular := by
  obtain ⟨simple, filled, undotted, same⟩ := fileName_of_parseAll member
  have inside : simple ⊆ entry.fileName := same ▸ List.subset_append_left simple _
  exact {
    package
    segmented
    named := ⟨simple, filled, undotted,
      ⟨fun found => named.no_slash (inside found), fun found => named.no_terminator (inside found)⟩,
      same⟩ }

end Entry

namespace Snapshot

variable {root : Path} {package : Text} {entry other : Entry}

theorem goal_packageDirectory (root : Path) (clean : Text.IsClean package) :
    goal (packageDirectory root package) = goal root ++ segments package := by
  have straight : Step.up ∉ (segments package).map .into := by simp
  rw [goal, steps_packageDirectory root clean, reach_append, reach_of_straight straight,
    List.filterMap_map]
  congr 1
  exact List.filterMap_some

theorem goal_destination (root : Path) (plain : entry.IsPlain) :
    goal (destination root entry) =
      goal root ++ (segments entry.package ++ [entry.fileName]) := by
  rw [goal, steps_destination plain, reach_append, ← goal,
    goal_packageDirectory root plain.package, ← List.append_assoc]
  rfl

theorem goal_destination_eq_iff (root : Path) (plain : entry.IsPlain) (plain' : other.IsPlain) :
    goal (destination root entry) = goal (destination root other) ↔
      target root entry = target root other := by
  rw [goal_destination root plain, goal_destination root plain', target_eq_iff]
  simp

theorem fileName_notMem_segments (plain : entry.IsPlain) (clean : Text.IsClean package) :
    entry.fileName ∉ segments package :=
  fun found => (mem_segments clean found).2 plain.dotted

theorem not_steps_destination_above (root : Path) (plain : entry.IsPlain)
    (clean : Text.IsClean package) :
    ¬ steps (destination root entry) <+: steps (packageDirectory root package) := by
  rw [steps_destination plain, steps_packageDirectory root plain.package,
    steps_packageDirectory root clean, List.append_assoc, List.prefix_append_right_inj]
  intro above
  have found : Step.into entry.fileName ∈ (segments package).map .into :=
    above.subset (List.mem_append_right _ List.mem_cons_self)
  obtain ⟨segment, member, same⟩ := List.mem_map.mp found
  exact fileName_notMem_segments plain clean (Step.into.inj same ▸ member)

theorem not_goal_destination_above (root : Path) (plain : entry.IsPlain)
    (clean : Text.IsClean package) :
    ¬ goal (destination root entry) <+: goal (packageDirectory root package) := by
  rw [goal_destination root plain, goal_packageDirectory root clean,
    List.prefix_append_right_inj]
  intro above
  exact fileName_notMem_segments plain clean
    (above.subset (List.mem_append_right _ List.mem_cons_self))

/-- Entries of any two disassemblies share a path, and a place, only if they have one file name and
the same segments of a package.  No file is a package directory or above one. -/
theorem no_collision_of_parseAll {raw raw' : Text} (member : entry ∈ Entry.parseAll raw)
    (member' : other ∈ Entry.parseAll raw') (package : Text.IsClean entry.package)
    (package' : Text.IsClean other.package) (named : Text.IsClean entry.fileName)
    (named' : Text.IsClean other.fileName) (root : Path) :
    (destination root entry = destination root other ↔
        entry.fileName = other.fileName ∧ segments entry.package = segments other.package) ∧
      (goal (destination root entry) = goal (destination root other) ↔
        entry.fileName = other.fileName ∧ segments entry.package = segments other.package) ∧
      (∀ package, Text.IsClean package →
        ¬ steps (destination root entry) <+: steps (packageDirectory root package) ∧
          ¬ goal (destination root entry) <+: goal (packageDirectory root package)) ∧
      (Text.IsSegmented entry.package → Text.IsSegmented other.package →
        (goal (destination root entry) = goal (destination root other) ↔
          entry.package = other.package ∧ entry.fileName = other.fileName)) := by
  have plain := Entry.isPlain_of_parseAll member package named
  have plain' := Entry.isPlain_of_parseAll member' package' named'
  refine ⟨?_, ?_, fun within clean => ?_, fun segmented segmented' => ?_⟩
  · rw [destination_eq_iff plain plain', target_eq_iff, and_comm]
  · rw [goal_destination_eq_iff root plain plain', target_eq_iff, and_comm]
  · exact ⟨not_steps_destination_above root plain clean,
      not_goal_destination_above root plain clean⟩
  · have regular := Entry.isRegular_of_parseAll member package named segmented
    have regular' := Entry.isRegular_of_parseAll member' package' named' segmented'
    rw [goal_destination_eq_iff root plain plain', target_eq_iff_key regular regular', Entry.key,
      Entry.key, Prod.mk.injEq]

theorem no_collision_of_parseAll_doubled_dot :
    let doubled : Text := "public class a..b.C \x7b\n\x7d\n".toList
    let single : Text := "public class a.b.C \x7b\n\x7d\n".toList
    let entry : Entry := ⟨"a..b".toList, "C.java".toList, doubled⟩
    let other : Entry := ⟨"a.b".toList, "C.java".toList, single⟩
    let root : Path := "../out".toList
    (entry ∈ Entry.parseAll doubled ∧ other ∈ Entry.parseAll single) ∧
      destination root entry = destination root other ∧
      ¬ goal (destination root entry) <+: goal (packageDirectory root "a.b.C.java".toList) := by
  intro doubled single entry other root
  have member : entry ∈ Entry.parseAll doubled := by decide +kernel
  have member' : other ∈ Entry.parseAll single := by decide +kernel
  obtain ⟨path, -, apart, -⟩ := no_collision_of_parseAll member member' (by decide) (by decide)
    (by decide) (by decide) root
  exact ⟨⟨member, member'⟩, path.mpr (by decide), (apart _ (by decide)).2⟩

end Snapshot

end ApiSurface
