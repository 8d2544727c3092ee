import ApiSurface.Proofs.Snapshot.Openness

/-! A root at which nothing stands leaves the way clear for every package. -/

namespace ApiSurface

namespace FileSystem

open ApiSurface.Path

theorem follow_of_file {files : FileSystem} {absolute : Bool} {here location : Location}
    {steps : List Step} {data : RegularFile} (straight : Step.up ∉ steps)
    (ahead : here <+: location) (through : location <+: reach here steps)
    (inner : location ≠ reach here steps)
    (stands : files.kind? absolute location = some (.file data)) :
    files.follow absolute here steps = .error .refused := by
  induction steps generalizing here with
  | nil => exact absurd (through.eq_of_length_le ahead.length_le) inner
  | cons step rest induction =>
      have later : Step.up ∉ rest := fun member => straight (.tail step member)
      rw [follow_cons]
      by_cases arrived : here = location
      · rw [arrived, stands]
      · rw [kind?_above ahead arrived (by simp [stands])]
        simp only
        split_ifs
        · refine induction later ?_ through inner
          cases step with
          | stay => exact ahead
          | up => exact absurd List.mem_cons_self straight
          | into name =>
              obtain ⟨further, rfl⟩ := ahead
              rw [reach_of_straight straight, List.prefix_append_right_inj] at through
              cases further with
              | nil => exact absurd (List.append_nil here).symm arrived
              | cons first further =>
                  have same : first = name := (List.cons_prefix_cons.mp through).1
                  rw [same, List.append_cons here name further]
                  exact List.prefix_append _ _
        · rfl

end FileSystem

namespace Snapshot

open ApiSurface.Path FileSystem

variable {root : Path} {package : Text} {entries : List Entry} {files : FileSystem}
  {location : Location}

/-- Nothing stands at the root, and no file on the way there. -/
structure IsVacant (files : FileSystem) (root : Path) : Prop where
  vacant : files.kind? root.isAbsolute (names root) = none
  clear : ∀ {location}, location <+: names root → ∀ data,
    files.kind? root.isAbsolute location ≠ some (.file data)

theorem isVacant_of_absent (isRoot : IsRoot root)
    (absent : files.node root = .error .absent) : IsVacant files root := by
  have vacant : files.kind? root.isAbsolute (names root) = none := by
    rcases node_eq_absent_iff.mp absent with nowhere | ⟨location, located, missing⟩
    · obtain ⟨-, start, member, missing⟩ := absent_of_locate isRoot.filled nowhere
      have above := trail_steps isRoot.straight (mem_trail.mpr (.inl member))
      by_contra stands
      by_cases same : start = names root
      · exact stands (same ▸ missing)
      · rw [kind?_above above same stands] at missing
        cases missing
    · exact names_of_locate isRoot.straight located ▸ missing
  refine ⟨vacant, fun {location} above data stands => ?_⟩
  have inner : location ≠ names root := by
    rintro rfl
    rw [vacant] at stands
    cases stands
  rw [← reach_steps isRoot.straight] at above inner
  have refused := follow_of_file isRoot.straight location.nil_prefix above inner stands
  rcases node_eq_absent_iff.mp absent with nowhere | ⟨_, located, -⟩
  · obtain ⟨handed, -⟩ := absent_of_locate isRoot.filled nowhere
    rw [locate_eq_follow isRoot.filled handed, refused] at nowhere
    cases nowhere
  · obtain ⟨-, -, admitted, -⟩ := locate_eq_ok_iff.mp located
    rw [locate_eq_follow isRoot.filled admitted.1, refused] at located
    cases located

theorem IsVacant.below (isVacant : IsVacant files root) (below : names root <+: location) :
    files.kind? root.isAbsolute location = none := by
  by_contra stands
  by_cases same : names root = location
  · exact stands (same ▸ isVacant.vacant)
  · have directory := kind?_above below same stands
    rw [isVacant.vacant] at directory
    cases directory

theorem IsVacant.isClear (isVacant : IsVacant files root) (isRoot : IsRoot root)
    (group : IsGroup package entries) (inhabited : entries ≠ [])
    (fits : ∀ entry ∈ entries, files.Admits (destination root entry)) :
    IsClear files root package entries where
  admitted := by
    obtain ⟨entry, member⟩ := List.exists_mem_of_ne_nil entries inhabited
    have admitted := (fits entry member).of_join (group.plain entry member).fileName
    rwa [group.together entry member] at admitted
  clear := by
    intro location member data stands
    have above := trail_steps (isStraight_packageDirectory isRoot.straight group.clean) member
    rw [names_packageDirectory root group.clean] at above
    rcases List.prefix_or_prefix_of_prefix above (List.prefix_append _ _) with outside | below
    · exact isVacant.clear outside data stands
    · rw [isVacant.below below] at stands
      cases stands
  fits
  free := by
    intro entry member stands
    rw [isVacant.below (by simp [target])] at stands
    cases stands

theorem getLast?_steps_packageDirectory (clean : Text.IsClean package)
    (named : segments package ≠ []) :
    (steps (packageDirectory root package)).getLast? ≠ some .stay := by
  rw [steps_packageDirectory root clean]
  cases found : segments package using List.reverseRecOn with
  | nil => exact absurd found named
  | append_singleton above segment _ => simp

theorem steps_packageDirectory_of_bare (clean : Text.IsClean package)
    (bare : segments package = []) :
    steps (packageDirectory root package) = steps root := by
  rw [steps_packageDirectory root clean, bare, List.map_nil, List.append_nil]

end Snapshot

end ApiSurface
