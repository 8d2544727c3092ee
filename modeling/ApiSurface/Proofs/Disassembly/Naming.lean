import ApiSurface.Disassembly.Entry
import ApiSurface.Proofs.Text.Cut

/-! What the names of entries look like, whatever text they are read from. -/

namespace ApiSurface

namespace Declaration

variable {line : Text} {declaration : Declaration}

theorem undotted_ofQualified (name : Text) : '.' ∉ (ofQualified name).simpleName := by
  rw [ofQualified]
  split
  · next cut => exact (Text.cutLast_eq_some_iff.mp cut).2
  · next cut => exact Text.cutLast_eq_none_iff.mp cut

/-- A line declares what its first word names that may not stand in front of a name, if it has the
word `public` anywhere. -/
theorem parse?_eq_some_iff :
    parse? line = some declaration ↔
      "public".toList ∈ line.words ∧
        ∃ word, line.words.find? (fun word => !isLeading word) = some word ∧
          declaration = ofQualified (word.takeWhile (· ≠ '<')) ∧
          declaration.simpleName ≠ [] ∧ declaration.simpleName.head? ≠ some '{' := by
  simp only [parse?, List.contains_iff_mem]
  split_ifs with isPublic
  · cases line.words.find? fun word => !isLeading word with
    | none => simp
    | some word =>
        simp only [Bool.or_eq_true, List.isEmpty_iff, decide_eq_true_eq, isPublic, true_and,
          Option.some.injEq, exists_eq_left']
        split_ifs with refused
        · refine iff_of_false (by simp) ?_
          rintro ⟨rfl, filled, named⟩
          exact refused.elim filled named
        · rw [Option.some.injEq]
          constructor
          · rintro rfl
            exact ⟨rfl, not_or.mp refused⟩
          · exact fun ⟨same, _⟩ => same.symm
  · exact iff_of_false (by simp) (fun found => isPublic found.1)

end Declaration

namespace Entry

theorem ofSource?_eq_some_iff {source : Text} {entry : Entry} :
    ofSource? source = some entry ↔
      ∃ line declaration, source.firstLine? = some line ∧
        Declaration.parse? line = some declaration ∧
        isSynthetic declaration.simpleName = false ∧
        entry = ⟨declaration.package, declaration.simpleName ++ ".java".toList, source⟩ := by
  constructor
  · intro read
    rw [ofSource?] at read
    split at read
    · cases read
    · next line first =>
      split at read
      · cases read
      · next declaration parsed =>
        split_ifs at read with generated
        exact ⟨line, declaration, first, parsed, Bool.eq_false_iff.mpr generated,
          (Option.some.inj read).symm⟩
  · rintro ⟨line, declaration, first, parsed, named, rfl⟩
    simp only [ofSource?, first, parsed, named, Bool.false_eq_true, if_false]

theorem fileName_of_parseAll {raw : Text} {entry : Entry} (member : entry ∈ parseAll raw) :
    ∃ simple, simple ≠ [] ∧ '.' ∉ simple ∧ entry.fileName = simple ++ ".java".toList := by
  obtain ⟨chunk, -, read⟩ := List.mem_filterMap.mp member
  obtain ⟨line, declaration, -, parsed, -, rfl⟩ := ofSource?_eq_some_iff.mp read
  obtain ⟨-, word, -, rfl, filled, -⟩ := Declaration.parse?_eq_some_iff.mp parsed
  exact ⟨_, filled, Declaration.undotted_ofQualified _, rfl⟩

end Entry

end ApiSurface
