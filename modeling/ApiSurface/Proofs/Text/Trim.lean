import ApiSurface.Proofs.Text.Words

/-! What trimming takes off a text: the blanks at both ends, and nothing else. -/

namespace ApiSurface

namespace Text

variable {text before after gap : Text}

theorem IsGap.trimStart_append (blank : IsGap gap) (rest : Text) :
    (gap ++ rest).trimStart = rest.trimStart :=
  List.dropWhile_append_of_pos blank

theorem IsGap.trimEnd_eq_nil (blank : IsGap gap) : gap.trimEnd = [] := by
  induction gap with
  | nil => rfl
  | cons c gap induction =>
      obtain ⟨here, others⟩ := List.forall_mem_cons.mp blank
      rw [trimEnd, induction others, here]
      rfl

theorem trimEnd_append (unbroken : ∀ c ∈ text, isBlank c = false) (blank : IsGap gap) :
    (text ++ gap).trimEnd = text := by
  induction text with
  | nil => exact blank.trimEnd_eq_nil
  | cons c text induction =>
      obtain ⟨here, others⟩ := List.forall_mem_cons.mp unbroken
      rw [List.cons_append, trimEnd, induction others, here]
      cases text <;> rfl

theorem trim_append (blank : IsGap before) (unbroken : ∀ c ∈ text, isBlank c = false)
    (blankLater : IsGap after) : (before ++ (text ++ after)).trim = text := by
  rw [trim, blank.trimStart_append]
  cases text with
  | nil =>
      rw [List.nil_append, ← List.append_nil after, blankLater.trimStart_append]
      rfl
  | cons c text =>
      have seen := unbroken c List.mem_cons_self
      rw [trimStart, List.cons_append, List.dropWhile_cons_of_neg (by simp [seen])]
      exact trimEnd_append unbroken blankLater

theorem exists_gap_behind (text : Text) : ∃ gap, IsGap gap ∧ text = text.trimEnd ++ gap := by
  induction text with
  | nil => exact ⟨[], List.forall_mem_nil _, rfl⟩
  | cons c rest induction =>
      obtain ⟨gap, blank, split⟩ := induction
      rw [trimEnd]
      split
      · next empty =>
        rw [empty, List.nil_append] at split
        split_ifs with blankHere
        · exact ⟨c :: rest, List.forall_mem_cons.mpr ⟨blankHere, split ▸ blank⟩, rfl⟩
        · exact ⟨rest, split ▸ blank, rfl⟩
      · exact ⟨gap, blank, congrArg (c :: ·) split⟩

theorem exists_gaps (text : Text) :
    ∃ before after, IsGap before ∧ IsGap after ∧ text = before ++ (text.trim ++ after) := by
  obtain ⟨after, blank, split⟩ := exists_gap_behind text.trimStart
  refine ⟨text.takeWhile isBlank, after, fun c => List.mem_takeWhile_imp, blank, ?_⟩
  rw [trim, ← split, trimStart, List.takeWhile_append_dropWhile]

end Text

end ApiSurface
