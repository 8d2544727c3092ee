import ApiSurface.Proofs.Text.Lines

/-! What of a text can be seen.  Trimming keeps the last character that can be seen, and so do line
ends of one kind. -/

namespace ApiSurface

namespace Text

def visible (text : Text) : Text :=
  text.filter fun c => !isBlank c

theorem visible_unifyLineEnds (text : Text) : visible (unifyLineEnds text) = visible text := by
  induction text using unifyLineEnds.induct with
  | case1 => rfl
  | case2 rest induction =>
      rw [unifyLineEnds_break]
      exact induction
  | case3 c rest plain induction =>
      rw [unifyLineEnds_cons plain, visible, visible, List.filter_cons, List.filter_cons]
      split_ifs
      · exact congrArg (c :: ·) induction
      · exact induction

theorem getLast?_trimEnd (text : Text) : (trimEnd text).getLast? = (visible text).getLast? := by
  induction text with
  | nil => rfl
  | cons c rest induction =>
      rw [trimEnd, visible, List.filter_cons]
      change _ = (if (!isBlank c) = true then c :: visible rest else visible rest).getLast?
      cases trimmed : trimEnd rest with
      | nil =>
          rw [trimmed] at induction
          have unseen : visible rest = [] := List.getLast?_eq_none_iff.mp induction.symm
          cases isBlank c <;> simp [unseen]
      | cons first more =>
          rw [trimmed] at induction
          have seen : visible rest ≠ [] := by
            intro unseen
            simp [unseen] at induction
          obtain ⟨next, others, split⟩ := List.exists_cons_of_ne_nil seen
          rw [split] at induction ⊢
          cases isBlank c <;> simp only [Bool.not_true, Bool.not_false, Bool.false_eq_true,
            if_true, if_false, List.getLast?_cons_cons, induction]

theorem head?_trimEnd {text : Text} (kept : trimEnd text ≠ []) :
    (trimEnd text).head? = text.head? := by
  cases text with
  | nil => rfl
  | cons c rest =>
      rw [trimEnd] at kept ⊢
      split at kept
      · split_ifs at kept ⊢
        · exact absurd rfl kept
        · rfl
      · rfl

theorem words_append_blank {c : Char} (blank : isBlank c = true) (text rest : Text) :
    words (text ++ c :: rest) = words text ++ words rest := by
  rw [words, List.splitOnP_append_cons text rest blank, List.filter_append]
  rfl

theorem words_of_unbroken {word : Text} (filled : word ≠ [])
    (unbroken : ∀ c ∈ word, isBlank c = false) : words word = [word] := by
  rw [words, List.splitOnP_eq_singleton unbroken]
  simp [filled]

theorem isDigit_iff {c : Char} : c.isDigit = true ↔ '0' ≤ c ∧ c ≤ '9' := by
  simp [Char.isDigit, Char.le_def]

theorem not_isBlank_of_decimal {c : Char} (decimal : '0' ≤ c ∧ c ≤ '9') : isBlank c = false := by
  have low : '0'.toNat ≤ c.toNat := decimal.1
  have high : c.toNat ≤ '9'.toNat := decimal.2
  simp only [Char.reduceToNat] at low high
  simp only [isBlank, Bool.or_eq_false_iff, Bool.and_eq_false_iff, decide_eq_false_iff_not]
  omega

end Text

end ApiSurface
