import ApiSurface.Proofs.Text.Lines

/-! Texts that differ in their line ends only, and texts in which unifying the line ends leaves no
carriage return in front of a line feed. -/

namespace ApiSurface

namespace Text

variable {text raw part : Text} {c : Char}

/-- The second text is the first with carriage returns put in front of some line feeds. -/
inductive Returned : Text → Text → Prop
  | nil : Returned [] []
  | keep {text raw : Text} (c : Char) (rest : Returned text raw) : Returned (c :: text) (c :: raw)
  | turn {text raw : Text} (rest : Returned text raw) :
      Returned ('\n' :: text) ('\r' :: '\n' :: raw)

theorem isUnified_cons :
    IsUnified (c :: text) ↔ (c = '\r' → text.head? ≠ some '\n') ∧ IsUnified text := by
  have start : ['\r', '\n'] <+: c :: text ↔ c = '\r' ∧ text.head? = some '\n' := by
    rw [List.cons_prefix_cons, List.singleton_prefix_iff_head?_eq_some, @eq_comm _ '\r']
  rw [IsUnified, List.infix_cons_iff, start, not_or, not_and]
  rfl

theorem IsUnified.of_inside (unified : text.IsUnified) (inside : part <:+: text) : part.IsUnified :=
  fun broken => unified (broken.trans inside)

theorem Returned.head? (returned : Returned text raw) (feeds : raw.head? = some '\n') :
    text.head? = some '\n' := by
  cases returned with
  | nil => cases feeds
  | keep c rest => exact feeds
  | turn rest => rfl

theorem returned_unifyLineEnds (raw : Text) : Returned (unifyLineEnds raw) raw := by
  induction raw using unifyLineEnds.induct with
  | case1 => exact .nil
  | case2 rest induction =>
      rw [unifyLineEnds_break]
      exact .turn induction
  | case3 c rest plain induction =>
      rw [unifyLineEnds_cons plain]
      exact .keep c induction

theorem unifyLineEnds_of_returned (unified : text.IsUnified) (returned : Returned text raw) :
    unifyLineEnds raw = text := by
  induction returned with
  | nil => rfl
  | @keep text raw c rest induction =>
      obtain ⟨first, others⟩ := isUnified_cons.mp unified
      have plain (more : Text) (isReturn : c = '\r') (feeds : raw = '\n' :: more) : False :=
        first isReturn (rest.head? (by rw [feeds]; rfl))
      rw [unifyLineEnds_cons plain, induction others]
  | turn rest induction =>
      rw [unifyLineEnds_break, induction (isUnified_cons.mp unified).2]

theorem isUnified_unifyLineEnds (single : ¬ ['\r', '\r', '\n'] <:+: raw) :
    IsUnified (unifyLineEnds raw) := by
  induction raw using unifyLineEnds.induct with
  | case1 => decide
  | case2 rest induction =>
      have later : ¬ ['\r', '\r', '\n'] <:+: rest := fun inside =>
        single (inside.trans (List.suffix_append ['\r', '\n'] rest).isInfix)
      rw [unifyLineEnds_break, isUnified_cons]
      exact ⟨fun isReturn => absurd isReturn (by decide), induction later⟩
  | case3 c rest plain induction =>
      have later : ¬ ['\r', '\r', '\n'] <:+: rest := fun inside =>
        single (inside.trans (List.suffix_cons c rest).isInfix)
      rw [unifyLineEnds_cons plain, isUnified_cons]
      refine ⟨fun isReturn feeds => ?_, induction later⟩
      -- A line feed in front comes from one, or from one with a carriage return before it.
      have returned := returned_unifyLineEnds rest
      generalize unifyLineEnds rest = text at returned feeds
      cases returned with
      | nil => cases feeds
      | @keep text raw d same => exact plain raw isReturn (Option.some.inj feeds ▸ rfl)
      | @turn text raw same =>
          subst isReturn
          exact single (List.prefix_append ['\r', '\r', '\n'] raw).isInfix

end Text

end ApiSurface
