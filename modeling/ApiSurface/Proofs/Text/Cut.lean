import ApiSurface.Text.Basic
import Mathlib.Data.List.TakeWhile
import Mathlib.Tactic.Common

namespace ApiSurface

namespace Text

variable {mark : Char} {text before after : Text}

theorem cutFirst_append (unmarked : mark ∉ before) (after : Text) :
    cutFirst mark (before ++ mark :: after) = some (before, after) := by
  induction before with
  | nil => exact if_pos rfl
  | cons c before induction =>
      obtain ⟨other, unmarked⟩ := not_or.mp (mt List.mem_cons.mpr unmarked)
      rw [List.cons_append, cutFirst, if_neg (Ne.symm other), induction unmarked]
      rfl

theorem cutFirst_eq_none_iff : cutFirst mark text = none ↔ mark ∉ text := by
  induction text with
  | nil => simp [cutFirst]
  | cons c rest induction =>
      rw [cutFirst, List.mem_cons, not_or, ← induction]
      split_ifs with marked
      · simp [marked]
      · simp [Ne.symm marked]

theorem cutFirst_eq_some_iff :
    cutFirst mark text = some (before, after) ↔
      text = before ++ mark :: after ∧ mark ∉ before := by
  constructor
  · intro cut
    induction text generalizing before with
    | nil => cases cut
    | cons c rest induction =>
        rw [cutFirst] at cut
        split_ifs at cut with marked
        · obtain ⟨rfl, rfl⟩ := Prod.mk.inj (Option.some.inj cut)
          exact ⟨marked ▸ rfl, List.not_mem_nil⟩
        · obtain ⟨⟨first, last⟩, found, same⟩ := Option.map_eq_some_iff.mp cut
          obtain ⟨rfl, rfl⟩ := Prod.mk.inj same
          obtain ⟨rfl, unmarked⟩ := induction found
          refine ⟨rfl, ?_⟩
          rw [List.mem_cons, not_or]
          exact ⟨Ne.symm marked, unmarked⟩
  · rintro ⟨rfl, unmarked⟩
    exact cutFirst_append unmarked after

theorem cutLast_eq_none_iff : cutLast mark text = none ↔ mark ∉ text := by
  induction text with
  | nil => simp [cutLast]
  | cons c rest induction =>
      rw [cutLast, List.mem_cons, not_or, ← induction]
      cases cutLast mark rest with
      | some parts => simp
      | none => simp [@eq_comm _ mark]

theorem cutLast_append (before : Text) (unmarked : mark ∉ after) :
    cutLast mark (before ++ mark :: after) = some (before, after) := by
  induction before with
  | nil => rw [List.nil_append, cutLast, cutLast_eq_none_iff.mpr unmarked, if_pos rfl]
  | cons c before induction => rw [List.cons_append, cutLast, induction]

theorem cutLast_eq_some_iff :
    cutLast mark text = some (before, after) ↔
      text = before ++ mark :: after ∧ mark ∉ after := by
  constructor
  · intro cut
    induction text generalizing before with
    | nil => cases cut
    | cons c rest induction =>
        rw [cutLast] at cut
        split at cut
        · next first last found =>
          obtain ⟨rfl, rfl⟩ := Prod.mk.inj (Option.some.inj cut)
          obtain ⟨rfl, unmarked⟩ := induction found
          exact ⟨rfl, unmarked⟩
        · next found =>
          split_ifs at cut with marked
          obtain ⟨rfl, rfl⟩ := Prod.mk.inj (Option.some.inj cut)
          exact ⟨marked ▸ rfl, cutLast_eq_none_iff.mp found⟩
  · rintro ⟨rfl, unmarked⟩
    exact cutLast_append before unmarked

theorem takeWhile_eq_iff {kind : Char → Bool} {front : Text} :
    text.takeWhile kind = front ↔
      ∃ rest, text = front ++ rest ∧ (∀ c ∈ front, kind c = true) ∧
        ∀ c ∈ rest.head?, kind c = false := by
  constructor
  · rintro rfl
    refine ⟨text.dropWhile kind, List.takeWhile_append_dropWhile.symm,
      fun _ => List.mem_takeWhile_imp, fun c first => ?_⟩
    have stops := List.head?_dropWhile_not kind text
    rwa [Option.mem_def.mp first] at stops
  · rintro ⟨rest, rfl, inside, stops⟩
    rw [List.takeWhile_append_of_pos inside]
    cases rest with
    | nil => simp
    | cons c rest => simp [stops c rfl]

theorem takeWhile_ne_eq_iff {front : Text} :
    text.takeWhile (· ≠ mark) = front ↔
      ∃ rest, text = front ++ rest ∧ mark ∉ front ∧ ∀ c ∈ rest.head?, c = mark := by
  rw [takeWhile_eq_iff]
  refine exists_congr fun rest => and_congr_right fun _ => and_congr ?_ ?_
  · simp only [ne_eq, decide_not, Bool.not_eq_true', decide_eq_false_iff_not]
    exact ⟨fun others member => others mark member rfl,
      fun absent c member same => absent (same ▸ member)⟩
  · simp

theorem dropEnding?_eq_some_iff {ending stem : Text} :
    dropEnding? text ending = some stem ↔ text = stem ++ ending := by
  simp only [dropEnding?, endsWith, List.isSuffixOf_iff_suffix]
  constructor
  · intro dropped
    split_ifs at dropped with ends
    obtain ⟨kept, rfl⟩ := ends
    simpa using dropped
  · rintro rfl
    rw [if_pos (List.suffix_append stem ending)]
    simp

variable {parts : List Text} {last : Text}

theorem intercalate_concat (mark : Char) (filled : parts ≠ []) (last : Text) :
    [mark].intercalate (parts ++ [last]) = [mark].intercalate parts ++ mark :: last := by
  induction parts with
  | nil => exact absurd rfl filled
  | cons part parts induction =>
      cases parts with
      | nil => simp
      | cons next parts =>
          have later := induction (List.cons_ne_nil next parts)
          simp only [List.cons_append, List.intercalate_cons_cons] at later ⊢
          rw [later]
          simp only [List.append_assoc]

theorem intercalate_append_last (mark : Char) (parts : List Text) (last ending : Text) :
    [mark].intercalate (parts ++ [last ++ ending]) =
      [mark].intercalate (parts ++ [last]) ++ ending := by
  cases parts with
  | nil => simp
  | cons part parts =>
      rw [intercalate_concat mark (List.cons_ne_nil part parts),
        intercalate_concat mark (List.cons_ne_nil part parts), List.append_assoc, List.cons_append]

theorem mem_of_mem_intercalate {c : Char} (member : c ∈ [mark].intercalate parts) :
    c = mark ∨ ∃ part ∈ parts, c ∈ part := by
  induction parts with
  | nil => simp at member
  | cons part parts induction =>
      cases parts with
      | nil =>
          rw [List.intercalate_singleton] at member
          exact .inr ⟨part, List.mem_cons_self, member⟩
      | cons next parts =>
          rw [List.intercalate_cons_cons, List.append_assoc, List.mem_append, List.mem_append,
            List.mem_singleton] at member
          rcases member with here | between | later
          · exact .inr ⟨part, List.mem_cons_self, here⟩
          · exact .inl between
          · exact (induction later).imp_right fun ⟨other, found, inside⟩ =>
              ⟨other, .tail part found, inside⟩

theorem map_intercalate (f : Char → Char) (fixed : ∀ part ∈ parts, part.map f = part) :
    ([mark].intercalate parts).map f = [f mark].intercalate parts := by
  induction parts with
  | nil => rfl
  | cons part parts induction =>
      obtain ⟨here, others⟩ := List.forall_mem_cons.mp fixed
      cases parts with
      | nil => simpa using here
      | cons next parts =>
          rw [List.intercalate_cons_cons, List.intercalate_cons_cons, List.map_append,
            List.map_append, here, induction others]
          rfl

end Text

end ApiSurface
