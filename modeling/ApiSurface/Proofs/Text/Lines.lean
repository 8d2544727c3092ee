import ApiSurface.Proofs.Text.Cut
import ApiSurface.Text.Blank
import ApiSurface.Text.Line
import Mathlib.Data.List.Induction
import Mathlib.Tactic.Common

namespace ApiSurface

namespace Text

variable {text later : Text}

/-- A text whose last line is ended. -/
def IsEnded (text : Text) : Prop :=
  text = [] ∨ text.getLast? = some '\n'

theorem isEnded_nil : IsEnded [] :=
  .inl rfl

theorem isEnded_cons {c : Char} :
    IsEnded (c :: text) ↔ if text = [] then c = '\n' else IsEnded text := by
  cases text <;> simp [IsEnded]

theorem IsEnded.tail {c : Char} (ended : IsEnded (c :: text)) : IsEnded text := by
  rw [isEnded_cons] at ended
  split_ifs at ended with empty
  · exact empty ▸ isEnded_nil
  · exact ended

theorem IsEnded.append (ended : IsEnded text) (endedLater : IsEnded later) :
    IsEnded (text ++ later) := by
  rcases endedLater with rfl | last
  · rwa [List.append_nil]
  · exact .inr (by rw [List.getLast?_append, last, Option.some_or])

theorem IsEnded.of_suffix (ended : IsEnded text) (suffix : later <:+ text) : IsEnded later := by
  obtain ⟨front, rfl⟩ := suffix
  rcases List.eq_nil_or_concat later with rfl | ⟨init, c, rfl⟩
  · exact isEnded_nil
  · rcases ended with none | last
    · simp at none
    · exact .inr (by simpa using last)

theorem unifyLineEnds_break (rest : Text) :
    unifyLineEnds ('\r' :: '\n' :: rest) = '\n' :: unifyLineEnds rest := by
  rw [unifyLineEnds]

theorem unifyLineEnds_cons {c : Char}
    (plain : ∀ rest, c = '\r' → text = '\n' :: rest → False) :
    unifyLineEnds (c :: text) = c :: unifyLineEnds text := by
  rw [unifyLineEnds]
  exact plain

theorem unifyLineEnds_eq_nil_iff : unifyLineEnds text = [] ↔ text = [] := by
  induction text using unifyLineEnds.induct with
  | case1 => rfl
  | case2 rest => simp [unifyLineEnds_break]
  | case3 c rest plain => simp [unifyLineEnds_cons plain]

theorem unifyLineEnds_append (ended : IsEnded text) (later : Text) :
    unifyLineEnds (text ++ later) = unifyLineEnds text ++ unifyLineEnds later := by
  induction text using unifyLineEnds.induct with
  | case1 => rfl
  | case2 rest induction =>
      simp only [List.cons_append, unifyLineEnds_break, induction ended.tail.tail]
  | case3 c rest plain induction =>
      have plainLater (more : Text) (isReturn : c = '\r') (feeds : rest ++ later = '\n' :: more) :
          False := by
        cases rest with
        | nil =>
            have isFeed : c = '\n' := by simpa using isEnded_cons.mp ended
            rw [isFeed] at isReturn
            cases isReturn
        | cons d rest => exact plain rest isReturn (by simpa using (List.cons.inj feeds).1)
      rw [List.cons_append, unifyLineEnds_cons plainLater, unifyLineEnds_cons plain,
        induction ended.tail, List.cons_append]

theorem isEnded_unifyLineEnds (ended : IsEnded text) : IsEnded (unifyLineEnds text) := by
  induction text using unifyLineEnds.induct with
  | case1 => exact isEnded_nil
  | case2 rest induction =>
      rw [unifyLineEnds_break, isEnded_cons]
      split_ifs
      · rfl
      · exact induction ended.tail.tail
  | case3 c rest plain induction =>
      rw [isEnded_cons] at ended
      simp only [unifyLineEnds_cons plain, isEnded_cons, unifyLineEnds_eq_nil_iff]
      split_ifs at ended ⊢ with empty
      · exact ended
      · exact induction ended

theorem unifyLineEnds_append_left (plain : '\r' ∉ text) (rest : Text) :
    unifyLineEnds (text ++ rest) = text ++ unifyLineEnds rest := by
  induction text with
  | nil => rfl
  | cons c text induction =>
      obtain ⟨first, others⟩ := not_or.mp (mt List.mem_cons.mpr plain)
      rw [List.cons_append, unifyLineEnds_cons fun _ isReturn _ => first isReturn.symm,
        induction others]
      rfl

/-- A text without a carriage return directly before a line feed. -/
def IsUnified (text : Text) : Prop :=
  ¬ ['\r', '\n'] <:+: text

instance (text : Text) : Decidable text.IsUnified :=
  inferInstanceAs (Decidable (¬ ['\r', '\n'] <:+: text))

theorem unifyLineEnds_of_isUnified (unified : text.IsUnified) : unifyLineEnds text = text := by
  induction text using unifyLineEnds.induct with
  | case1 => rfl
  | case2 rest => exact absurd (List.prefix_append ['\r', '\n'] rest).isInfix unified
  | case3 c rest plain induction =>
      have unifiedRest : IsUnified rest := fun inside =>
        unified (inside.trans (List.suffix_cons c rest).isInfix)
      rw [unifyLineEnds_cons plain, induction unifiedRest]

theorem isUnified_row {row : Text} (single : '\n' ∉ row) (unreturned : row.getLast? ≠ some '\r') :
    IsUnified (row ++ ['\n']) := by
  rintro ⟨before, after, same⟩
  rcases List.eq_nil_or_concat after with rfl | ⟨others, c, rfl⟩
  · rw [List.append_nil, List.append_cons before] at same
    apply unreturned
    rw [← (List.append_inj' same rfl).1, List.getLast?_concat]
  · rw [List.concat_eq_append, ← List.append_assoc] at same
    apply single
    rw [← (List.append_inj' same rfl).1]
    simp

theorem lines_cons (c : Char) (rest : Text) :
    lines (c :: rest) =
      if c = '\n' then [c] :: lines rest
      else
        match lines rest with
        | [] => [[c]]
        | line :: others => (c :: line) :: others :=
  rfl

theorem lines_eq_nil_iff : lines text = [] ↔ text = [] := by
  cases text with
  | nil => exact ⟨fun _ => rfl, fun _ => rfl⟩
  | cons c rest =>
      rw [lines_cons]
      split_ifs
      · simp
      · split <;> simp

theorem lines_append (ended : IsEnded text) (later : Text) :
    lines (text ++ later) = lines text ++ lines later := by
  induction text with
  | nil => rfl
  | cons c rest induction =>
      rw [List.cons_append, lines_cons, lines_cons, induction ended.tail]
      split_ifs with feeds
      · rfl
      · have filled : rest ≠ [] := by
          rintro rfl
          exact feeds (by simpa using isEnded_cons.mp ended)
        obtain ⟨line, others, split⟩ :=
          List.exists_cons_of_ne_nil (mt lines_eq_nil_iff.mp filled)
        simp only [split, List.cons_append]

theorem lines_append_feed {line : Text} (single : '\n' ∉ line) (rest : Text) :
    lines (line ++ '\n' :: rest) = (line ++ ['\n']) :: lines rest := by
  induction line with
  | nil => rw [List.nil_append, lines_cons, if_pos rfl, List.nil_append]
  | cons c line induction =>
      obtain ⟨other, single⟩ := not_or.mp (mt List.mem_cons.mpr single)
      rw [List.cons_append, lines_cons, if_neg (Ne.symm other), induction single, List.cons_append]

theorem lines_flatMap {rows : List Text} (single : ∀ row ∈ rows, '\n' ∉ row) :
    lines (rows.flatMap (· ++ ['\n'])) = rows.map (· ++ ['\n']) := by
  induction rows with
  | nil => rfl
  | cons row rows induction =>
      obtain ⟨here, others⟩ := List.forall_mem_cons.mp single
      rw [List.flatMap_cons, List.append_assoc, List.singleton_append, lines_append_feed here,
        induction others, List.map_cons]

theorem lineBody_append_feed {line : Text} (plain : '\r' ∉ line) :
    lineBody (line ++ ['\n']) = line := by
  have ended : dropEnding? (line ++ ['\n']) ['\n'] = some line :=
    dropEnding?_eq_some_iff.mpr rfl
  have kept : dropEnding? line ['\r'] = none := by
    rw [Option.eq_none_iff_forall_ne_some]
    intro stem dropped
    rw [dropEnding?_eq_some_iff] at dropped
    rw [dropped] at plain
    exact plain (List.mem_append_right stem List.mem_cons_self)
  rw [lineBody, ended]
  simp only [kept, Option.getD_none]

theorem head?_of_lines {line : Text} {others : List Text} (split : lines text = line :: others) :
    line.head? = text.head? := by
  cases text with
  | nil => cases split
  | cons c rest =>
      rw [lines_cons] at split
      split_ifs at split
      · exact (List.cons.inj split).1 ▸ rfl
      · split at split <;> exact (List.cons.inj split).1 ▸ rfl

theorem lines_unifyLineEnds (text : Text) :
    lines (unifyLineEnds text) = (lines text).map unifyLineEnds := by
  induction text using unifyLineEnds.induct with
  | case1 => rfl
  | case2 rest induction =>
      rw [unifyLineEnds_break, lines_cons, lines_cons, lines_cons, if_pos rfl, if_pos rfl,
        if_neg (by decide), induction]
      rfl
  | case3 c rest plain induction =>
      rw [unifyLineEnds_cons plain, lines_cons, lines_cons, induction]
      split_ifs with feeds
      · subst feeds
        rfl
      · cases split : lines rest with
        | nil =>
            obtain rfl := lines_eq_nil_iff.mp split
            exact congrArg (fun line => [line]) (unifyLineEnds_cons plain).symm
        | cons line others =>
            have plainLine (more : Text) (isReturn : c = '\r') (begins : line = '\n' :: more) :
                False := by
              have head : rest.head? = some '\n' := by
                rw [← head?_of_lines split, begins]
                rfl
              obtain ⟨further, same⟩ := List.head?_eq_some_iff.mp head
              exact plain further isReturn same
            simp only [List.map_cons, unifyLineEnds_cons plainLine]

theorem lines_of_single {line : Text} (filled : line ≠ []) (single : '\n' ∉ line) :
    lines line = [line] := by
  induction line with
  | nil => exact absurd rfl filled
  | cons c rest induction =>
      obtain ⟨other, single⟩ := not_or.mp (mt List.mem_cons.mpr single)
      rw [lines_cons, if_neg (Ne.symm other)]
      cases rest with
      | nil => rfl
      | cons d rest => rw [induction (List.cons_ne_nil d rest) single]

/-- Every line but the last is ended, and none is empty. -/
inductive AreLines : List Text → Prop
  | nil : AreLines []
  | last {line : Text} (filled : line ≠ []) (single : '\n' ∉ line) : AreLines [line]
  | cons {body : Text} {others : List Text} (single : '\n' ∉ body) (rest : AreLines others) :
      AreLines ((body ++ ['\n']) :: others)

namespace AreLines

variable {rows others : List Text}

theorem lines_flatten (areLines : AreLines rows) : lines rows.flatten = rows := by
  induction areLines with
  | nil => rfl
  | last filled single => rw [List.flatten_singleton, lines_of_single filled single]
  | cons single rest induction =>
      rw [List.flatten_cons, List.append_assoc, List.singleton_append, lines_append_feed single,
        induction]

theorem of_append (areLines : AreLines (rows ++ others)) : AreLines rows ∧ AreLines others := by
  induction rows with
  | nil => exact ⟨.nil, areLines⟩
  | cons row rows induction =>
      generalize split : row :: rows ++ others = whole at areLines
      cases areLines with
      | nil => cases split
      | last filled single =>
          obtain ⟨rfl, none⟩ := List.cons.inj split
          obtain ⟨rfl, rfl⟩ := List.append_eq_nil_iff.mp none
          exact ⟨.last filled single, .nil⟩
      | cons single rest =>
          obtain ⟨rfl, rfl⟩ := List.cons.inj split
          obtain ⟨first, second⟩ := induction rest
          exact ⟨.cons single first, second⟩

theorem exists_body {row : Text} (areLines : AreLines (row :: others)) (more : others ≠ []) :
    ∃ body, '\n' ∉ body ∧ row = body ++ ['\n'] := by
  cases areLines with
  | last => exact absurd rfl more
  | cons single => exact ⟨_, single, rfl⟩

theorem isEnded_flatten (areLines : AreLines (rows ++ others)) (more : others ≠ []) :
    IsEnded rows.flatten := by
  induction rows with
  | nil => exact isEnded_nil
  | cons row rows induction =>
      obtain ⟨body, -, rfl⟩ := exists_body areLines (List.append_ne_nil_of_right_ne_nil rows more)
      have ended : IsEnded (body ++ ['\n']) := .inr List.getLast?_concat
      exact ended.append (induction (@of_append [body ++ ['\n']] _ areLines).2)

end AreLines

theorem flatten_lines (text : Text) : (lines text).flatten = text := by
  induction text with
  | nil => rfl
  | cons c rest induction =>
      rw [lines_cons]
      split_ifs
      · simp [induction]
      · cases split : lines rest with
        | nil => simp [lines_eq_nil_iff.mp split]
        | cons line others =>
            rw [split] at induction
            simp [← induction]

theorem areLines_lines (text : Text) : AreLines (lines text) := by
  induction text with
  | nil => exact .nil
  | cons c rest induction =>
      rw [lines_cons]
      split_ifs with feeds
      · exact feeds ▸ @AreLines.cons [] _ List.not_mem_nil induction
      · cases split : lines rest with
        | nil => exact .last (List.cons_ne_nil c []) (by simpa using Ne.symm feeds)
        | cons line others =>
            rw [split] at induction
            cases induction with
            | last filled single =>
                exact .last (List.cons_ne_nil c line) (by simp [Ne.symm feeds, single])
            | @cons body _ single others =>
                exact @AreLines.cons (c :: body) _ (by simp [Ne.symm feeds, single]) others

end Text

end ApiSurface
