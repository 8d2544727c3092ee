import ApiSurface.Proofs.Text.Blank

/-! The words of a text, told by how they may stand in it instead of by how they are found. -/

namespace ApiSurface

namespace Text

variable {text gap word rest : Text} {words : List Text}

def IsGap (gap : Text) : Prop :=
  ∀ c ∈ gap, isBlank c = true

structure IsWord (word : Text) : Prop where
  filled : word ≠ []
  unbroken : ∀ c ∈ word, isBlank c = false

/-- What may follow a word: nothing, or a blank first. -/
def BreaksOff (rest : Text) : Prop :=
  ∀ c ∈ rest.head?, isBlank c = true

instance (gap : Text) : Decidable gap.IsGap :=
  List.decidableBAll _ gap

/-- A text in which words stand one after another, with blanks between any two of them. -/
inductive Shows : Text → List Text → Prop
  | gap {gap : Text} (blank : IsGap gap) : Shows gap []
  | word {gap word rest : Text} {words : List Text} (blank : IsGap gap) (isWord : IsWord word)
      (breaks : BreaksOff rest) (later : Shows rest words) :
      Shows (gap ++ (word ++ rest)) (word :: words)

theorem IsGap.breaksOff (blank : IsGap gap) : BreaksOff gap :=
  fun _ first => blank _ (List.mem_of_mem_head? first)

theorem IsGap.breaksOff_append (blank : IsGap gap) (filled : gap ≠ []) (rest : Text) :
    BreaksOff (gap ++ rest) := by
  obtain ⟨c, others, rfl⟩ := List.exists_cons_of_ne_nil filled
  exact fun _ first => blank _ (Option.mem_some.mp first ▸ List.mem_cons_self)

theorem IsGap.words_append (blank : IsGap gap) (rest : Text) :
    (gap ++ rest).words = rest.words := by
  induction gap with
  | nil => rfl
  | cons c gap induction =>
      obtain ⟨here, others⟩ := List.forall_mem_cons.mp blank
      exact (words_append_blank here [] _).trans (induction others)

theorem BreaksOff.words_append (breaks : BreaksOff rest) (text : Text) :
    (text ++ rest).words = text.words ++ rest.words := by
  cases rest with
  | nil => simp [Text.words]
  | cons c rest =>
      have blank := breaks c rfl
      rw [words_append_blank blank]
      exact congrArg (text.words ++ ·) (words_append_blank blank [] rest).symm

theorem Shows.words_eq (shown : Shows text words) : text.words = words := by
  induction shown with
  | gap blank => simpa [Text.words] using blank.words_append []
  | word blank isWord breaks later induction =>
      rw [blank.words_append, breaks.words_append,
        words_of_unbroken isWord.filled isWord.unbroken, induction, List.singleton_append]

theorem Shows.exists_cons (shown : Shows text words) (c : Char) :
    ∃ words, Shows (c :: text) words := by
  cases blank : isBlank c with
  | true =>
      cases shown with
      | gap others => exact ⟨[], .gap (List.forall_mem_cons.mpr ⟨blank, others⟩)⟩
      | word others isWord breaks later =>
          exact ⟨_, .word (List.forall_mem_cons.mpr ⟨blank, others⟩) isWord breaks later⟩
  | false =>
      have single : IsWord [c] := ⟨List.cons_ne_nil c [], List.forall_mem_singleton.mpr blank⟩
      have alone {rest : Text} {words : List Text} (breaks : BreaksOff rest)
          (later : Shows rest words) : Shows (c :: rest) ([c] :: words) :=
        @Shows.word [] _ _ _ (List.forall_mem_nil _) single breaks later
      cases shown with
      | gap others => exact ⟨_, alone others.breaksOff (.gap others)⟩
      | @word gap word rest words others isWord breaks later =>
          by_cases joined : gap = []
          · subst joined
            have longer : IsWord (c :: word) :=
              ⟨List.cons_ne_nil c word, List.forall_mem_cons.mpr ⟨blank, isWord.unbroken⟩⟩
            exact ⟨_, @Shows.word [] _ _ _ others longer breaks later⟩
          · exact ⟨_, alone (others.breaksOff_append joined _) (.word others isWord breaks later)⟩

theorem exists_shows (text : Text) : ∃ words, Shows text words := by
  induction text with
  | nil => exact ⟨[], .gap (List.forall_mem_nil _)⟩
  | cons c rest induction =>
      obtain ⟨words, shown⟩ := induction
      exact shown.exists_cons c

theorem shows_iff : Shows text words ↔ text.words = words := by
  refine ⟨Shows.words_eq, fun found => ?_⟩
  obtain ⟨others, shown⟩ := exists_shows text
  exact found ▸ shown.words_eq ▸ shown

theorem words_concat_blank {c : Char} (blank : isBlank c = true) (text : Text) :
    (text ++ [c]).words = text.words :=
  (words_append_blank blank text []).trans (List.append_nil _)

theorem words_lineBody (line : Text) : (lineBody line).words = line.words := by
  have dropped {c : Char} (blank : isBlank c = true) {text stem : Text}
      (ends : dropEnding? text [c] = some stem) : text.words = stem.words := by
    rw [dropEnding?_eq_some_iff.mp ends, words_concat_blank blank]
  rw [lineBody]
  split
  · rfl
  · next body ended =>
    rw [dropped (by decide) ended]
    cases returned : dropEnding? body ['\r'] with
    | none => rfl
    | some stem => exact (dropped (by decide) returned).symm

theorem words_firstLine? {line below : Text} (single : '\n' ∉ line)
    (feeds : ∀ c ∈ below.head?, c = '\n') (filled : line ++ below ≠ []) :
    (firstLine? (line ++ below)).map Text.words = some line.words := by
  have first : ∃ top, (line ++ below).lines.head? = some top ∧ top.words = line.words := by
    cases below with
    | nil =>
        rw [List.append_nil] at filled ⊢
        exact ⟨line, by rw [lines_of_single filled single]; rfl, rfl⟩
    | cons c below =>
        obtain rfl := feeds c rfl
        exact ⟨line ++ ['\n'], by rw [lines_append_feed single]; rfl,
          words_concat_blank (by decide) line⟩
  obtain ⟨top, begins, same⟩ := first
  rw [firstLine?, begins, Option.map_some, Option.map_some, words_lineBody, same]

end Text

end ApiSurface
