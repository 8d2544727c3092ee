import ApiSurface.Proofs.Text.Trim
import ApiSurface.Run.Config
import Mathlib

/-! The texts that give a batch size, and the size that each of them gives. -/

namespace ApiSurface

namespace RunConfig

open Text (IsGap isDigit_iff not_isBlank_of_decimal)

variable {raw digits : Text} {n : Nat}

/-- A text that shows a number in decimal digits, of which the first may be zeros.  A plus sign may
stand in front of them, and blanks around it all. -/
inductive Spells : Text → Nat → Prop
  | intro {before sign digits after : Text} (blank : IsGap before) (blankLater : IsGap after)
      (signed : sign = [] ∨ sign = ['+']) (filled : digits ≠ [])
      (decimal : ∀ c ∈ digits, '0' ≤ c ∧ c ≤ '9') :
      Spells (before ++ (sign ++ digits ++ after)) (decimalValue digits)

theorem decimalValue_eq (digits : Text) : decimalValue digits = Nat.ofDigitChars 10 digits 0 :=
  rfl

theorem times?_eq (word factor : UInt64) :
    times? word factor =
      if word.toNat * factor.toNat < batchSizeBound then
        some (UInt64.ofNat (word.toNat * factor.toNat))
      else none := by
  rw [times?, UInt64.ofNat_mul, UInt64.ofNat_toNat, UInt64.ofNat_toNat]

theorem plus?_eq (word summand : UInt64) :
    plus? word summand =
      if word.toNat + summand.toNat < batchSizeBound then
        some (UInt64.ofNat (word.toNat + summand.toNat))
      else none := by
  rw [plus?, UInt64.ofNat_add, UInt64.ofNat_toNat, UInt64.ofNat_toNat]

theorem appendDigit?_eq {digit : Char} (isDigit : digit.isDigit = true) (word : UInt64) :
    appendDigit? word digit =
      if 10 * word.toNat + (digit.toNat - '0'.toNat) < batchSizeBound then
        some (UInt64.ofNat (10 * word.toNat + (digit.toNat - '0'.toNat)))
      else none := by
  have value : (UInt64.ofNat (digit.toNat - '0'.toNat)).toNat = digit.toNat - '0'.toNat := by
    have last : digit.toNat ≤ '9'.toNat := (isDigit_iff.mp isDigit).2
    refine UInt64.toNat_ofNat_of_lt' (Nat.lt_of_le_of_lt (Nat.sub_le_sub_right last _) ?_)
    decide
  have ten : (10 : UInt64).toNat = 10 := rfl
  rw [appendDigit?, times?_eq, ten, Nat.mul_comm word.toNat]
  by_cases shifts : 10 * word.toNat < batchSizeBound
  · rw [if_pos shifts, Option.bind_eq_bind, Option.bind_some, plus?_eq,
      UInt64.toNat_ofNat_of_lt' shifts, value]
  · rw [if_neg shifts, if_neg (by omega)]
    rfl

theorem le_ofDigitChars (digits : Text) (n : Nat) : n ≤ Nat.ofDigitChars 10 digits n := by
  induction digits generalizing n with
  | nil => exact Nat.le_refl n
  | cons c digits induction =>
      rw [Nat.ofDigitChars_cons]
      exact Nat.le_trans (by omega) (induction _)

/-- Digits go into a word if their value does.  Once a value is too large, so is that of more
digits. -/
theorem foldlM_appendDigit? (decimal : ∀ c ∈ digits, c.isDigit = true) (word : UInt64) :
    digits.foldlM appendDigit? word =
      if Nat.ofDigitChars 10 digits word.toNat < batchSizeBound then
        some (UInt64.ofNat (Nat.ofDigitChars 10 digits word.toNat))
      else none := by
  induction digits generalizing word with
  | nil =>
      have small : word.toNat < batchSizeBound := word.toNat_lt
      rw [Nat.ofDigitChars_nil, if_pos small, UInt64.ofNat_toNat]
      rfl
  | cons c digits induction =>
      obtain ⟨isDigit, others⟩ := List.forall_mem_cons.mp decimal
      rw [List.foldlM_cons, appendDigit?_eq isDigit, Nat.ofDigitChars_cons]
      have grows := le_ofDigitChars digits (10 * word.toNat + (c.toNat - '0'.toNat))
      split_ifs with fits fitsAll
      · rw [Option.bind_eq_bind, Option.bind_some, induction others,
          UInt64.toNat_ofNat_of_lt' fits, if_pos fitsAll]
      · rw [Option.bind_eq_bind, Option.bind_some, induction others,
          UInt64.toNat_ofNat_of_lt' fits, if_neg fitsAll]
      · omega
      · rfl

theorem word?_eq (digits : Text) :
    word? digits =
      if (digits ≠ [] ∧ ∀ c ∈ digits, '0' ≤ c ∧ c ≤ '9') ∧ decimalValue digits < batchSizeBound then
        some (UInt64.ofNat (decimalValue digits))
      else none := by
  have shown : (!digits.isEmpty && digits.all Char.isDigit) = true ↔
      digits ≠ [] ∧ ∀ c ∈ digits, '0' ≤ c ∧ c ≤ '9' := by
    simp [isDigit_iff]
  rw [word?]
  simp only [shown]
  by_cases decimal : digits ≠ [] ∧ ∀ c ∈ digits, '0' ≤ c ∧ c ≤ '9'
  · rw [if_pos decimal, foldlM_appendDigit? fun c member => isDigit_iff.mpr (decimal.2 c member)]
    simp only [and_iff_right decimal]
    rfl
  · rw [if_neg decimal, if_neg (mt And.left decimal)]

theorem exists_sign (text : Text) :
    ∃ sign, (sign = [] ∨ sign = ['+']) ∧ text = sign ++ dropPlus text := by
  rw [dropPlus.eq_def]
  split
  · exact ⟨['+'], .inr rfl, rfl⟩
  · exact ⟨[], .inl rfl, rfl⟩

theorem dropPlus_append {sign : Text} (signed : sign = [] ∨ sign = ['+'])
    (decimal : ∀ c ∈ digits, '0' ≤ c ∧ c ≤ '9') : dropPlus (sign ++ digits) = digits := by
  rcases signed with rfl | rfl
  · rw [List.nil_append, dropPlus.eq_def]
    split
    · exact absurd (decimal '+' List.mem_cons_self) (by decide)
    · rfl
  · rfl

theorem spells_iff :
    Spells raw n ↔
      (dropPlus raw.trim ≠ [] ∧ ∀ c ∈ dropPlus raw.trim, '0' ≤ c ∧ c ≤ '9') ∧
        n = decimalValue (dropPlus raw.trim) := by
  constructor
  · intro spells
    obtain @⟨before, sign, digits, after, blank, blankLater, signed, filled, decimal⟩ := spells
    have unbroken : ∀ c ∈ sign ++ digits, isBlank c = false := by
      refine List.forall_mem_append.mpr ⟨?_, fun c member => ?_⟩
      · rcases signed with rfl | rfl
        · exact List.forall_mem_nil _
        · exact List.forall_mem_singleton.mpr rfl
      · exact not_isBlank_of_decimal (decimal c member)
    rw [Text.trim_append blank unbroken blankLater, dropPlus_append signed decimal]
    exact ⟨⟨filled, decimal⟩, rfl⟩
  · rintro ⟨⟨filled, decimal⟩, rfl⟩
    obtain ⟨before, after, blank, blankLater, split⟩ := Text.exists_gaps raw
    obtain ⟨sign, signed, trimmed⟩ := exists_sign raw.trim
    have spelt := Spells.intro blank blankLater signed filled decimal
    rwa [← trimmed, ← split] at spelt

theorem parseBatchSize_eq (raw : Text) :
    let digits := dropPlus raw.trim
    parseBatchSize raw =
      if (digits ≠ [] ∧ ∀ c ∈ digits, '0' ≤ c ∧ c ≤ '9') ∧
          0 < decimalValue digits ∧ decimalValue digits < batchSizeBound then
        .ok (decimalValue digits)
      else .error (.invalidBatchSize raw) := by
  dsimp only
  rw [parseBatchSize, word?_eq]
  generalize dropPlus raw.trim = digits
  by_cases decimal : digits ≠ [] ∧ ∀ c ∈ digits, '0' ≤ c ∧ c ≤ '9'
  · by_cases small : decimalValue digits < batchSizeBound
    · have value : (UInt64.ofNat (decimalValue digits)).toNat = decimalValue digits :=
        UInt64.toNat_ofNat_of_lt' small
      have positive : 0 < UInt64.ofNat (decimalValue digits) ↔ 0 < decimalValue digits := by
        rw [UInt64.lt_iff_toNat_lt, value]
        rfl
      rw [if_pos ⟨decimal, small⟩]
      simp only [positive, value, and_iff_right decimal, and_iff_left small]
    · rw [if_neg (fun held => small held.2), if_neg fun held => small held.2.2]
  · rw [if_neg (mt And.left decimal), if_neg (mt And.left decimal)]

theorem parseBatchSize_eq_ok_iff :
    parseBatchSize raw = .ok n ↔ Spells raw n ∧ 1 ≤ n ∧ n ≤ 2 ^ 64 - 1 := by
  have bound : batchSizeBound = 2 ^ 64 := rfl
  rw [parseBatchSize_eq, spells_iff]
  split_ifs with held
  · rw [Except.ok.injEq]
    constructor
    · rintro rfl
      exact ⟨⟨held.1, rfl⟩, held.2.1, by omega⟩
    · exact fun ⟨⟨_, same⟩, _⟩ => same.symm
  · refine iff_of_false (by simp) ?_
    rintro ⟨⟨decimal, rfl⟩, positive, small⟩
    exact held ⟨decimal, positive, by omega⟩

theorem parseBatchSize_eq_error_iff {failure : Failure} :
    parseBatchSize raw = .error failure ↔
      failure = .invalidBatchSize raw ∧ ¬ ∃ n, parseBatchSize raw = .ok n := by
  rw [parseBatchSize_eq]
  split_ifs
  · simp
  · simp [@eq_comm _ failure]

/-- A batch size is read from a text if the text shows it in decimal digits and it is positive and
fits into 64 bits.  No other text gives one, and the failure then names the text as it is. -/
theorem parseBatchSize_exact (raw : Text) :
    (∀ n, parseBatchSize raw = .ok n ↔ Spells raw n ∧ 1 ≤ n ∧ n ≤ 2 ^ 64 - 1) ∧
    (∀ failure, parseBatchSize raw = .error failure ↔
      failure = .invalidBatchSize raw ∧ ¬ ∃ n, Spells raw n ∧ 1 ≤ n ∧ n ≤ 2 ^ 64 - 1) ∧
    ∀ before n after, IsGap before → IsGap after → 1 ≤ n → n ≤ 2 ^ 64 - 1 →
      raw = before ++ (Nat.toDigits 10 n ++ after) → parseBatchSize raw = .ok n := by
  refine ⟨fun n => parseBatchSize_eq_ok_iff, fun failure => ?_, ?_⟩
  · simp only [← parseBatchSize_eq_ok_iff]
    exact parseBatchSize_eq_error_iff
  · rintro before n after blank blankLater positive small rfl
    have decimal : ∀ c ∈ Nat.toDigits 10 n, '0' ≤ c ∧ c ≤ '9' := fun c member =>
      isDigit_iff.mp (Nat.isDigit_of_mem_toDigits (by decide) (by decide) member)
    have spelt := Spells.intro blank blankLater (.inl rfl) Nat.toDigits_ne_nil decimal
    rw [decimalValue_eq, Nat.ofDigitChars_ten_toDigits] at spelt
    exact parseBatchSize_eq_ok_iff.mpr ⟨spelt, positive, small⟩

end RunConfig

end ApiSurface
