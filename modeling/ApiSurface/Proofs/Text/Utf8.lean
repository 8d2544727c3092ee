import ApiSurface.Text.Utf8
import Mathlib.Data.Char
import Mathlib.Data.List.Lex
import Mathlib.Tactic.Common

namespace ApiSurface

namespace Utf8

theorem encodeChar_one {c : Char} (high : c.toNat ≤ 0x7F) :
    ∃ first : UInt8, String.utf8EncodeChar c = [first] ∧
      first.toNat = c.toNat := by
  refine ⟨_, if_pos high, ?_⟩
  change (UInt8.ofNat c.toNat).toNat = c.toNat
  rw [UInt8.toNat_ofNat']
  omega

theorem encodeChar_two {c : Char}
    (low : 0x7F < c.toNat) (high : c.toNat ≤ 0x7FF) :
    ∃ first second : UInt8, String.utf8EncodeChar c = [first, second] ∧
      first.toNat = 0xC0 + c.toNat / 64 ∧
      second.toNat = 0x80 + c.toNat % 64 := by
  refine ⟨.ofNat (c.toNat / 64 % 0x20 + 0xC0), .ofNat (c.toNat % 0x40 + 0x80), ?_, ?_, ?_⟩
  · exact (if_neg (by change ¬ c.toNat ≤ 0x7F; omega)).trans (if_pos high)
  · rw [UInt8.toNat_ofNat']
    omega
  · rw [UInt8.toNat_ofNat']
    omega

theorem encodeChar_three {c : Char}
    (low : 0x7FF < c.toNat) (high : c.toNat ≤ 0xFFFF) :
    ∃ first second third : UInt8,
      String.utf8EncodeChar c = [first, second, third] ∧
      first.toNat = 0xE0 + c.toNat / 4096 ∧
      second.toNat = 0x80 + c.toNat / 64 % 64 ∧
      third.toNat = 0x80 + c.toNat % 64 := by
  refine ⟨.ofNat (c.toNat / 4096 % 0x10 + 0xE0), .ofNat (c.toNat / 64 % 0x40 + 0x80),
    .ofNat (c.toNat % 0x40 + 0x80), ?_, ?_, ?_, ?_⟩
  · exact (if_neg (by change ¬ c.toNat ≤ 0x7F; omega)).trans
      ((if_neg (by change ¬ c.toNat ≤ 0x7FF; omega)).trans (if_pos high))
  · rw [UInt8.toNat_ofNat']
    omega
  · rw [UInt8.toNat_ofNat']
    omega
  · rw [UInt8.toNat_ofNat']
    omega

theorem encodeChar_four {c : Char} (low : 0xFFFF < c.toNat) :
    ∃ first second third fourth : UInt8,
      String.utf8EncodeChar c = [first, second, third, fourth] ∧
      first.toNat = 0xF0 + c.toNat / 262144 ∧
      second.toNat = 0x80 + c.toNat / 4096 % 64 ∧
      third.toNat = 0x80 + c.toNat / 64 % 64 ∧
      fourth.toNat = 0x80 + c.toNat % 64 := by
  have bound : c.toNat < 0xD800 ∨ 0xDFFF < c.toNat ∧ c.toNat < 0x110000 := c.valid
  refine ⟨.ofNat (c.toNat / 262144 % 0x08 + 0xF0), .ofNat (c.toNat / 4096 % 0x40 + 0x80),
    .ofNat (c.toNat / 64 % 0x40 + 0x80), .ofNat (c.toNat % 0x40 + 0x80), ?_, ?_, ?_, ?_, ?_⟩
  · exact (if_neg (by change ¬ c.toNat ≤ 0x7F; omega)).trans
      ((if_neg (by change ¬ c.toNat ≤ 0x7FF; omega)).trans
        (if_neg (by change ¬ c.toNat ≤ 0xFFFF; omega)))
  · rw [UInt8.toNat_ofNat']
    omega
  · rw [UInt8.toNat_ofNat']
    omega
  · rw [UInt8.toNat_ofNat']
    omega
  · rw [UInt8.toNat_ofNat']
    omega

theorem isBetween_iff {low high : Nat} {byte : UInt8} :
    isBetween low high byte = true ↔ low ≤ byte.toNat ∧ byte.toNat ≤ high := by
  simp [isBetween]

theorem isSecond_iff {first second : UInt8} :
    isSecond first second = true ↔
      (if first.toNat = 0xE0 then 0xA0 else if first.toNat = 0xF0 then 0x90 else 0x80)
          ≤ second.toNat ∧
        second.toNat ≤
          (if first.toNat = 0xED then 0x9F else if first.toNat = 0xF4 then 0x8F else 0xBF) := by
  simp only [isSecond, isContinuation, ← UInt8.toNat_inj, UInt8.reduceToNat]
  repeat' split
  all_goals simp only [isBetween_iff]
  all_goals omega

private theorem readFirst_two {first second : UInt8} (rest : Bytes)
    (low : 0xC2 ≤ first.toNat) (high : first.toNat ≤ 0xDF)
    (follows : isSecond first second = true) :
    readFirst first (second :: rest) =
      (some (assemble [first.toNat - 0xC0, payload second]), 1) := by
  rw [readFirst.eq_def, if_neg (by rw [isBetween_iff]; omega),
    if_pos (by rw [isBetween_iff]; omega)]
  exact if_pos follows

private theorem readFirst_three {first second third : UInt8} (rest : Bytes)
    (low : 0xE0 ≤ first.toNat) (high : first.toNat ≤ 0xEF)
    (follows : isSecond first second = true) (follows₃ : isContinuation third = true) :
    readFirst first (second :: third :: rest) =
      (some (assemble [first.toNat - 0xE0, payload second, payload third]), 2) := by
  rw [readFirst.eq_def, if_neg (by rw [isBetween_iff]; omega),
    if_neg (by rw [isBetween_iff]; omega), if_pos (by rw [isBetween_iff]; omega)]
  exact (if_pos follows).trans (if_pos follows₃)

private theorem readFirst_four {first second third fourth : UInt8} (rest : Bytes)
    (low : 0xF0 ≤ first.toNat) (high : first.toNat ≤ 0xF4)
    (follows : isSecond first second = true) (follows₃ : isContinuation third = true)
    (follows₄ : isContinuation fourth = true) :
    readFirst first (second :: third :: fourth :: rest) =
      (some (assemble [first.toNat - 0xF0, payload second, payload third,
        payload fourth]), 3) := by
  rw [readFirst.eq_def, if_neg (by rw [isBetween_iff]; omega),
    if_neg (by rw [isBetween_iff]; omega), if_neg (by rw [isBetween_iff]; omega),
    if_pos (by rw [isBetween_iff]; omega)]
  exact (if_pos follows).trans ((if_pos follows₃).trans (if_pos follows₄))

private theorem isContinuation_of_payload {byte : UInt8} {digit : Nat}
    (value : byte.toNat = 0x80 + digit) (small : digit < 64) :
    isContinuation byte = true := by
  rw [isContinuation, isBetween_iff]
  omega

private theorem payload_eq (byte : UInt8) : payload byte = byte.toNat - 0x80 := rfl

private theorem assemble_eq {digits : List Nat} {c : Char}
    (number : digits.foldl (fun number digit => number * 64 + digit) 0 = c.toNat) :
    assemble digits = c := by
  rw [assemble, number, Char.ofNat_toNat]

theorem readFirst_encodeChar (c : Char) (rest : Bytes) :
    ∃ first tail, String.utf8EncodeChar c = first :: tail ∧
      readFirst first (tail ++ rest) = (some c, tail.length) := by
  have bound : c.toNat < 0xD800 ∨ 0xDFFF < c.toNat ∧ c.toNat < 0x110000 := c.valid
  by_cases one : c.toNat ≤ 0x7F
  · obtain ⟨first, encoded, value⟩ := encodeChar_one one
    refine ⟨first, [], encoded, ?_⟩
    simp [readFirst, isBetween, value, one]
  by_cases two : c.toNat ≤ 0x7FF
  · obtain ⟨first, second, encoded, value₁, value₂⟩ :=
      encodeChar_two (Nat.lt_of_not_le one) two
    have follows : isSecond first second = true := by
      rw [isSecond_iff]
      split_ifs <;> omega
    have low : 0xC2 ≤ first.toNat := by omega
    have high : first.toNat ≤ 0xDF := by omega
    have number : assemble [first.toNat - 0xC0, payload second] = c :=
      assemble_eq (by simp only [List.foldl, payload_eq]; omega)
    have read := readFirst_two rest low high follows
    rw [number] at read
    exact ⟨first, [second], encoded, read⟩
  by_cases three : c.toNat ≤ 0xFFFF
  · obtain ⟨first, second, third, encoded, value₁, value₂, value₃⟩ :=
      encodeChar_three (Nat.lt_of_not_le two) three
    have follows : isSecond first second = true := by
      rw [isSecond_iff]
      split_ifs <;> omega
    have low : 0xE0 ≤ first.toNat := by omega
    have high : first.toNat ≤ 0xEF := by omega
    have number : assemble [first.toNat - 0xE0, payload second, payload third] = c :=
      assemble_eq (by simp only [List.foldl, payload_eq]; omega)
    have read := readFirst_three rest low high follows
      (isContinuation_of_payload value₃ (Nat.mod_lt _ (by decide)))
    rw [number] at read
    exact ⟨first, [second, third], encoded, read⟩
  · obtain ⟨first, second, third, fourth, encoded, value₁, value₂, value₃, value₄⟩ :=
      encodeChar_four (Nat.lt_of_not_le three)
    have follows : isSecond first second = true := by
      rw [isSecond_iff]
      split_ifs <;> omega
    have low : 0xF0 ≤ first.toNat := by omega
    have high : first.toNat ≤ 0xF4 := by omega
    have number : assemble [first.toNat - 0xF0, payload second, payload third,
        payload fourth] = c :=
      assemble_eq (by simp only [List.foldl, payload_eq]; omega)
    have read := readFirst_four rest low high follows
      (isContinuation_of_payload value₃ (Nat.mod_lt _ (by decide)))
      (isContinuation_of_payload value₄ (Nat.mod_lt _ (by decide)))
    rw [number] at read
    exact ⟨first, [second, third, fourth], encoded, read⟩

theorem scanAfter_eq (skipped : Nat) (bytes : Bytes) :
    scanAfter skipped bytes = scan (bytes.drop skipped) := by
  induction bytes generalizing skipped with
  | nil => cases skipped <;> rfl
  | cons byte rest induction =>
      cases skipped with
      | zero => rfl
      | succ skipped => exact induction skipped

theorem scan_cons (first : UInt8) (rest : Bytes) :
    scan (first :: rest) =
      (readFirst first rest).1 :: scan (rest.drop (readFirst first rest).2) := by
  rw [← scanAfter_eq]
  rfl

theorem scan_encodeChar_append (c : Char) (rest : Bytes) :
    scan (String.utf8EncodeChar c ++ rest) = some c :: scan rest := by
  obtain ⟨first, tail, encoded, read⟩ := readFirst_encodeChar c rest
  rw [encoded, List.cons_append, scan_cons, read, List.drop_left]

theorem scan_encode (text : Text) : scan (encode text) = text.map some := by
  induction text with
  | nil => rfl
  | cons c rest induction =>
      rw [encode, List.flatMap_cons, scan_encodeChar_append, List.map_cons]
      exact congrArg (some c :: ·) induction

@[simp] theorem decodeLossy_encode (text : Text) :
    decodeLossy (encode text) = text := by
  simp [decodeLossy, scan_encode, Function.comp_def]

theorem encode_injective : Function.Injective encode :=
  Function.LeftInverse.injective decodeLossy_encode

@[simp] theorem encode_inj {left right : Text} :
    encode left = encode right ↔ left = right :=
  encode_injective.eq_iff

@[simp] theorem encode_append (left right : Text) :
    encode (left ++ right) = encode left ++ encode right :=
  List.flatMap_append

private theorem bytes_lt_iff {first second : UInt8} {left right : Bytes} :
    first :: left < second :: right ↔
      first.toNat < second.toNat ∨ first.toNat = second.toNat ∧ left < right := by
  rw [List.cons_lt_cons_iff, UInt8.lt_iff_toNat_lt, UInt8.toNat_inj]

/-- The first byte of a character's encoding, by the number of the character. -/
private def lead (number : Nat) : Nat :=
  if number ≤ 0x7F then number
  else if number ≤ 0x7FF then 0xC0 + number / 64
  else if number ≤ 0xFFFF then 0xE0 + number / 4096
  else 0xF0 + number / 262144

private theorem encodeChar_lead (c : Char) :
    ∃ first tail, String.utf8EncodeChar c = first :: tail ∧
      first.toNat = lead c.toNat := by
  by_cases one : c.toNat ≤ 0x7F
  · obtain ⟨first, encoded, value⟩ := encodeChar_one one
    exact ⟨first, [], encoded, by rw [value, lead, if_pos one]⟩
  by_cases two : c.toNat ≤ 0x7FF
  · obtain ⟨first, second, encoded, value, _⟩ :=
      encodeChar_two (Nat.lt_of_not_le one) two
    exact ⟨first, [second], encoded, by rw [value, lead, if_neg one, if_pos two]⟩
  by_cases three : c.toNat ≤ 0xFFFF
  · obtain ⟨first, second, third, encoded, value, _⟩ :=
      encodeChar_three (Nat.lt_of_not_le two) three
    exact ⟨first, [second, third], encoded, by
      rw [value, lead, if_neg one, if_neg two, if_pos three]⟩
  · obtain ⟨first, second, third, fourth, encoded, value, _⟩ :=
      encodeChar_four (Nat.lt_of_not_le three)
    exact ⟨first, [second, third, fourth], encoded, by
      rw [value, lead, if_neg one, if_neg two, if_neg three]⟩

/-- The encodings of two characters differ at some byte, and the first such byte decides as the
characters do. -/
private theorem encodeChar_append_lt {c d : Char} (less : c < d) (left right : Bytes) :
    String.utf8EncodeChar c ++ left < String.utf8EncodeChar d ++ right := by
  have numbers : c.toNat < d.toNat := less
  by_cases leads : lead c.toNat < lead d.toNat
  · obtain ⟨first, tail, encoded, value⟩ := encodeChar_lead c
    obtain ⟨first', tail', encoded', value'⟩ := encodeChar_lead d
    rw [encoded, encoded', List.cons_append, List.cons_append, bytes_lt_iff]
    left
    omega
  -- Encodings of different lengths differ in their first bytes already.
  unfold lead at leads
  by_cases two : d.toNat ≤ 0x7FF
  · obtain ⟨first, second, encoded, value₁, value₂⟩ :=
      encodeChar_two (c := c) (by split_ifs at leads <;> omega) (by omega)
    obtain ⟨first', second', encoded', value₁', value₂'⟩ :=
      encodeChar_two (c := d) (by split_ifs at leads <;> omega) two
    simp only [encoded, encoded', List.cons_append, List.nil_append, bytes_lt_iff]
    right
    exact ⟨by split_ifs at leads <;> omega, .inl (by split_ifs at leads <;> omega)⟩
  by_cases three : d.toNat ≤ 0xFFFF
  · obtain ⟨first, second, third, encoded, value₁, value₂, value₃⟩ :=
      encodeChar_three (c := c) (by split_ifs at leads <;> omega) (by omega)
    obtain ⟨first', second', third', encoded', value₁', value₂', value₃'⟩ :=
      encodeChar_three (c := d) (Nat.lt_of_not_le two) three
    simp only [encoded, encoded', List.cons_append, List.nil_append, bytes_lt_iff]
    have same : first.toNat = first'.toNat := by split_ifs at leads <;> omega
    by_cases seconds : second.toNat < second'.toNat
    · exact .inr ⟨same, .inl seconds⟩
    · exact .inr ⟨same, .inr ⟨by omega, .inl (by omega)⟩⟩
  · obtain ⟨first, second, third, fourth, encoded, value₁, value₂, value₃, value₄⟩ :=
      encodeChar_four (c := c) (by split_ifs at leads <;> omega)
    obtain ⟨first', second', third', fourth', encoded', value₁', value₂', value₃', value₄'⟩ :=
      encodeChar_four (Nat.lt_of_not_le three)
    simp only [encoded, encoded', List.cons_append, List.nil_append, bytes_lt_iff]
    have same : first.toNat = first'.toNat := by split_ifs at leads <;> omega
    by_cases seconds : second.toNat < second'.toNat
    · exact .inr ⟨same, .inl seconds⟩
    by_cases thirds : third.toNat < third'.toNat
    · exact .inr ⟨same, .inr ⟨by omega, .inl thirds⟩⟩
    · exact .inr ⟨same, .inr ⟨by omega, .inr ⟨by omega, .inl (by omega)⟩⟩⟩

theorem encode_lt_of_lt {left right : Text} (less : left < right) :
    encode left < encode right := by
  induction left generalizing right with
  | nil =>
      cases right with
      | nil => exact absurd less (List.lt_irrefl _)
      | cons d rest =>
          obtain ⟨first, tail, encoded, _⟩ := encodeChar_lead d
          rw [encode, encode, List.flatMap_cons, encoded]
          exact List.nil_lt_cons _ _
  | cons c left induction =>
      cases right with
      | nil => exact absurd less (List.not_lt_nil _)
      | cons d right =>
          rw [List.cons_lt_cons_iff] at less
          rw [encode, encode, List.flatMap_cons, List.flatMap_cons]
          rcases less with first | ⟨rfl, rest⟩
          · exact encodeChar_append_lt first _ _
          · exact List.append_left_lt (induction rest)

theorem encode_lt_encode_iff {left right : Text} :
    encode left < encode right ↔ left < right := by
  constructor
  · intro less
    rcases lt_trichotomy left right with smaller | same | greater
    · exact smaller
    · subst same
      exact absurd less (List.lt_irrefl _)
    · exact absurd less (List.lt_asymm (encode_lt_of_lt greater))
  · exact encode_lt_of_lt

end Utf8
end ApiSurface
