import ApiSurface.Proofs.Text.Utf8
import Mathlib.Data.List.Forall2

/-! Reading bytes that may not be a text.  A byte sequence is read as characters and invalid parts,
and in one way only, so that what was no text shows a replacement character. -/

namespace ApiSurface

namespace Utf8

variable {first byte : UInt8} {tail rest part bytes : Bytes} {c : Char} {text : Text}

/-- What the bytes behind a first byte have to be.  Nothing may follow one with which no character
begins. -/
def followers (first : UInt8) : List (UInt8 → Bool) :=
  if isBetween 0x00 0x7F first then []
  else if isBetween 0xC2 0xDF first then [isSecond first]
  else if isBetween 0xE0 0xEF first then [isSecond first, isContinuation]
  else if isBetween 0xF0 0xF4 first then [isSecond first, isContinuation, isContinuation]
  else [fun _ => false]

/-- How many bytes are as required, up to the first that is not. -/
def matched : List (UInt8 → Bool) → Bytes → Nat
  | accepts :: more, byte :: rest => if accepts byte then matched more rest + 1 else 0
  | _, _ => 0

abbrev Meets (required : List (UInt8 → Bool)) (bytes : Bytes) : Prop :=
  List.Forall₂ (fun accepts byte => accepts byte = true) required bytes

@[simp] theorem matched_nothing (bytes : Bytes) : matched [fun _ => false] bytes = 0 := by
  cases bytes <;> simp [matched]

theorem matched_le (required : List (UInt8 → Bool)) (bytes : Bytes) :
    matched required bytes ≤ required.length ∧ matched required bytes ≤ bytes.length := by
  induction required generalizing bytes with
  | nil => simp [matched]
  | cons accepts more induction =>
      cases bytes with
      | nil => simp [matched]
      | cons byte rest =>
          have step := induction rest
          rw [matched, List.length_cons, List.length_cons]
          split_ifs <;> omega

theorem meets_take_matched (required : List (UInt8 → Bool)) (bytes : Bytes) :
    Meets (required.take (matched required bytes)) (bytes.take (matched required bytes)) := by
  induction required generalizing bytes with
  | nil => exact .nil
  | cons accepts more induction =>
      cases bytes with
      | nil => exact .nil
      | cons byte rest =>
          rw [matched]
          split_ifs with accepted
          · exact .cons accepted (induction rest)
          · exact .nil

theorem length_le_matched {required : List (UInt8 → Bool)} {longer : Bytes}
    (meets : Meets required tail) (begins : longer <+: tail) (along : longer <+: rest) :
    longer.length ≤ matched required rest := by
  induction meets generalizing longer rest with
  | nil =>
      rw [List.prefix_nil.mp begins]
      exact Nat.zero_le _
  | @cons accepts byte more tail accepted _ induction =>
      cases longer with
      | nil => exact Nat.zero_le _
      | cons other longer =>
          obtain ⟨rfl, below⟩ := List.cons_prefix_cons.mp begins
          obtain ⟨later, rfl, within⟩ : ∃ later, rest = other :: later ∧ longer <+: later := by
            obtain ⟨behind, rfl⟩ := along
            exact ⟨longer ++ behind, rfl, List.prefix_append longer behind⟩
          rw [matched, if_pos accepted]
          exact Nat.succ_le_succ (induction below within)

/-- Reading one character goes as far as the bytes are as required, and gives a character if they
all are. -/
theorem readFirst_spec (first : UInt8) (rest : Bytes) :
    (readFirst first rest).2 = matched (followers first) rest ∧
      ((readFirst first rest).1 ≠ none ↔
        matched (followers first) rest = (followers first).length) := by
  -- One case for each way to read, and in those where the bytes end early the number says how far.
  fun_cases readFirst first rest <;> simp [followers, matched, *] <;> split_ifs <;> simp

theorem utf8EncodeChar_ne_nil (c : Char) : String.utf8EncodeChar c ≠ [] := by
  obtain ⟨first, tail, encoded, -⟩ := readFirst_encodeChar c []
  simp [encoded]

theorem meets_of_encodeChar (encoded : String.utf8EncodeChar c = first :: tail) :
    Meets (followers first) tail := by
  obtain ⟨first', tail', encoded', read⟩ := readFirst_encodeChar c []
  obtain ⟨rfl, rfl⟩ := List.cons.inj (encoded'.symm.trans encoded)
  obtain ⟨reached, full⟩ := readFirst_spec first' (tail' ++ [])
  rw [read, List.append_nil] at reached full
  have meets := meets_take_matched (followers first') tail'
  rwa [full.mp (by simp), List.take_length, ← full.mp (by simp), ← reached, List.take_length]
    at meets

theorem exists_toNat {number : Nat} (valid : number.isValidChar) : ∃ c : Char, c.toNat = number :=
  ⟨.ofNatAux number valid, rfl⟩

theorem isContinuation_iff : isContinuation byte = true ↔ 0x80 ≤ byte.toNat ∧ byte.toNat ≤ 0xBF :=
  isBetween_iff

theorem bounds_of_isSecond {second : UInt8} (follows : isSecond first second = true) :
    0x80 ≤ second.toNat ∧ second.toNat ≤ 0xBF ∧
      (first.toNat = 0xE0 → 0xA0 ≤ second.toNat) ∧
      (first.toNat = 0xED → second.toNat ≤ 0x9F) ∧
      (first.toNat = 0xF0 → 0x90 ≤ second.toNat) ∧
      (first.toNat = 0xF4 → second.toNat ≤ 0x8F) := by
  rw [isSecond_iff] at follows
  split_ifs at follows <;> omega

theorem exists_encodeChar (meets : Meets (followers first) tail) :
    ∃ c, String.utf8EncodeChar c = first :: tail := by
  -- The bytes tell the number of the character, and its encoding gives them back.
  unfold followers at meets
  split_ifs at meets with one two three four
  · cases meets
    rw [isBetween_iff] at one
    obtain ⟨c, number⟩ : ∃ c : Char, c.toNat = first.toNat := exists_toNat (.inl (by omega))
    obtain ⟨byte, encoded, value⟩ := encodeChar_one (c := c) (by omega)
    obtain rfl : byte = first := UInt8.toNat_inj.mp (by omega)
    exact ⟨c, encoded⟩
  · obtain _ | ⟨follows, _ | _⟩ := meets
    rename_i second
    rw [isBetween_iff] at two
    have bounds := bounds_of_isSecond follows
    obtain ⟨c, number⟩ : ∃ c : Char, c.toNat = (first.toNat - 0xC0) * 64 + (second.toNat - 0x80) :=
      exists_toNat (.inl (by omega))
    obtain ⟨byte, byte₂, encoded, value, value₂⟩ :=
      encodeChar_two (c := c) (by omega) (by omega)
    obtain rfl : byte = first := UInt8.toNat_inj.mp (by omega)
    obtain rfl : byte₂ = second := UInt8.toNat_inj.mp (by omega)
    exact ⟨c, encoded⟩
  · obtain _ | ⟨follows, _ | ⟨follows₃, _ | _⟩⟩ := meets
    rename_i second third
    rw [isBetween_iff] at three
    have bounds := bounds_of_isSecond follows
    rw [isContinuation_iff] at follows₃
    obtain ⟨c, number⟩ : ∃ c : Char, c.toNat =
        (first.toNat - 0xE0) * 4096 + (second.toNat - 0x80) * 64 + (third.toNat - 0x80) :=
      exists_toNat (by unfold Nat.isValidChar; omega)
    obtain ⟨byte, byte₂, byte₃, encoded, value, value₂, value₃⟩ :=
      encodeChar_three (c := c) (by omega) (by omega)
    obtain rfl : byte = first := UInt8.toNat_inj.mp (by omega)
    obtain rfl : byte₂ = second := UInt8.toNat_inj.mp (by omega)
    obtain rfl : byte₃ = third := UInt8.toNat_inj.mp (by omega)
    exact ⟨c, encoded⟩
  · obtain _ | ⟨follows, _ | ⟨follows₃, _ | ⟨follows₄, _ | _⟩⟩⟩ := meets
    rename_i second third fourth
    rw [isBetween_iff] at four
    have bounds := bounds_of_isSecond follows
    rw [isContinuation_iff] at follows₃ follows₄
    obtain ⟨c, number⟩ : ∃ c : Char, c.toNat =
        (first.toNat - 0xF0) * 262144 + (second.toNat - 0x80) * 4096
          + (third.toNat - 0x80) * 64 + (fourth.toNat - 0x80) :=
      exists_toNat (by unfold Nat.isValidChar; omega)
    obtain ⟨byte, byte₂, byte₃, byte₄, encoded, value, value₂, value₃, value₄⟩ :=
      encodeChar_four (c := c) (by omega)
    obtain rfl : byte = first := UInt8.toNat_inj.mp (by omega)
    obtain rfl : byte₂ = second := UInt8.toNat_inj.mp (by omega)
    obtain rfl : byte₃ = third := UInt8.toNat_inj.mp (by omega)
    obtain rfl : byte₄ = fourth := UInt8.toNat_inj.mp (by omega)
    exact ⟨c, encoded⟩
  · obtain _ | ⟨never, -⟩ := meets
    cases never

def Begins (bytes : Bytes) : Prop :=
  ∃ c, bytes <+: String.utf8EncodeChar c

/-- A part in front of which no character stands, and which is as long as some character begins with
it, and one byte at least. -/
structure IsInvalidPart (part rest : Bytes) : Prop where
  filled : part ≠ []
  unreadable : ∀ c, ¬ String.utf8EncodeChar c <+: part ++ rest
  begins : part.length = 1 ∨ Begins part
  longest : ∀ longer, longer <+: part ++ rest → Begins longer → longer.length ≤ part.length

/-- How bytes are read as a text. -/
inductive Reads : Bytes → Text → Prop
  | nil : Reads [] []
  | char {rest : Bytes} {text : Text} (c : Char) (reads : Reads rest text) :
      Reads (String.utf8EncodeChar c ++ rest) (c :: text)
  | invalid {part rest : Bytes} {text : Text} (isInvalid : IsInvalidPart part rest)
      (reads : Reads rest text) : Reads (part ++ rest) (replacement :: text)

theorem IsInvalidPart.length_le {part' rest' : Bytes} (isInvalid : IsInvalidPart part rest)
    (other : IsInvalidPart part' rest') (same : part' ++ rest' = part ++ rest) :
    part'.length ≤ part.length := by
  rcases other.begins with one | begins
  · rw [one]
    exact List.length_pos_of_ne_nil isInvalid.filled
  · exact isInvalid.longest part' ⟨rest', same⟩ begins

theorem IsInvalidPart.unique {part' rest' : Bytes} (isInvalid : IsInvalidPart part rest)
    (other : IsInvalidPart part' rest') (same : part' ++ rest' = part ++ rest) :
    part' = part ∧ rest' = rest :=
  List.append_inj same
    (le_antisymm (isInvalid.length_le other same) (other.length_le isInvalid same.symm))

theorem meets_replicate {required : List (UInt8 → Bool)}
    (each : ∀ accepts ∈ required, accepts byte = true) :
    Meets required (List.replicate required.length byte) := by
  induction required with
  | nil => exact .nil
  | cons accepts more induction =>
      obtain ⟨here, others⟩ := List.forall_mem_cons.mp each
      exact .cons here (induction others)

theorem tail_followers (first : UInt8) :
    (followers first).tail = List.replicate ((followers first).length - 1) isContinuation := by
  unfold followers
  split_ifs <;> rfl

theorem begins_of_meets {reached : Nat} (begun : 0 < reached)
    (meets : Meets ((followers first).take reached) part) : Begins (first :: part) := by
  -- What is still to follow may be the same byte each time, as the second byte is already there.
  have owed : ∀ accepts ∈ (followers first).drop reached, accepts 0x80 = true := by
    intro accepts member
    obtain ⟨before, rfl⟩ := Nat.exists_eq_add_one_of_ne_zero begun.ne'
    rw [← List.drop_tail, tail_followers] at member
    rw [List.eq_of_mem_replicate (List.mem_of_mem_drop member)]
    rfl
  have whole : Meets ((followers first).take reached ++ (followers first).drop reached)
      (part ++ List.replicate ((followers first).drop reached).length 0x80) :=
    List.rel_append meets (meets_replicate owed)
  rw [List.take_append_drop] at whole
  obtain ⟨c, encoded⟩ := exists_encodeChar whole
  exact ⟨c, encoded ▸ List.prefix_append (first :: part) _⟩

theorem length_le_of_begins {longer : Bytes} (along : longer <+: first :: rest)
    (begins : Begins longer) : longer.length ≤ matched (followers first) rest + 1 := by
  obtain ⟨c, begins⟩ := begins
  cases longer with
  | nil => exact Nat.zero_le _
  | cons byte longer =>
      obtain ⟨rfl, within⟩ := List.cons_prefix_cons.mp along
      cases encoded : String.utf8EncodeChar c with
      | nil => exact absurd encoded (utf8EncodeChar_ne_nil c)
      | cons first tail =>
          rw [encoded] at begins
          obtain ⟨rfl, below⟩ := List.cons_prefix_cons.mp begins
          exact Nat.succ_le_succ (length_le_matched (meets_of_encodeChar encoded) below within)

theorem isInvalidPart_of_unreadable
    (unreadable : ∀ c, ¬ String.utf8EncodeChar c <+: first :: rest) :
    readFirst first rest = (none, matched (followers first) rest) ∧
      IsInvalidPart (first :: rest.take (matched (followers first) rest))
        (rest.drop (matched (followers first) rest)) := by
  obtain ⟨reached, full⟩ := readFirst_spec first rest
  have meets := meets_take_matched (followers first) rest
  have short := (matched_le (followers first) rest).2
  have whole : first :: rest.take (matched (followers first) rest) ++
      rest.drop (matched (followers first) rest) = first :: rest := by simp
  -- Otherwise there would be a character after all.
  have stopped : matched (followers first) rest ≠ (followers first).length := by
    intro all
    rw [all, List.take_length] at meets
    obtain ⟨c, encoded⟩ := exists_encodeChar meets
    refine unreadable c ⟨rest.drop (followers first).length, ?_⟩
    rw [encoded, ← all, whole]
  constructor
  · exact Prod.ext (not_not.mp (mt full.mp stopped)) reached
  · constructor
    · exact List.cons_ne_nil _ _
    · rwa [whole]
    · by_cases begun : 0 < matched (followers first) rest
      · exact .inr (begins_of_meets begun meets)
      · left
        simp [Nat.eq_zero_of_not_pos begun]
    · intro longer along begins
      rw [whole] at along
      rw [List.length_cons, List.length_take_of_le short]
      exact length_le_of_begins along begins

theorem exists_isInvalidPart (filled : bytes ≠ [])
    (unreadable : ∀ c, ¬ String.utf8EncodeChar c <+: bytes) :
    ∃ part rest, bytes = part ++ rest ∧ IsInvalidPart part rest := by
  cases bytes with
  | nil => exact absurd rfl filled
  | cons first rest =>
      exact ⟨_, _, by simp, (isInvalidPart_of_unreadable unreadable).2⟩

theorem decodeLossy_of_isInvalidPart (isInvalid : IsInvalidPart part rest) :
    decodeLossy (part ++ rest) = replacement :: decodeLossy rest := by
  cases part with
  | nil => exact absurd rfl isInvalid.filled
  | cons first part =>
      have unreadable : ∀ c, ¬ String.utf8EncodeChar c <+: first :: (part ++ rest) :=
        isInvalid.unreadable
      obtain ⟨read, found⟩ := isInvalidPart_of_unreadable unreadable
      obtain ⟨-, behind⟩ := isInvalid.unique found (by simp)
      rw [List.cons_append, decodeLossy, scan_cons, read, behind]
      rfl

theorem decodeLossy_encodeChar_append (c : Char) (rest : Bytes) :
    decodeLossy (String.utf8EncodeChar c ++ rest) = c :: decodeLossy rest := by
  rw [decodeLossy, scan_encodeChar_append]
  rfl

theorem reads_decodeLossy (bytes : Bytes) : Reads bytes (decodeLossy bytes) := by
  induction whole : bytes.length using Nat.strong_induction_on generalizing bytes with
  | _ length induction =>
      subst whole
      have shorter {part rest : Bytes} (filled : part ≠ []) :
          rest.length < (part ++ rest).length := by
        have := List.length_pos_of_ne_nil filled
        rw [List.length_append]
        omega
      by_cases readable : ∃ c, String.utf8EncodeChar c <+: bytes
      · obtain ⟨c, rest, rfl⟩ := readable
        rw [decodeLossy_encodeChar_append]
        exact .char c (induction _ (shorter (utf8EncodeChar_ne_nil c)) rest rfl)
      · by_cases filled : bytes = []
        · rw [filled]
          exact .nil
        · obtain ⟨part, rest, rfl, isInvalid⟩ :=
            exists_isInvalidPart filled (not_exists.mp readable)
          rw [decodeLossy_of_isInvalidPart isInvalid]
          exact .invalid isInvalid (induction _ (shorter isInvalid.filled) rest rfl)

theorem reads_iff : Reads bytes text ↔ text = decodeLossy bytes := by
  constructor
  · intro reads
    induction reads with
    | nil => rfl
    | char c _ induction => rw [decodeLossy_encodeChar_append, induction]
    | invalid isInvalid _ induction => rw [decodeLossy_of_isInvalidPart isInvalid, induction]
  · rintro rfl
    exact reads_decodeLossy bytes

example : decodeLossy [0xE2, 0x82, 0x41, 0xED, 0xA0, 0x80] =
    [replacement, 'A', replacement, replacement, replacement] := by
  decide

theorem Reads.encode_or_replacement (reads : Reads bytes text) :
    bytes = encode text ∨ replacement ∈ text := by
  induction reads with
  | nil => exact .inl rfl
  | @char rest text c _ induction =>
      rcases induction with rfl | shown
      · exact .inl (List.flatMap_cons ..).symm
      · exact .inr (.tail c shown)
  | invalid => exact .inr List.mem_cons_self

/-- A text shown for bytes that are not the encoding of an expected one.  It is the text that they
encode, or else it shows that there is none. -/
structure TellsApart (bytes : Bytes) (expected actual : Text) : Prop where
  differ : bytes ≠ encode expected
  reads : Reads bytes actual
  valid : ∀ text, bytes = encode text → actual = text ∧ actual ≠ expected
  invalid : (∀ text, bytes ≠ encode text) →
    replacement ∈ actual ∧ (replacement ∉ expected → actual ≠ expected)

theorem Reads.tellsApart {expected : Text} (reads : Reads bytes text)
    (differ : bytes ≠ encode expected) : TellsApart bytes expected text where
  differ := differ
  reads := reads
  valid := by
    rintro other rfl
    rw [reads_iff, decodeLossy_encode] at reads
    exact ⟨reads, reads ▸ mt (congrArg encode) differ⟩
  invalid := by
    intro never
    have shown := reads.encode_or_replacement.resolve_left (never _)
    exact ⟨shown, fun absent same => absent (same ▸ shown)⟩

end Utf8

end ApiSurface
