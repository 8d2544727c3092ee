import ApiSurface.Text.Utf8
import Mathlib.Tactic.Common

/-! Texts between byte positions.  A position cuts a text only where it stands between two of its
characters. -/

namespace ApiSurface

namespace Text

variable {text before after piece : Text} {pieces fewer : List Text} {count start stop : Nat}

def size (text : Text) : Nat :=
  (Utf8.encode text).length

@[simp] theorem size_nil : size [] = 0 := rfl

@[simp] theorem size_cons (c : Char) (rest : Text) : size (c :: rest) = c.utf8Size + size rest := by
  simp [size, Utf8.encode]

@[simp] theorem size_append (text later : Text) :
    size (text ++ later) = size text + size later := by
  simp [size, Utf8.encode]

theorem size_pos (filled : text ≠ []) : 0 < size text := by
  obtain ⟨c, rest, rfl⟩ := List.exists_cons_of_ne_nil filled
  have := c.utf8Size_pos
  rw [size_cons]
  omega

/-- The parts of a text in front of and behind its first bytes, unless these end inside a
character or there are fewer. -/
def splitBytes? : Nat → Text → Option (Text × Text)
  | 0, text => some ([], text)
  | _ + 1, [] => none
  | count + 1, c :: rest =>
      if c.utf8Size ≤ count + 1 then
        (splitBytes? (count + 1 - c.utf8Size) rest).map fun (before, after) => (c :: before, after)
      else none

theorem splitBytes?_size (before after : Text) :
    splitBytes? (size before) (before ++ after) = some (before, after) := by
  induction before with
  | nil => simp [splitBytes?]
  | cons c before induction =>
      have positive := c.utf8Size_pos
      obtain ⟨count, same⟩ : ∃ count, c.utf8Size + size before = count + 1 :=
        ⟨c.utf8Size + size before - 1, by omega⟩
      have left : count + 1 - c.utf8Size = size before := by omega
      rw [size_cons, same, List.cons_append, splitBytes?, if_pos (by omega), left, induction]
      rfl

theorem append_of_splitBytes? (split : splitBytes? count text = some (before, after)) :
    text = before ++ after ∧ size before = count := by
  induction text generalizing count before with
  | nil =>
      cases count with
      | zero =>
          obtain ⟨rfl, rfl⟩ := Prod.mk.inj (Option.some.inj split)
          exact ⟨rfl, rfl⟩
      | succ count => cases split
  | cons c rest induction =>
      cases count with
      | zero =>
          obtain ⟨rfl, rfl⟩ := Prod.mk.inj (Option.some.inj split)
          exact ⟨rfl, rfl⟩
      | succ count =>
          rw [splitBytes?] at split
          split_ifs at split with fits
          obtain ⟨⟨first, last⟩, found, same⟩ := Option.map_eq_some_iff.mp split
          obtain ⟨rfl, rfl⟩ := Prod.mk.inj same
          obtain ⟨rfl, counted⟩ := induction found
          exact ⟨rfl, by rw [size_cons]; omega⟩

/-- The part of a text between two positions. -/
def slice? (text : Text) (start stop : Nat) : Option Text :=
  if start ≤ stop then
    (splitBytes? start text).bind fun (_, rest) => (splitBytes? (stop - start) rest).map Prod.fst
  else none

theorem slice?_eq_some_iff :
    slice? text start stop = some piece ↔
      ∃ before after, text = before ++ piece ++ after ∧ size before = start ∧
        size (before ++ piece) = stop := by
  constructor
  · intro sliced
    rw [slice?] at sliced
    split_ifs at sliced with ordered
    obtain ⟨⟨before, rest⟩, found, inside⟩ := Option.bind_eq_some_iff.mp sliced
    obtain ⟨⟨piece', after⟩, found', rfl⟩ := Option.map_eq_some_iff.mp inside
    obtain ⟨rfl, counted⟩ := append_of_splitBytes? found
    obtain ⟨rfl, counted'⟩ := append_of_splitBytes? found'
    refine ⟨before, after, (List.append_assoc ..).symm, counted, ?_⟩
    simp only [size_append]
    omega
  · rintro ⟨before, after, rfl, rfl, rfl⟩
    have left : size (before ++ piece) - size before = size piece := by simp
    rw [slice?, if_pos (by simp), List.append_assoc, splitBytes?_size, Option.bind_some]
    simp only [left, splitBytes?_size, Option.map_some]

/-- Pieces that stand in a text one behind another, none of which reaches into the next. -/
inductive HasPieces : Text → List Text → Prop
  | nil (text : Text) : HasPieces text []
  | cons (before piece : Text) {after : Text} {pieces : List Text} (rest : HasPieces after pieces) :
      HasPieces (before ++ piece ++ after) (piece :: pieces)

theorem HasPieces.behind (has : HasPieces text pieces) (before : Text) :
    HasPieces (before ++ text) pieces := by
  cases has with
  | nil => exact .nil _
  | cons first piece rest => simpa using HasPieces.cons (before ++ first) piece rest

theorem HasPieces.sublist (has : HasPieces text pieces) (sublist : fewer.Sublist pieces) :
    HasPieces text fewer := by
  induction has generalizing fewer with
  | nil text =>
      obtain rfl := List.sublist_nil.mp sublist
      exact .nil text
  | cons before piece rest induction =>
      cases sublist with
      | cons _ later => exact (induction later).behind (before ++ piece)
      | cons_cons _ later => exact .cons before piece (induction later)

end Text

end ApiSurface
