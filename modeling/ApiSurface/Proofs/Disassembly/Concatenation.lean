import ApiSurface.Disassembly.Entry
import ApiSurface.Proofs.Text.Blank

/-! Disassemblies that are put together.  Where the last class of the first is closed and the
second starts with a class, the chunks of both are those of the whole. -/

namespace ApiSurface

namespace Chunk

variable {lines later : List Text} {line : Text} {inBody : Bool}

/-- A line is a declaration if its first character can be seen and the last one that can be seen
is an opening brace. -/
theorem isDeclaration_iff :
    isDeclaration line = true ↔
      (∃ c, line.head? = some c ∧ isBlank c = false) ∧ line.visible.getLast? = some '{' := by
  have ending : line.trimEnd.endsWith ['{'] = true ↔ line.visible.getLast? = some '{' := by
    rw [Text.endsWith, List.isSuffixOf_iff_suffix, List.singleton_suffix_iff_getLast?_eq_some,
      Text.getLast?_trimEnd]
  rw [isDeclaration, Bool.and_eq_true, ending]
  refine and_congr_left fun last => ?_
  have filled : line ≠ [] := by
    rintro rfl
    cases last
  have kept : line.trimEnd ≠ [] := by
    intro empty
    rw [← Text.getLast?_trimEnd, empty] at last
    cases last
  obtain ⟨c, rest, rfl⟩ := List.exists_cons_of_ne_nil filled
  rw [Text.head?_trimEnd kept]
  simp

theorem isDeclaration_unifyLineEnds (declares : isDeclaration line = true) :
    isDeclaration line.unifyLineEnds = true := by
  rw [isDeclaration_iff] at declares ⊢
  obtain ⟨⟨c, first, seen⟩, last⟩ := declares
  refine ⟨⟨c, ?_, seen⟩, by rwa [Text.visible_unifyLineEnds]⟩
  obtain ⟨rest, rfl⟩ := List.head?_eq_some_iff.mp first
  rw [Text.unifyLineEnds_cons fun _ isReturn _ => by simp [isReturn, isBlank] at seen]
  rfl

theorem isMarked_iff : isMarked line = true ↔ ∃ rest, line = marker ++ rest := by
  rw [isMarked, Text.startsWith, List.isPrefixOf_iff_prefix]
  exact exists_congr fun _ => eq_comm

theorem isMarked_unifyLineEnds (marked : isMarked line = true) :
    isMarked line.unifyLineEnds = true := by
  obtain ⟨rest, rfl⟩ := isMarked_iff.mp marked
  exact isMarked_iff.mpr ⟨_, Text.unifyLineEnds_append_left (by decide) rest⟩

def opensBehind (inBody : Bool) (line : Text) : Bool :=
  if isMarked line then true
  else if !inBody && isDeclaration line then true
  else inBody && !isClosing line

def openAfter (inBody : Bool) (lines : List Text) : Bool :=
  lines.foldl opensBehind inBody

theorem openAfter_append :
    openAfter inBody (lines ++ later) = openAfter (openAfter inBody lines) later :=
  List.foldl_append

/-- Whether a body is open behind cut lines: that of the last chunk, unless it has a closing
line. -/
def leavesOpen (inBody : Bool) (front : List Text) (blocks : List Block) : Bool :=
  match blocks.getLast? with
  | none => inBody && !front.any isClosing
  | some last => !last.lines.tail.any isClosing

theorem leavesOpen_front (inBody : Bool) (line : Text) (front : List Text)
    (blocks : List Block) :
    leavesOpen inBody (line :: front) blocks =
      leavesOpen (inBody && !isClosing line) front blocks := by
  unfold leavesOpen
  cases blocks.getLast? with
  | none => simp [Bool.and_assoc]
  | some last => rfl

theorem leavesOpen_block (inBody marked : Bool) (line : Text) (body : List Text)
    (blocks : List Block) :
    leavesOpen inBody [] (⟨marked, line :: body⟩ :: blocks) = leavesOpen true body blocks := by
  cases blocks with
  | nil => simp [leavesOpen]
  | cons block blocks =>
      unfold leavesOpen
      rw [List.getLast?_cons_cons, List.getLast?_eq_some_getLast (List.cons_ne_nil block blocks)]

theorem openAfter_eq :
    openAfter inBody lines =
      leavesOpen inBody (cutLines inBody lines).1 (cutLines inBody lines).2 := by
  induction lines generalizing inBody with
  | nil => simp [openAfter, cutLines, leavesOpen]
  | cons line lines induction =>
      rw [openAfter, List.foldl_cons, ← openAfter, induction, cutLines, opensBehind]
      split_ifs
      · exact (leavesOpen_block ..).symm
      · exact (leavesOpen_block ..).symm
      · exact (leavesOpen_front ..).symm

theorem cutLines_append (starts : (cutLines (openAfter inBody lines) later).1 = []) :
    cutLines inBody (lines ++ later) =
      ((cutLines inBody lines).1,
        (cutLines inBody lines).2 ++ (cutLines (openAfter inBody lines) later).2) := by
  induction lines generalizing inBody with
  | nil => exact Prod.ext starts rfl
  | cons line lines induction =>
      rw [openAfter, List.foldl_cons, ← openAfter] at starts ⊢
      rw [opensBehind] at starts ⊢
      rw [List.cons_append, cutLines, cutLines]
      split_ifs at starts ⊢
      · simp only [induction starts, List.cons_append]
      · simp only [induction starts, List.cons_append]
      · simp only [induction starts]

/-- Lines that start with a chunk and close what they open. -/
structure IsWhole (lines : List Text) : Prop where
  starts : (cutLines false lines).1 = []
  closes : openAfter false lines = false

theorem IsWhole.nil : IsWhole [] :=
  ⟨rfl, rfl⟩

theorem IsWhole.cutLines_append (first : IsWhole lines) (second : IsWhole later) :
    cutLines false (lines ++ later) =
      ([], (cutLines false lines).2 ++ (cutLines false later).2) := by
  have starts : (cutLines (openAfter false lines) later).1 = [] := by
    rw [first.closes]
    exact second.starts
  rw [Chunk.cutLines_append starts, first.starts, first.closes]

theorem IsWhole.append (first : IsWhole lines) (second : IsWhole later) :
    IsWhole (lines ++ later) where
  starts := by rw [first.cutLines_append second]
  closes := by
    rw [openAfter_append, first.closes]
    exact second.closes

/-- A text that can be put before or behind others. -/
structure IsSeparate (text : Text) : Prop where
  ended : text.IsEnded
  whole : IsWhole text.unifyLineEnds.lines

/-- The text of some classes: its lines are ended, the first of them starts a chunk, and a closing
line comes after the last one that does. -/
structure IsListing (text : Text) : Prop where
  ended : text.getLast? = some '\n'
  starts : ∃ line, text.lines.head? = some line ∧
    (isMarked line = true ∨ isDeclaration line = true)
  closed : ∃ last, (cutLines false text.unifyLineEnds.lines).2.getLast? = some last ∧
    ∃ line ∈ last.lines.tail, isClosing line = true

variable {text rest : Text}

theorem IsSeparate.nil : IsSeparate [] :=
  ⟨Text.isEnded_nil, .nil⟩

theorem IsListing.isSeparate (listing : IsListing text) : IsSeparate text where
  ended := .inr listing.ended
  whole := by
    obtain ⟨line, first, begins⟩ := listing.starts
    obtain ⟨last, found, closed⟩ := listing.closed
    obtain ⟨others, split⟩ := List.head?_eq_some_iff.mp first
    constructor
    · rw [Text.lines_unifyLineEnds, split, List.map_cons, cutLines]
      rcases begins with marked | declares
      · rw [if_pos (isMarked_unifyLineEnds marked)]
      · rw [Bool.not_false, Bool.true_and, if_pos (isDeclaration_unifyLineEnds declares)]
        split_ifs <;> rfl
    · rw [openAfter_eq, leavesOpen, found, Bool.not_eq_false', List.any_eq_true]
      exact closed

theorem lines_of_append (first : IsSeparate text) (rest : Text) :
    (text ++ rest).unifyLineEnds.lines = text.unifyLineEnds.lines ++ rest.unifyLineEnds.lines := by
  rw [Text.unifyLineEnds_append first.ended,
    Text.lines_append (Text.isEnded_unifyLineEnds first.ended)]

theorem IsSeparate.append (first : IsSeparate text) (second : IsSeparate rest) :
    IsSeparate (text ++ rest) where
  ended := first.ended.append second.ended
  whole := by
    rw [lines_of_append first]
    exact first.whole.append second.whole

theorem split_append (first : IsSeparate text) (second : IsSeparate rest) :
    split (text ++ rest) = split text ++ split rest := by
  rw [split, lines_of_append first, first.whole.cutLines_append second.whole, List.map_append]
  rfl

end Chunk

namespace Entry

open Chunk

theorem parseAll_append {text rest : Text} (first : IsSeparate text) (second : IsSeparate rest) :
    parseAll (text ++ rest) = parseAll text ++ parseAll rest := by
  rw [parseAll, split_append first second, List.filterMap_append]
  rfl

theorem parseAll_flatMap {α : Type} {block : α → Text} {items : List α}
    (separate : ∀ item ∈ items, IsSeparate (block item)) :
    parseAll (items.flatMap block) = items.flatMap fun item => parseAll (block item) := by
  have whole : IsSeparate (items.flatMap block) ∧
      parseAll (items.flatMap block) = items.flatMap fun item => parseAll (block item) := by
    induction items with
    | nil => exact ⟨.nil, rfl⟩
    | cons item items induction =>
        obtain ⟨first, others⟩ := List.forall_mem_cons.mp separate
        obtain ⟨second, parsed⟩ := induction others
        refine ⟨first.append second, ?_⟩
        rw [List.flatMap_cons, parseAll_append first second, parsed, List.flatMap_cons]
  exact whole.2

end Entry

end ApiSurface
