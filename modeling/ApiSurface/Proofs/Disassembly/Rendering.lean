import ApiSurface.Proofs.Disassembly.Concatenation
import Mathlib.Data.List.Chain

/-! A disassembly of chunks splits into these chunks again.  Whether a declaration starts a chunk
depends on what stands in front of it, so the lines of one chunk have to say what is open behind
them. -/

namespace ApiSurface

namespace Chunk

variable {chunk : Chunk} {chunks : List Chunk} {lines : List Text} {inBody : Bool}

/-- A chunk whose lines start no other one. -/
structure IsShowable (chunk : Chunk) : Prop where
  header : ∀ header ∈ chunk.header, '\n' ∉ header ∧ header.getLast? ≠ some '\r'
  unified : chunk.source.IsUnified
  unmarked : ∀ line ∈ chunk.source.lines, isMarked line = false
  declared : chunk.header = none →
    ∃ line, chunk.source.lines.head? = some line ∧ isDeclaration line = true
  settled : chunk.source.lines.Pairwise fun line later =>
    isClosing line = true → isDeclaration later = false

structure MakesWayFor (chunk next : Chunk) : Prop where
  ended : chunk.source.IsEnded
  closed : next.header = none → ∃ line ∈ chunk.source.lines, isClosing line = true

structure AreShowable (chunks : List Chunk) : Prop where
  each : ∀ chunk ∈ chunks, chunk.IsShowable
  linked : chunks.IsChain MakesWayFor

structure IsPreamble (preamble : Text) : Prop where
  ended : preamble.IsEnded
  unified : preamble.IsUnified
  silent : ∀ line ∈ preamble.lines, isMarked line = false ∧ isDeclaration line = false

def headerLines (chunk : Chunk) : List Text :=
  (chunk.header.map (marker ++ · ++ ['\n'])).toList

def block (chunk : Chunk) : Block :=
  ⟨chunk.header.isSome, chunk.headerLines ++ chunk.source.lines⟩

theorem render_eq (chunk : Chunk) : chunk.render = chunk.headerLines.flatten ++ chunk.source := by
  rw [render, headerLines]
  cases chunk.header with
  | none => rfl
  | some header => simp

theorem flatten_block (chunk : Chunk) : chunk.block.lines.flatten = chunk.render := by
  rw [block, List.flatten_append, Text.flatten_lines, render_eq]

theorem isEnded_headerLines (chunk : Chunk) : Text.IsEnded chunk.headerLines.flatten := by
  rw [headerLines]
  cases chunk.header with
  | none => exact Text.isEnded_nil
  | some header => exact .inr (by simp)

theorem isEnded_render (ended : chunk.source.IsEnded) : chunk.render.IsEnded := by
  rw [render_eq]
  exact chunk.isEnded_headerLines.append ended

theorem IsShowable.unifyLineEnds_render (showable : chunk.IsShowable) :
    chunk.render.unifyLineEnds = chunk.render := by
  have unified : Text.IsUnified chunk.headerLines.flatten := by
    rw [headerLines]
    cases held : chunk.header with
    | none => decide
    | some header =>
        obtain ⟨single, unreturned⟩ := showable.header header held
        have last : (marker ++ header).getLast? ≠ some '\r' := by
          cases header with
          | nil => decide
          | cons c rest => simpa [List.getLast?_append] using unreturned
        have whole : '\n' ∉ marker ++ header := by
          rw [List.mem_append, not_or]
          exact ⟨by decide, single⟩
        simpa using Text.isUnified_row whole last
  rw [render_eq, Text.unifyLineEnds_append chunk.isEnded_headerLines,
    Text.unifyLineEnds_of_isUnified unified, Text.unifyLineEnds_of_isUnified showable.unified]

theorem IsShowable.lines_render (showable : chunk.IsShowable) :
    chunk.render.lines = chunk.block.lines := by
  have top : Text.lines chunk.headerLines.flatten = chunk.headerLines := by
    rw [headerLines]
    cases held : chunk.header with
    | none => rfl
    | some header =>
        have whole : '\n' ∉ marker ++ header := by
          rw [List.mem_append, not_or]
          exact ⟨by decide, (showable.header header held).1⟩
        rw [Option.map_some, Option.toList_some, List.flatten_singleton]
        exact Text.lines_append_feed whole []
  rw [render_eq, Text.lines_append chunk.isEnded_headerLines, top, block]

theorem IsShowable.ofBlock_block (showable : chunk.IsShowable) : ofBlock chunk.block = chunk := by
  simp only [ofBlock, flatten_block]
  rw [block, render]
  rcases chunk with ⟨header, source⟩
  cases header with
  | none => rfl
  | some header =>
      have single := (showable.header header rfl).1
      simp only [Option.isSome_some, if_true, List.append_assoc, List.drop_left]
      rw [Text.cutFirst_append single]

theorem cutLines_silent
    (silent : ∀ line ∈ lines, isMarked line = false ∧ isDeclaration line = false)
    (inBody : Bool) : cutLines inBody lines = (lines, []) := by
  induction lines generalizing inBody with
  | nil => rfl
  | cons line lines induction =>
      obtain ⟨⟨unmarked, undeclared⟩, others⟩ := List.forall_mem_cons.mp silent
      rw [cutLines, unmarked, undeclared]
      simp [induction others]

theorem cutLines_settled (unmarked : ∀ line ∈ lines, isMarked line = false)
    (settled : lines.Pairwise fun line later =>
      isClosing line = true → isDeclaration later = false) :
    cutLines true lines = (lines, []) := by
  induction lines with
  | nil => rfl
  | cons line lines induction =>
      obtain ⟨plain, others⟩ := List.forall_mem_cons.mp unmarked
      obtain ⟨behind, settled⟩ := List.pairwise_cons.mp settled
      rw [cutLines, plain]
      cases closes : isClosing line with
      | false => simp [induction others settled]
      | true =>
          -- The body is closed here, and no declaration is left that could start a chunk.
          have silent (later : Text) (member : later ∈ lines) :=
            And.intro (others later member) (behind later member closes)
          simp [cutLines_silent silent]

theorem not_isClosing_of_isDeclaration {line : Text} (declares : isDeclaration line = true) :
    isClosing line = false := by
  rw [isDeclaration_iff, ← Text.getLast?_trimEnd] at declares
  rw [isClosing, decide_eq_false_iff_not]
  intro closes
  rw [closes] at declares
  exact absurd declares.2 (by decide)

theorem IsShowable.cutLines_block (showable : chunk.IsShowable)
    (free : chunk.header = none → inBody = false) :
    cutLines inBody chunk.block.lines = ([], [chunk.block]) := by
  cases held : chunk.header with
  | some header =>
      have marked : isMarked (marker ++ header ++ ['\n']) = true :=
        isMarked_iff.mpr ⟨header ++ ['\n'], List.append_assoc ..⟩
      rw [block, headerLines, held, Option.map_some, Option.toList_some, List.singleton_append,
        cutLines, if_pos marked, cutLines_settled showable.unmarked showable.settled]
      rfl
  | none =>
      obtain ⟨line, first, declares⟩ := showable.declared held
      obtain ⟨others, split⟩ := List.head?_eq_some_iff.mp first
      have unmarked := showable.unmarked
      have settled := showable.settled
      rw [split] at unmarked settled
      obtain ⟨plain, unmarked⟩ := List.forall_mem_cons.mp unmarked
      rw [block, headerLines, held, split, Option.map_none, Option.toList_none, List.nil_append,
        cutLines, plain, declares, free held, cutLines_settled unmarked settled.of_cons]
      rfl

theorem IsShowable.openAfter_block (showable : chunk.IsShowable)
    (free : chunk.header = none → inBody = false)
    (closed : ∃ line ∈ chunk.source.lines, isClosing line = true) :
    openAfter inBody chunk.block.lines = false := by
  rw [openAfter_eq, showable.cutLines_block free, leavesOpen, List.getLast?_singleton,
    Bool.not_eq_false', List.any_eq_true]
  obtain ⟨line, member, closes⟩ := closed
  refine ⟨line, ?_, closes⟩
  cases held : chunk.header with
  | some header => simpa [block, headerLines, held] using member
  | none =>
      obtain ⟨top, first, declares⟩ := showable.declared held
      obtain ⟨others, split⟩ := List.head?_eq_some_iff.mp first
      rw [split] at member
      have other : line ≠ top := by
        rintro rfl
        rw [not_isClosing_of_isDeclaration declares] at closes
        cases closes
      simpa [block, headerLines, held, split, other] using member

theorem AreShowable.tail (showable : AreShowable (chunk :: chunks)) : AreShowable chunks where
  each := (List.forall_mem_cons.mp showable.each).2
  linked := showable.linked.tail

theorem AreShowable.ended (showable : AreShowable (chunk :: chunks)) :
    chunks = [] ∨ chunk.source.IsEnded := by
  cases chunks with
  | nil => exact .inl rfl
  | cons next chunks => exact .inr showable.linked.rel.ended

theorem AreShowable.lines_flatMap (showable : AreShowable chunks) :
    Text.lines (Text.unifyLineEnds (chunks.flatMap render)) =
      chunks.flatMap fun chunk => chunk.block.lines := by
  induction chunks with
  | nil => rfl
  | cons chunk chunks induction =>
      have here := showable.each chunk List.mem_cons_self
      rw [List.flatMap_cons, List.flatMap_cons, ← induction showable.tail]
      rcases showable.ended with rfl | ended
      · simp [Text.unifyLineEnds, Text.lines, here.unifyLineEnds_render, here.lines_render]
      · rw [Text.unifyLineEnds_append (isEnded_render ended), here.unifyLineEnds_render,
          Text.lines_append (isEnded_render ended), here.lines_render]

theorem AreShowable.cutLines_flatMap (showable : AreShowable chunks)
    (free : ∀ first ∈ chunks.head?, first.header = none → inBody = false) :
    cutLines inBody (chunks.flatMap fun chunk => chunk.block.lines) = ([], chunks.map block) := by
  -- The induction keeps that the first chunk left may start where it stands.
  induction chunks generalizing inBody with
  | nil => rfl
  | cons chunk chunks induction =>
      have here := showable.each chunk List.mem_cons_self
      have freeHere := free chunk rfl
      have freeLater : ∀ first ∈ chunks.head?, first.header = none →
          openAfter inBody chunk.block.lines = false := by
        intro next first headless
        obtain ⟨others, rfl⟩ := List.head?_eq_some_iff.mp first
        exact here.openAfter_block freeHere (showable.linked.rel.closed headless)
      have later := induction showable.tail freeLater
      have starts := congrArg Prod.fst later
      rw [List.flatMap_cons, cutLines_append starts, here.cutLines_block freeHere, later]
      rfl

theorem split_flatMap_render {preamble : Text} (silent : IsPreamble preamble)
    (showable : AreShowable chunks) : split (preamble ++ chunks.flatMap render) = chunks := by
  have front := cutLines_silent silent.silent false
  have closed : openAfter false preamble.lines = false := by
    rw [openAfter_eq, front]
    rfl
  have blocks : cutLines false (chunks.flatMap fun chunk => chunk.block.lines) =
      ([], chunks.map block) := showable.cutLines_flatMap fun _ _ _ => rfl
  have whole : cutLines false (preamble.lines ++ chunks.flatMap fun chunk => chunk.block.lines) =
      (preamble.lines, chunks.map block) := by
    rw [cutLines_append (by rw [closed, blocks]), front, closed, blocks]
    rfl
  rw [split, Text.unifyLineEnds_append silent.ended,
    Text.unifyLineEnds_of_isUnified silent.unified, Text.lines_append silent.ended,
    showable.lines_flatMap, whole, List.map_map]
  refine (List.map_congr_left fun chunk member => ?_).trans (List.map_id chunks)
  exact (showable.each chunk member).ofBlock_block

/-- An empty chunk, one with a declaration inside its body and a line behind it, and one without
a header. -/
def sampleChunks : List Chunk :=
  [⟨some [], []⟩,
    ⟨some "\"A\r.java\"".toList,
      "public class A \x7b\nclass Inner \x7b\n\x7d \n  stray\n".toList⟩,
    ⟨none, "class B \x7b\t\n\x7d".toList⟩]

theorem areShowable_sampleChunks : AreShowable sampleChunks where
  each := by
    simp only [sampleChunks, List.forall_mem_cons]
    refine ⟨?_, ?_, ?_, by simp⟩
    · exact ⟨by decide, by decide, by decide, nofun, by decide⟩
    · exact ⟨by decide, by decide +kernel, by decide +kernel, nofun, by decide +kernel⟩
    · exact ⟨by decide, by decide +kernel, by decide +kernel, fun _ => ⟨_, rfl, by decide +kernel⟩,
        by decide +kernel⟩
  linked := by
    refine .cons_cons ⟨.inl rfl, nofun⟩ (.cons_cons ⟨.inr rfl, fun _ => ?_⟩ (.singleton _))
    exact ⟨"\x7d \n".toList, by decide +kernel, by decide +kernel⟩

theorem split_flatMap_render_sample :
    IsPreamble "Warning \x7b1\x7d\n\n".toList ∧ AreShowable sampleChunks ∧
      split ("Warning \x7b1\x7d\n\n".toList ++ sampleChunks.flatMap render) = sampleChunks := by
  have silent : IsPreamble "Warning \x7b1\x7d\n\n".toList :=
    ⟨.inr rfl, by decide +kernel, by decide +kernel⟩
  exact ⟨silent, areShowable_sampleChunks, split_flatMap_render silent areShowable_sampleChunks⟩

end Chunk
end ApiSurface
