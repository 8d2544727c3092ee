import ApiSurface.Proofs.Disassembly.Partition
import ApiSurface.Proofs.Disassembly.Rendering
import ApiSurface.Proofs.Text.LineEnds

/-! Entries printed again, each behind a marker line, are read again.  Whatever stood in the text of
a class, none of its lines starts a chunk once a marker line is in front of them. -/

namespace ApiSurface

open Text (AreLines IsEnded)

namespace Chunk

variable {line : Text} {lines : List Text} {block : Block} {blocks : List Block} {chunk : Chunk}
  {chunks : List Chunk} {inBody : Bool} {raw : Text}

/-- Lines that start no chunk where a body is open in front of them. -/
structure IsBody (lines : List Text) : Prop where
  unmarked : ∀ line ∈ lines, isMarked line = false
  settled : lines.Pairwise fun line later => isClosing line = true → isDeclaration later = false

theorem IsBody.nil : IsBody [] :=
  ⟨List.forall_mem_nil _, .nil⟩

theorem IsBody.cons (unmarked : isMarked line = false)
    (settled : isClosing line = true → ∀ later ∈ lines, isDeclaration later = false)
    (body : IsBody lines) : IsBody (line :: lines) where
  unmarked := List.forall_mem_cons.mpr ⟨unmarked, body.unmarked⟩
  settled := List.pairwise_cons.mpr
    ⟨fun later member closes => settled closes later member, body.settled⟩

theorem isBody_of_silent
    (silent : ∀ line ∈ lines, isMarked line = false ∧ isDeclaration line = false) :
    IsBody lines where
  unmarked line member := (silent line member).1
  settled := List.pairwise_of_forall_mem_list fun _ _ later member _ => (silent later member).2

theorem isBody_cutLines (lines : List Text) : IsBody (cutLines true lines).1 := by
  induction lines with
  | nil => exact .nil
  | cons line lines induction =>
      rw [cutLines]
      split_ifs with marked declares
      · exact .nil
      · exact .nil
      · have unmarked : isMarked line = false := by simpa using marked
        cases closes : isClosing line with
        | false => exact .cons unmarked (fun closed => by simp [closes] at closed) induction
        | true =>
            have silent := cutLines_front lines
            exact .cons unmarked (fun _ later member => (silent later member).2)
              (isBody_of_silent silent)

/-- A block whose first line starts it, and whose other lines start nothing. -/
def Block.IsSettled (block : Block) : Prop :=
  ∃ first rest, block.lines = first :: rest ∧ isMarked first = block.marked ∧
    (block.marked = false → isDeclaration first = true) ∧ IsBody rest

theorem cutLines_isSettled (inBody : Bool) (lines : List Text) :
    ∀ block ∈ (cutLines inBody lines).2, block.IsSettled := by
  induction lines generalizing inBody with
  | nil => exact List.forall_mem_nil _
  | cons line lines induction =>
      have body := isBody_cutLines lines
      rw [cutLines]
      split_ifs with marked declares
      · have declared (unmarked : true = false) : isDeclaration line = true := by cases unmarked
        exact List.forall_mem_cons.mpr ⟨⟨line, _, rfl, marked, declared, body⟩, induction true⟩
      · have declared := (Bool.and_eq_true_iff.mp declares).2
        have unmarked : isMarked line = false := by simpa using marked
        exact List.forall_mem_cons.mpr
          ⟨⟨line, _, rfl, unmarked, fun _ => declared, body⟩, induction true⟩
      · exact induction _

theorem Block.IsSettled.isStarted (settled : block.IsSettled) : block.IsStarted := by
  obtain ⟨first, rest, split, marking, declares, -⟩ := settled
  refine ⟨first, rest, split, ?_⟩
  split_ifs with marked
  · exact marking.trans marked
  · exact declares (by simpa using marked)

theorem source_ofMarked_suffix (rest : Text) : (ofMarked rest).source <:+ rest := by
  rw [ofMarked]
  split
  · next header source cut =>
    rw [(Text.cutFirst_eq_some_iff.mp cut).1, List.append_cons]
    exact List.suffix_append _ source
  · exact List.nil_suffix

theorem source_ofBlock_suffix (started : block.IsStarted) :
    (ofBlock block).source <:+ block.text := by
  cases marked : block.marked with
  | false => simp [ofBlock_of_unmarked marked]
  | true =>
      obtain ⟨more, rest, -, text⟩ := started.of_marked marked
      rw [ofBlock_of_marked marked text, text]
      exact (source_ofMarked_suffix _).trans (List.suffix_append marker _)

theorem isBody_source (settled : block.IsSettled) (areLines : AreLines block.lines) :
    IsBody (ofBlock block).source.lines := by
  have started := settled.isStarted
  obtain ⟨first, rest, split, marking, declares, body⟩ := settled
  have lines : block.text.lines = first :: rest := areLines.lines_flatten.trans split
  cases marked : block.marked with
  | false =>
      rw [ofBlock_of_unmarked marked, lines]
      refine .cons (marking.trans marked) (fun closes => ?_) body
      rw [not_isClosing_of_isDeclaration (declares marked)] at closes
      cases closes
  | true =>
      obtain ⟨more, below, -, text⟩ := started.of_marked marked
      rw [ofBlock_of_marked marked text, ofMarked]
      split
      · next header source cut =>
        obtain ⟨same, single⟩ := Text.cutFirst_eq_some_iff.mp cut
        have whole : '\n' ∉ marker ++ header := by
          rw [List.mem_append, not_or]
          exact ⟨by decide, single⟩
        rw [text, same, ← List.append_assoc, Text.lines_append_feed whole] at lines
        exact (List.cons.inj lines).2 ▸ body
      · exact .nil

theorem sources_ended (started : ∀ block ∈ blocks, block.IsStarted)
    (areLines : AreLines (blocks.flatMap Block.lines)) :
    (blocks.map ofBlock).Pairwise fun chunk _ => chunk.source.IsEnded := by
  induction blocks with
  | nil => exact .nil
  | cons block blocks induction =>
      obtain ⟨here, others⟩ := List.forall_mem_cons.mp started
      rw [List.flatMap_cons] at areLines
      rw [List.map_cons, List.pairwise_cons]
      refine ⟨fun later member => ?_, induction others areLines.of_append.2⟩
      have more : blocks.flatMap Block.lines ≠ [] := by
        obtain ⟨next, inside, -⟩ := List.mem_map.mp member
        obtain ⟨first, rest, split, -⟩ := others next inside
        intro none
        rw [List.flatMap_eq_nil_iff.mp none next inside] at split
        cases split
      exact (areLines.isEnded_flatten more).of_suffix (source_ofBlock_suffix here)

theorem exists_block (member : chunk ∈ split raw) :
    ∃ before block after, raw.unifyLineEnds.lines = before ++ (block.lines ++ after) ∧
      block.IsSettled ∧ chunk = ofBlock block := by
  obtain ⟨block, inside, rfl⟩ := List.mem_map.mp member
  have whole := cutLines_whole false raw.unifyLineEnds.lines
  have settled := cutLines_isSettled false raw.unifyLineEnds.lines block inside
  obtain ⟨front, back, split⟩ := List.append_of_mem inside
  rw [split, List.flatMap_append, List.flatMap_cons, ← List.append_assoc] at whole
  exact ⟨_, block, _, whole.symm, settled, rfl⟩

theorem source_inside (member : chunk ∈ split raw) : chunk.source <:+: raw.unifyLineEnds := by
  obtain ⟨before, block, after, split, settled, rfl⟩ := exists_block member
  have inside : block.text <:+: raw.unifyLineEnds := by
    rw [← Text.flatten_lines raw.unifyLineEnds, split, List.flatten_append, List.flatten_append,
      ← List.append_assoc]
    exact List.infix_append _ _ _
  exact (source_ofBlock_suffix settled.isStarted).isInfix.trans inside

theorem isBody_of_split (member : chunk ∈ split raw) : IsBody chunk.source.lines := by
  obtain ⟨before, block, after, split, settled, rfl⟩ := exists_block member
  have areLines := Text.areLines_lines raw.unifyLineEnds
  rw [split] at areLines
  exact isBody_source settled areLines.of_append.2.of_append.1

theorem split_ended (raw : Text) : (split raw).Pairwise fun chunk _ => chunk.source.IsEnded := by
  have areLines := Text.areLines_lines raw.unifyLineEnds
  rw [← cutLines_whole false raw.unifyLineEnds.lines] at areLines
  exact sources_ended (cutLines_started false _) areLines.of_append.2

theorem AreShowable.split_flatMap (showable : AreShowable chunks) :
    split (chunks.flatMap render) = chunks := by
  rw [split, showable.lines_flatMap, showable.cutLines_flatMap fun _ _ _ => rfl, List.map_map]
  refine (List.map_congr_left fun chunk member => ?_).trans (List.map_id chunks)
  exact (showable.each chunk member).ofBlock_block

/-- Chunks behind marker lines whose sources are some of those of a disassembly. -/
structure AreReprinted (chunks : List Chunk) (raw : Text) : Prop where
  headed : ∀ chunk ∈ chunks, ∃ header, chunk.header = some header ∧ '\n' ∉ header ∧
    header.getLast? ≠ some '\r'
  sublist : (chunks.map Chunk.source).Sublist ((split raw).map Chunk.source)

theorem AreReprinted.areShowable (reprinted : AreReprinted chunks raw)
    (single : ¬ ['\r', '\r', '\n'] <:+: raw) : AreShowable chunks where
  each := by
    intro chunk member
    obtain ⟨header, held, unfed, unreturned⟩ := reprinted.headed chunk member
    obtain ⟨origin, inside, same⟩ :=
      List.mem_map.mp (reprinted.sublist.subset (List.mem_map_of_mem member))
    have body := isBody_of_split inside
    have unified := (Text.isUnified_unifyLineEnds single).of_inside (source_inside inside)
    rw [same] at body unified
    refine ⟨?_, unified, body.unmarked, ?_, body.settled⟩
    · rw [held]
      exact fun other found => Option.mem_some.mp found ▸ ⟨unfed, unreturned⟩
    · rw [held]
      exact nofun
  linked := by
    have ended : ((split raw).map Chunk.source).Pairwise fun source _ => source.IsEnded :=
      List.pairwise_map.mpr (split_ended raw)
    refine (List.Pairwise.imp_of_mem ?_
      (List.pairwise_map.mp (ended.sublist reprinted.sublist))).isChain
    intro chunk next _ member ended
    obtain ⟨header, held, -⟩ := reprinted.headed next member
    refine ⟨ended, fun headless => ?_⟩
    rw [held] at headless
    cases headless

end Chunk

namespace Entry

open Chunk

variable {raw : Text}

theorem parseAll_eq (raw : Text) :
    parseAll raw = ((split raw).map Chunk.source).filterMap ofSource? := by
  rw [List.filterMap_map]
  rfl

theorem filterMap_sources (raw : Text) :
    ((parseAll raw).map source).filterMap ofSource? = parseAll raw := by
  have read (entry : Entry) (member : entry ∈ parseAll raw) :
      ofSource? entry.source = some entry := by
    obtain ⟨chunk, -, read⟩ := List.mem_filterMap.mp member
    obtain ⟨line, declaration, -, -, -, rfl⟩ := ofSource?_eq_some_iff.mp read
    exact read
  rw [List.filterMap_map]
  exact (List.filterMap_congr read).trans List.filterMap_some

/-- Entries that are printed again behind marker lines, whatever these say, are read again. -/
theorem parseAll_reprinted {headers : List Text} (single : ¬ ['\r', '\r', '\n'] <:+: raw)
    (count : headers.length = (parseAll raw).length)
    (plain : ∀ header ∈ headers, '\n' ∉ header ∧ header.getLast? ≠ some '\r') :
    parseAll ((headers.zip (parseAll raw)).flatMap fun (header, entry) =>
      marker ++ header ++ '\n' :: entry.source) = parseAll raw := by
  let chunk (printed : Text × Entry) : Chunk := ⟨some printed.1, printed.2.source⟩
  let chunks := (headers.zip (parseAll raw)).map chunk
  have sources : chunks.map Chunk.source = (parseAll raw).map source := by
    rw [List.map_map, ← congrArg (List.map source) (List.map_snd_zip count.ge), List.map_map]
    rfl
  have reprinted : AreReprinted chunks raw := by
    constructor
    · intro other member
      obtain ⟨⟨header, entry⟩, inside, rfl⟩ := List.mem_map.mp member
      exact ⟨header, rfl, plain header (List.of_mem_zip inside).1⟩
    · rw [sources]
      exact sources_sublist (split raw)
  calc parseAll ((headers.zip (parseAll raw)).flatMap fun (header, entry) =>
        marker ++ header ++ '\n' :: entry.source)
      = parseAll (chunks.flatMap render) := by rw [List.flatMap_map]; rfl
    _ = (chunks.map Chunk.source).filterMap ofSource? := by
        rw [parseAll_eq, (reprinted.areShowable single).split_flatMap]
    _ = parseAll raw := by rw [sources, filterMap_sources]

/-- A class that is not public, and one without a marker line. -/
def sampleOutput : Text :=
  ("Compiled from \"A.java\"\r\npublic class a.A \x7b\r\n\x7d\r\nstray\n" ++
    "Compiled from \"B.java\"\nclass a.B \x7b\n\x7d\npublic class a.C \x7b").toList

theorem parseAll_reprinted_sample :
    ¬ ['\r', '\r', '\n'] <:+: sampleOutput ∧
      (["Any".toList, []] : List Text).length = (parseAll sampleOutput).length ∧
      (∀ header ∈ (["Any".toList, []] : List Text), '\n' ∉ header ∧ header.getLast? ≠ some '\r') ∧
      parseAll (((["Any".toList, []] : List Text).zip (parseAll sampleOutput)).flatMap
        fun (header, entry) => marker ++ header ++ '\n' :: entry.source) =
          parseAll sampleOutput := by
  have single : ¬ ['\r', '\r', '\n'] <:+: sampleOutput := by decide +kernel
  have count : (["Any".toList, []] : List Text).length = (parseAll sampleOutput).length := by
    decide +kernel
  have plain : ∀ header ∈ (["Any".toList, []] : List Text),
      '\n' ∉ header ∧ header.getLast? ≠ some '\r' := by
    decide +kernel
  exact ⟨single, count, plain, parseAll_reprinted single count plain⟩

end Entry

end ApiSurface
