import ApiSurface.Proofs.Disassembly.Concatenation
import ApiSurface.Proofs.Disassembly.Naming
import ApiSurface.Proofs.Text.Slice

/-! Nothing of a disassembly is lost behind its first chunk.  The chunks are found between byte
positions, each of which stands between two characters, and lie side by side. -/

namespace ApiSurface

open Text (AreLines HasPieces)

namespace Chunk

variable {lines : List Text} {blocks : List Block} {chunks : List Chunk} {texts : List Text}
  {block : Block} {inBody : Bool}

def Block.text (block : Block) : Text :=
  block.lines.flatten

def Block.IsStarted (block : Block) : Prop :=
  ∃ first rest, block.lines = first :: rest ∧
    if block.marked then isMarked first = true else isDeclaration first = true

theorem cutLines_whole (inBody : Bool) (lines : List Text) :
    (cutLines inBody lines).1 ++ (cutLines inBody lines).2.flatMap Block.lines = lines := by
  induction lines generalizing inBody with
  | nil => rfl
  | cons line lines induction =>
      rw [cutLines]
      split_ifs <;> simp [induction]

theorem cutLines_front (lines : List Text) :
    ∀ line ∈ (cutLines false lines).1, isMarked line = false ∧ isDeclaration line = false := by
  induction lines with
  | nil => exact List.forall_mem_nil _
  | cons line lines induction =>
      rw [cutLines]
      split_ifs with marked declares
      · exact List.forall_mem_nil _
      · exact List.forall_mem_nil _
      · refine List.forall_mem_cons.mpr ⟨⟨by simpa using marked, by simpa using declares⟩, ?_⟩
        exact induction

theorem cutLines_started (inBody : Bool) (lines : List Text) :
    ∀ block ∈ (cutLines inBody lines).2, block.IsStarted := by
  induction lines generalizing inBody with
  | nil => exact List.forall_mem_nil _
  | cons line lines induction =>
      rw [cutLines]
      split_ifs with marked declares
      · exact List.forall_mem_cons.mpr ⟨⟨line, _, rfl, marked⟩, induction true⟩
      · have declared := (Bool.and_eq_true_iff.mp declares).2
        exact List.forall_mem_cons.mpr ⟨⟨line, _, rfl, declared⟩, induction true⟩
      · exact induction _

theorem Block.IsStarted.text_ne_nil (started : block.IsStarted) : block.text ≠ [] := by
  obtain ⟨first, rest, split, starts⟩ := started
  have filled : first ≠ [] := by
    rintro rfl
    split_ifs at starts
    · exact absurd starts (by decide)
    · exact absurd starts (by decide)
  rw [Block.text, split, List.flatten_cons]
  exact List.append_ne_nil_of_left_ne_nil filled rest.flatten

theorem Block.IsStarted.of_marked (started : block.IsStarted) (marked : block.marked = true) :
    ∃ more rest, block.lines = (marker ++ more) :: rest ∧
      block.text = marker ++ (more ++ rest.flatten) := by
  obtain ⟨first, rest, split, starts⟩ := started
  rw [if_pos marked] at starts
  obtain ⟨more, rfl⟩ := isMarked_iff.mp starts
  exact ⟨more, rest, split, by simp [Block.text, split]⟩

/-- What a marker line and the lines below it say. -/
def ofMarked (rest : Text) : Chunk :=
  match rest.cutFirst '\n' with
  | some (header, source) => ⟨some header, source⟩
  | none => ⟨some rest, []⟩

theorem ofBlock_of_unmarked (unmarked : block.marked = false) :
    ofBlock block = ⟨none, block.text⟩ := by
  rw [ofBlock, unmarked]
  rfl

theorem ofBlock_of_marked {rest : Text} (marked : block.marked = true)
    (text : block.text = marker ++ rest) : ofBlock block = ofMarked rest := by
  rw [Block.text] at text
  simp only [ofBlock, marked, if_true, text, List.drop_left]
  rfl

/-- Texts that show chunks.  Only the last may end within its marker line. -/
inductive AreShownBy : List Chunk → List Text → Prop
  | nil : AreShownBy [] []
  | cutOff {header : Text} (single : '\n' ∉ header) :
      AreShownBy [⟨some header, []⟩] [marker ++ header]
  | marked {header source : Text} {chunks : List Chunk} {texts : List Text}
      (single : '\n' ∉ header) (rest : AreShownBy chunks texts) :
      AreShownBy (⟨some header, source⟩ :: chunks) ((marker ++ header ++ '\n' :: source) :: texts)
  | unmarked {source : Text} {chunks : List Chunk} {texts : List Text}
      (declared : ∃ line, source.lines.head? = some line ∧ isDeclaration line = true)
      (rest : AreShownBy chunks texts) : AreShownBy (⟨none, source⟩ :: chunks) (source :: texts)

theorem areShownBy_text (started : ∀ block ∈ blocks, block.IsStarted)
    (areLines : AreLines (blocks.flatMap Block.lines)) :
    AreShownBy (blocks.map ofBlock) (blocks.map Block.text) := by
  induction blocks with
  | nil => exact .nil
  | cons block blocks induction =>
      obtain ⟨here, others⟩ := List.forall_mem_cons.mp started
      rw [List.flatMap_cons] at areLines
      obtain ⟨areLinesHere, areLinesLater⟩ := areLines.of_append
      have later := induction others areLinesLater
      rw [List.map_cons, List.map_cons]
      cases marked : block.marked with
      | false =>
          obtain ⟨first, rest, split, declares⟩ := here
          rw [ofBlock_of_unmarked marked]
          refine .unmarked ⟨first, ?_, by simpa [marked] using declares⟩ later
          rw [Block.text, areLinesHere.lines_flatten, split, List.head?_cons]
      | true =>
          obtain ⟨more, rest, split, text⟩ := here.of_marked marked
          rw [ofBlock_of_marked marked text, text, ofMarked]
          cases cut : (more ++ rest.flatten).cutFirst '\n' with
          | some parts =>
              obtain ⟨header, source⟩ := parts
              obtain ⟨same, single⟩ := Text.cutFirst_eq_some_iff.mp cut
              rw [same, ← List.append_assoc]
              exact .marked single later
          | none =>
              have single := Text.cutFirst_eq_none_iff.mp cut
              cases blocks with
              | nil => exact .cutOff single
              | cons next blocks =>
                  -- A line with another block behind it is ended, so the header is as well.
                  obtain ⟨first, below, split', -⟩ := others next List.mem_cons_self
                  rw [List.flatMap_cons, split, split', List.cons_append] at areLines
                  obtain ⟨body, -, ended⟩ := areLines.exists_body (by simp)
                  have feeds : '\n' ∈ marker ++ more := ended ▸ by simp
                  have member := (List.mem_append.mp feeds).resolve_left (by decide)
                  exact absurd (List.mem_append_left _ member) single

theorem AreShownBy.hasPieces (shown : AreShownBy chunks texts) :
    HasPieces texts.flatten (chunks.map Chunk.source) := by
  induction shown with
  | nil => exact .nil _
  | @cutOff header single => simpa using HasPieces.cons (marker ++ header) [] (.nil [])
  | @marked header source chunks texts single rest induction =>
      simpa using HasPieces.cons (marker ++ header ++ ['\n']) source induction
  | @unmarked source chunks texts declared rest induction =>
      simpa using HasPieces.cons [] source induction

/-- The positions at which chunks start, each with whether a marker line stands there.  The first
of the lines stands at `position`. -/
def starts : Bool → Nat → List Text → List (Nat × Bool)
  | _, _, [] => []
  | inBody, position, line :: rest =>
      let next := position + line.size
      if isMarked line then (position, true) :: starts true next rest
      else if !inBody && isDeclaration line then (position, false) :: starts true next rest
      else starts (inBody && !isClosing line) next rest

def ofSlice? (marked : Bool) (text : Text) : Option Chunk :=
  if marked then
    (text.slice? marker.size text.size).map ofMarked
  else some ⟨none, text⟩

/-- The chunks that start at some positions, each of which goes on to the next start. -/
def ofStarts? (text : Text) : List (Nat × Bool) → Option (List Chunk)
  | [] => some []
  | (start, marked) :: later => do
      let inside ← text.slice? start ((later.head?.map Prod.fst).getD text.size)
      let chunk ← ofSlice? marked inside
      let chunks ← ofStarts? text later
      pure (chunk :: chunks)

def startsOfBlocks : Nat → List Block → List (Nat × Bool)
  | _, [] => []
  | position, block :: blocks =>
      (position, block.marked) :: startsOfBlocks (position + block.text.size) blocks

theorem starts_eq (inBody : Bool) (position : Nat) (lines : List Text) :
    starts inBody position lines =
      startsOfBlocks (position + Text.size (cutLines inBody lines).1.flatten)
        (cutLines inBody lines).2 := by
  induction lines generalizing inBody position with
  | nil => rfl
  | cons line lines induction =>
      rw [starts, cutLines]
      split_ifs <;> simp [induction, startsOfBlocks, Block.text, Nat.add_assoc]

theorem startsOfBlocks_bounds (started : ∀ block ∈ blocks, block.IsStarted) (position : Nat) :
    ∀ start ∈ startsOfBlocks position blocks, position ≤ start.1 ∧
      start.1 < position + Text.size (blocks.map Block.text).flatten := by
  induction blocks generalizing position with
  | nil => exact List.forall_mem_nil _
  | cons block blocks induction =>
      obtain ⟨here, others⟩ := List.forall_mem_cons.mp started
      have positive := Text.size_pos here.text_ne_nil
      rw [startsOfBlocks, List.forall_mem_cons, List.map_cons, List.flatten_cons, Text.size_append]
      refine ⟨⟨Nat.le_refl position, by omega⟩, fun start member => ?_⟩
      have bounds := induction others _ start member
      omega

theorem startsOfBlocks_ascend (started : ∀ block ∈ blocks, block.IsStarted) (position : Nat) :
    ((startsOfBlocks position blocks).map Prod.fst).Pairwise (· < ·) := by
  induction blocks generalizing position with
  | nil => exact .nil
  | cons block blocks induction =>
      obtain ⟨here, others⟩ := List.forall_mem_cons.mp started
      have positive := Text.size_pos here.text_ne_nil
      rw [startsOfBlocks, List.map_cons, List.pairwise_cons]
      refine ⟨fun next member => ?_, induction others _⟩
      obtain ⟨start, found, rfl⟩ := List.mem_map.mp member
      have bounds := startsOfBlocks_bounds others _ start found
      omega

theorem ofSlice?_text (started : block.IsStarted) :
    ofSlice? block.marked block.text = some (ofBlock block) := by
  cases marked : block.marked with
  | false => rw [ofSlice?, ofBlock_of_unmarked marked, if_neg Bool.false_ne_true]
  | true =>
      obtain ⟨more, rest, -, text⟩ := started.of_marked marked
      have behind : block.text.slice? marker.size block.text.size = some (more ++ rest.flatten) :=
        Text.slice?_eq_some_iff.mpr ⟨marker, [], by rw [text, List.append_nil], rfl, by rw [text]⟩
      rw [ofSlice?, if_pos rfl, behind, Option.map_some, ofBlock_of_marked marked text]

theorem ofStarts?_startsOfBlocks (started : ∀ block ∈ blocks, block.IsStarted) (before : Text) :
    ofStarts? (before ++ (blocks.map Block.text).flatten) (startsOfBlocks before.size blocks) =
      some (blocks.map ofBlock) := by
  -- `before` is all text in front of the blocks that are left.
  induction blocks generalizing before with
  | nil => rfl
  | cons block blocks induction =>
      obtain ⟨here, others⟩ := List.forall_mem_cons.mp started
      have stop : ((startsOfBlocks (before.size + block.text.size) blocks).head?.map Prod.fst).getD
          (before.size + (block.text.size + Text.size (blocks.map Block.text).flatten)) =
            before.size + block.text.size := by
        cases blocks <;> simp [startsOfBlocks]
      have inside : Text.slice? (before ++ (block.text ++ (blocks.map Block.text).flatten))
          before.size (before.size + block.text.size) = some block.text :=
        Text.slice?_eq_some_iff.mpr ⟨before, _, (List.append_assoc ..).symm, rfl, by simp⟩
      have later := induction others (before ++ block.text)
      rw [List.append_assoc, Text.size_append] at later
      rw [List.map_cons, List.flatten_cons, startsOfBlocks, ofStarts?, Text.size_append,
        Text.size_append, stop, inside, Option.bind_eq_bind, Option.bind_some, ofSlice?_text here,
        later]
      rfl

end Chunk

namespace Entry

theorem sources_sublist (chunks : List Chunk) :
    ((chunks.filterMap fun chunk => ofSource? chunk.source).map source).Sublist
      (chunks.map Chunk.source) := by
  induction chunks with
  | nil => exact .slnil
  | cons chunk chunks induction =>
      rw [List.filterMap_cons, List.map_cons]
      cases read : ofSource? chunk.source with
      | none => exact induction.cons _
      | some entry =>
          obtain ⟨line, declaration, -, -, -, rfl⟩ := ofSource?_eq_some_iff.mp read
          exact induction.cons_cons _

end Entry

namespace Chunk

/-- A disassembly is what stands in front of its first chunk and, side by side, the texts of its
chunks.  Cutting it where chunks start gives them, and no cut is refused. -/
theorem split_partitions (raw : Text) :
    let text := raw.unifyLineEnds
    let starts := starts false 0 text.lines
    (∃ preamble texts, text = preamble ++ texts.flatten ∧
      (∀ line ∈ preamble.lines, isMarked line = false ∧ isDeclaration line = false) ∧
      AreShownBy (split raw) texts) ∧
    (starts.map Prod.fst).Pairwise (· < ·) ∧ (∀ start ∈ starts, start.1 < text.size) ∧
    ofStarts? text starts = some (split raw) ∧
    HasPieces text ((Entry.parseAll raw).map Entry.source) := by
  intro text starts
  have whole := cutLines_whole false text.lines
  have started := cutLines_started false text.lines
  have front := cutLines_front text.lines
  have positions : starts = _ := starts_eq false 0 text.lines
  have chunks : split raw = (cutLines false text.lines).2.map ofBlock := rfl
  generalize (cutLines false text.lines).1 = preamble at whole front positions
  generalize (cutLines false text.lines).2 = blocks at whole started positions chunks
  rw [Nat.zero_add] at positions
  obtain ⟨areLinesFront, areLinesLater⟩ := (whole ▸ Text.areLines_lines text).of_append
  have shown := areShownBy_text started areLinesLater
  rw [← chunks] at shown
  have parts : text = preamble.flatten ++ (blocks.map Block.text).flatten := by
    have flat := Text.flatten_lines text
    rw [← whole, List.flatten_append, List.flatMap_def, List.flatten_flatten, List.map_map] at flat
    exact flat.symm
  have total : text.size =
      Text.size preamble.flatten + Text.size (blocks.map Block.text).flatten := by
    rw [parts, Text.size_append]
  refine ⟨⟨preamble.flatten, _, parts, ?_, shown⟩, ?_, ?_, ?_, ?_⟩
  · rwa [areLinesFront.lines_flatten]
  · rw [positions]
    exact startsOfBlocks_ascend started _
  · rw [positions, total]
    exact fun start member => (startsOfBlocks_bounds started _ start member).2
  · rw [positions, parts, chunks]
    exact ofStarts?_startsOfBlocks started preamble.flatten
  · have pieces := shown.hasPieces.behind preamble.flatten
    rw [← parts] at pieces
    exact pieces.sublist (Entry.sources_sublist (split raw))

end Chunk

end ApiSurface
