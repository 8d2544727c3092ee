import ApiSurface.Proofs.Disassembly.Partition

/-! Where the chunks of a disassembly start, told by the lines in front of each line instead of by
what the cutting of lines keeps in mind. -/

namespace ApiSurface

namespace Chunk

variable {lines : List Text} {line : Text} {blocks : List Block} {starts : List Nat}
  {inBody : Bool} {last index : Nat}

/-- The numbers of the first lines of blocks that stand side by side, the first of which starts at
line `number`. -/
def startsFrom : Nat → List Block → List Nat
  | _, [] => []
  | number, block :: blocks => number :: startsFrom (number + block.lines.length) blocks

/-- The numbers of the lines at which chunks start. -/
def startLines (inBody : Bool) (lines : List Text) : List Nat :=
  startsFrom (cutLines inBody lines).1.length (cutLines inBody lines).2

/-- The lines from each of some places to the next. -/
def linesFrom (lines : List Text) : List Nat → List (List Text)
  | [] => []
  | start :: later =>
      (lines.drop start).take (later.head?.getD lines.length - start) :: linesFrom lines later

def ofLines (lines : List Text) : Chunk :=
  ofBlock ⟨lines.head?.any isMarked, lines⟩

/-- A line that is not indented and ends, blanks behind it apart, in an opening brace. -/
def IsTopLevel (line : Text) : Prop :=
  (∃ c, line.head? = some c ∧ isBlank c = false) ∧ line.trimEnd.getLast? = some '{'

/-- A line between two others holds, blanks behind it apart, a closing brace alone. -/
def ClosesBetween (lines : List Text) (first last : Nat) : Prop :=
  ∃ between line, first < between ∧ between < last ∧ lines[between]? = some line ∧
    line.trimEnd = ['}']

def IsLastBefore (starts : List Nat) (last index : Nat) : Prop :=
  last ∈ starts ∧ last < index ∧ ∀ start ∈ starts, start < index → start ≤ last

theorem cutLines_marked (inBody : Bool) (lines : List Text) :
    ∀ block ∈ (cutLines inBody lines).2, block.marked = block.lines.head?.any isMarked := by
  induction lines generalizing inBody with
  | nil => exact List.forall_mem_nil _
  | cons line lines induction =>
      rw [cutLines]
      split_ifs with marked declares
      · exact List.forall_mem_cons.mpr ⟨marked.symm, induction true⟩
      · exact List.forall_mem_cons.mpr ⟨(Bool.eq_false_iff.mpr marked).symm, induction true⟩
      · exact induction _

theorem linesFrom_startsFrom (front : List Text) (blocks : List Block) :
    linesFrom (front ++ blocks.flatMap Block.lines) (startsFrom front.length blocks) =
      blocks.map Block.lines := by
  induction blocks generalizing front with
  | nil => rfl
  | cons block blocks induction =>
      have stop : ((startsFrom (front.length + block.lines.length) blocks).head?.getD
          (front ++ (block.lines ++ blocks.flatMap Block.lines)).length) - front.length =
            block.lines.length := by
        cases blocks <;> simp [startsFrom]
      have later := induction (front ++ block.lines)
      rw [List.append_assoc, List.length_append] at later
      rw [List.flatMap_cons, startsFrom, linesFrom, stop, later, List.drop_left, List.take_left,
        List.map_cons]

theorem split_eq_linesFrom (raw : Text) :
    let lines := raw.unifyLineEnds.lines
    split raw = (linesFrom lines (startLines false lines)).map ofLines := by
  intro lines
  have whole := linesFrom_startsFrom (cutLines false lines).1 (cutLines false lines).2
  rw [cutLines_whole] at whole
  rw [startLines, whole, List.map_map]
  refine List.map_congr_left fun block member => ?_
  rw [Function.comp_apply, ofLines, ← cutLines_marked false lines block member]

/-- Whether a chunk starts at a line. -/
def begins (inBody : Bool) (line : Text) : Bool :=
  isMarked line || !inBody && isDeclaration line

theorem opensBehind_eq (inBody : Bool) (line : Text) :
    opensBehind inBody line = (begins inBody line || inBody && !isClosing line) := by
  rw [opensBehind, begins]
  cases isMarked line <;> cases !inBody && isDeclaration line <;> rfl

theorem startsFrom_add (number more : Nat) (blocks : List Block) :
    startsFrom (number + more) blocks = (startsFrom number blocks).map (· + more) := by
  induction blocks generalizing number with
  | nil => rfl
  | cons block blocks induction =>
      rw [startsFrom, startsFrom, List.map_cons, Nat.add_right_comm, induction]

theorem startLines_cons (inBody : Bool) (line : Text) (lines : List Text) :
    startLines inBody (line :: lines) =
      (if begins inBody line then [0] else []) ++
        (startLines (opensBehind inBody line) lines).map (· + 1) := by
  rw [startLines, startLines, ← startsFrom_add, cutLines, begins, opensBehind]
  cases isMarked line <;> cases !inBody && isDeclaration line <;>
    simp [startsFrom, Nat.add_comm]

theorem mem_startLines_iff :
    index ∈ startLines inBody lines ↔
      ∃ line, lines[index]? = some line ∧
        begins (openAfter inBody (lines.take index)) line = true := by
  induction lines generalizing inBody index with
  | nil => simp [startLines, cutLines, startsFrom]
  | cons line lines induction =>
      rw [startLines_cons, List.mem_append]
      cases index with
      | zero => simp [openAfter]
      | succ index =>
          have inside : index + 1 ∈ (startLines (opensBehind inBody line) lines).map (· + 1) ↔
              index ∈ startLines (opensBehind inBody line) lines := by simp
          have notHere : index + 1 ∉ if begins inBody line then [0] else [] := by
            split_ifs <;> simp
          rw [or_iff_right notHere, inside, induction, List.getElem?_cons_succ,
            List.take_succ_cons]
          rfl

theorem openAfter_take_succ (here : lines[index]? = some line) :
    openAfter inBody (lines.take (index + 1)) =
      opensBehind (openAfter inBody (lines.take index)) line := by
  rw [List.take_add_one, here, Option.toList_some, openAfter_append]
  rfl

theorem isLastBefore_succ_of_mem (member : index ∈ starts) :
    IsLastBefore starts last (index + 1) ↔ last = index := by
  constructor
  · intro ⟨_, before, greatest⟩
    have behind := greatest index member (Nat.lt_succ_self index)
    omega
  · rintro rfl
    exact ⟨member, Nat.lt_succ_self last, fun start _ before => Nat.le_of_lt_succ before⟩

theorem isLastBefore_succ_of_not_mem (absent : index ∉ starts) :
    IsLastBefore starts last (index + 1) ↔ IsLastBefore starts last index := by
  have same : ∀ start ∈ starts, start < index + 1 ↔ start < index := by
    intro start member
    have apart : start ≠ index := fun equal => absent (equal ▸ member)
    omega
  refine and_congr_right fun member => and_congr (same last member) ?_
  exact forall₂_congr fun start member' => by rw [same start member']

theorem IsLastBefore.unique {other : Nat} (isLast : IsLastBefore starts last index)
    (isOther : IsLastBefore starts other index) : last = other :=
  Nat.le_antisymm (isOther.2.2 last isLast.1 isLast.2.1) (isLast.2.2 other isOther.1 isOther.2.1)

theorem exists_isLastBefore (starts : List Nat) (index : Nat) :
    (∀ start ∈ starts, index ≤ start) ∨ ∃ last, IsLastBefore starts last index := by
  induction index with
  | zero => exact .inl fun start _ => Nat.zero_le start
  | succ index induction =>
      by_cases member : index ∈ starts
      · exact .inr ⟨index, (isLastBefore_succ_of_mem member).mpr rfl⟩
      · refine induction.imp (fun none start found => ?_) fun ⟨last, isLast⟩ =>
          ⟨last, (isLastBefore_succ_of_not_mem member).mpr isLast⟩
        have apart : index ≠ start := fun equal => member (equal ▸ found)
        exact Nat.lt_of_le_of_ne (none start found) apart

theorem closesBetween_succ (here : lines[index]? = some line) (before : last < index) :
    ClosesBetween lines last (index + 1) ↔
      ClosesBetween lines last index ∨ line.trimEnd = ['}'] := by
  constructor
  · rintro ⟨between, found, behind, inFront, there, closes⟩
    rcases Nat.lt_or_eq_of_le (Nat.le_of_lt_succ inFront) with earlier | rfl
    · exact .inl ⟨between, found, behind, earlier, there, closes⟩
    · rw [here, Option.some.injEq] at there
      exact .inr (there ▸ closes)
  · rintro (⟨between, found, behind, inFront, there, closes⟩ | closes)
    · exact ⟨between, found, behind, Nat.lt_succ_of_lt inFront, there, closes⟩
    · exact ⟨index, line, before, Nat.lt_succ_self index, here, closes⟩

/-- A body is open in front of a line if a chunk starts before it and the last of these chunks
has no closing line so far. -/
theorem openAfter_iff (inside : index ≤ lines.length) :
    openAfter false (lines.take index) = true ↔
      ∃ last, IsLastBefore (startLines false lines) last index ∧
        ¬ClosesBetween lines last index := by
  induction index with
  | zero =>
      refine iff_of_false (by simp [openAfter]) ?_
      rintro ⟨last, ⟨-, before, -⟩, -⟩
      exact Nat.not_lt_zero last before
  | succ index induction =>
      have here : lines[index]? = some lines[index] := List.getElem?_eq_getElem inside
      have starting : index ∈ startLines false lines ↔
          begins (openAfter false (lines.take index)) lines[index] = true := by
        simp [mem_startLines_iff, here]
      rw [openAfter_take_succ here, opensBehind_eq, Bool.or_eq_true, ← starting]
      by_cases member : index ∈ startLines false lines
      · refine iff_of_true (.inl member) ⟨index, (isLastBefore_succ_of_mem member).mpr rfl, ?_⟩
        rintro ⟨between, _, behind, inFront, -⟩
        omega
      · rw [or_iff_right member, Bool.and_eq_true, induction (Nat.le_of_succ_le inside),
          ← exists_and_right]
        refine exists_congr fun last => ?_
        rw [isLastBefore_succ_of_not_mem member, and_assoc]
        refine and_congr_right fun isLast => ?_
        rw [closesBetween_succ here isLast.2.1, not_or]
        simp [isClosing]

theorem openAfter_eq_false_iff (inside : index ≤ lines.length) :
    openAfter false (lines.take index) = false ↔
      (∀ start ∈ startLines false lines, index ≤ start) ∨
        ∃ last, IsLastBefore (startLines false lines) last index ∧
          ClosesBetween lines last index := by
  rw [← Bool.not_eq_true, openAfter_iff inside]
  rcases exists_isLastBefore (startLines false lines) index with first | ⟨last, isLast⟩
  · refine iff_of_true ?_ (.inl first)
    rintro ⟨last, ⟨member, before, -⟩, -⟩
    exact Nat.not_lt_of_le (first last member) before
  · constructor
    · intro closed
      refine .inr ⟨last, isLast, by_contra fun unclosed => closed ⟨last, isLast, unclosed⟩⟩
    · rintro (first | ⟨other, isOther, closes⟩) ⟨opened, isOpen, unclosed⟩
      · exact Nat.not_lt_of_le (first last isLast.1) isLast.2.1
      · exact unclosed (isOpen.unique isOther ▸ closes)

theorem isDeclaration_iff_isTopLevel : isDeclaration line = true ↔ IsTopLevel line := by
  rw [isDeclaration_iff, IsTopLevel, Text.getLast?_trimEnd]

theorem mem_startLines_iff_history :
    index ∈ startLines false lines ↔
      ∃ line, lines[index]? = some line ∧
        (marker <+: line ∨ IsTopLevel line ∧
          ((∀ start ∈ startLines false lines, index ≤ start) ∨
            ∃ last, IsLastBefore (startLines false lines) last index ∧
              ClosesBetween lines last index)) := by
  rw [mem_startLines_iff]
  refine exists_congr fun line => and_congr_right fun here => ?_
  have inside : index < lines.length := (List.getElem?_eq_some_iff.mp here).1
  rw [begins, Bool.or_eq_true, Bool.and_eq_true, Bool.not_eq_true', and_comm,
    openAfter_eq_false_iff (Nat.le_of_lt inside), isDeclaration_iff_isTopLevel, isMarked,
    Text.startsWith, List.isPrefixOf_iff_prefix]

theorem startLines_ascend (inBody : Bool) (lines : List Text) :
    (startLines inBody lines).Pairwise (· < ·) := by
  induction lines generalizing inBody with
  | nil => exact .nil
  | cons line lines induction =>
      rw [startLines_cons, List.pairwise_append, List.pairwise_map]
      refine ⟨by split_ifs <;> simp, (induction _).imp Nat.succ_lt_succ, ?_⟩
      split_ifs <;> simp

theorem begins_of_closing (closes : line.trimEnd = ['}']) : begins inBody line = false := by
  have unmarked : isMarked line = false := by
    rw [← Bool.not_eq_true, isMarked_iff]
    rintro ⟨rest, rfl⟩
    have capital : marker.head? = some 'C' := by decide
    have first := Text.head?_trimEnd (closes ▸ List.cons_ne_nil '}' [])
    rw [closes, List.head?_append, capital, Option.some_or] at first
    exact absurd first (by decide)
  have notTopLevel : isDeclaration line = false := by
    rw [← Bool.not_eq_true, isDeclaration_iff_isTopLevel, IsTopLevel, closes]
    exact fun topLevel => absurd topLevel.2 (by decide)
  rw [begins, unmarked, notTopLevel, Bool.and_false, Bool.or_false]

/-- The chunks of a disassembly go each from the line where it starts to the next such line.  A
chunk starts at each marker line, and at a top-level line if none starts before it or the last that
does is closed by then.  So no line without a marker starts a chunk in a body that is not closed,
and behind a closing line the next top-level line does, unless a chunk has started between them. -/
theorem split_starts_by_history (raw : Text) :
    let lines := raw.unifyLineEnds.lines
    let starts := startLines false lines
    starts.Pairwise (· < ·) ∧ split raw = (linesFrom lines starts).map ofLines ∧
    (∀ index, index ∈ starts ↔ ∃ line, lines[index]? = some line ∧
      (marker <+: line ∨ IsTopLevel line ∧
        ((∀ start ∈ starts, index ≤ start) ∨
          ∃ last, IsLastBefore starts last index ∧ ClosesBetween lines last index))) ∧
    (∀ index line, lines[index]? = some line → ¬marker <+: line →
      ∀ start ∈ starts, start < index → ¬ClosesBetween lines start index → index ∉ starts) ∧
    ∀ index line, lines[index]? = some line → IsTopLevel line →
      ∀ closing brace, lines[closing]? = some brace → brace.trimEnd = ['}'] → closing < index →
        (∀ start ∈ starts, start ≤ closing ∨ index ≤ start) → index ∈ starts := by
  intro lines starts
  refine ⟨startLines_ascend false lines, split_eq_linesFrom raw,
    fun _ => mem_startLines_iff_history, ?_, ?_⟩
  · intro index line here unmarked start member before unclosed starting
    obtain ⟨same, found, marked | ⟨-, first | ⟨last, isLast, closes⟩⟩⟩ :=
      mem_startLines_iff_history.mp starting
    · rw [here, Option.some.injEq] at found
      exact unmarked (found ▸ marked)
    · exact Nat.not_lt_of_le (first start member) before
    · obtain ⟨between, brace, behind, inFront⟩ := closes
      have later := isLast.2.2 start member before
      exact unclosed ⟨between, brace, Nat.lt_of_le_of_lt later behind, inFront⟩
  · intro index line here topLevel closing brace there closes before quiet
    refine mem_startLines_iff_history.mpr ⟨line, here, .inr ⟨topLevel, ?_⟩⟩
    refine (exists_isLastBefore starts index).imp_right fun ⟨last, isLast⟩ =>
      ⟨last, isLast, closing, brace, ?_, before, there, closes⟩
    have upTo := (quiet last isLast.1).resolve_right (Nat.not_le_of_lt isLast.2.1)
    refine Nat.lt_of_le_of_ne upTo ?_
    rintro rfl
    obtain ⟨same, found, starting⟩ := mem_startLines_iff.mp isLast.1
    rw [there, Option.some.injEq] at found
    rw [← found, begins_of_closing closes] at starting
    exact Bool.false_ne_true starting

end Chunk

end ApiSurface
