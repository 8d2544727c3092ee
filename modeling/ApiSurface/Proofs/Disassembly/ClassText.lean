import ApiSurface.Proofs.Archive.QualifiedName
import ApiSurface.Proofs.Disassembly.Rendering
import Mathlib.Data.List.TakeWhile

/-! The text that is printed of one public class, and the entry that is read from it. -/

namespace ApiSurface

/-- A line without its end. -/
structure IsRow (row : Text) : Prop where
  unfed : '\n' ∉ row
  unreturned : '\r' ∉ row

theorem isRow_of_unbroken {row : Text} (unbroken : ∀ c ∈ row, isBlank c = false) : IsRow row where
  unfed member := absurd (unbroken '\n' member) (by decide)
  unreturned member := absurd (unbroken '\r' member) (by decide)

theorem IsRow.append {row other : Text} (first : IsRow row) (second : IsRow other) :
    IsRow (row ++ other) where
  unfed := by
    rw [List.mem_append, not_or]
    exact ⟨first.unfed, second.unfed⟩
  unreturned := by
    rw [List.mem_append, not_or]
    exact ⟨first.unreturned, second.unreturned⟩

/-- What is printed of a class: perhaps a line that names its source file, and its members, on
lines that are indented or empty. -/
structure ClassText where
  header : Option Text
  members : List Text
  header_isRow : ∀ row ∈ header, IsRow row
  members_areRows : ∀ row ∈ members, IsRow row
  indented : ∀ row ∈ members, ∀ c ∈ row.head?, isBlank c = true

namespace ClassText

variable {printed : ClassText} {name : QualifiedName}

def opening : Text :=
  "public class ".toList

def declaration (name : Text) : Text :=
  opening ++ name ++ " \x7b".toList

def rows (printed : ClassText) (name : Text) : List Text :=
  declaration name :: printed.members ++ ["\x7d".toList]

/-- The text of the class itself. -/
def source (printed : ClassText) (name : Text) : Text :=
  (printed.rows name).flatMap (· ++ ['\n'])

def chunk (printed : ClassText) (name : Text) : Chunk :=
  ⟨printed.header, printed.source name⟩

/-- All that is printed. -/
def text (printed : ClassText) (name : Text) : Text :=
  (printed.chunk name).render

theorem areRows (printed : ClassText) (ordinary : name.IsOrdinary) :
    ∀ row ∈ printed.rows name.dotted, IsRow row := by
  have named : IsRow (declaration name.dotted) :=
    IsRow.append (.append ⟨by decide, by decide⟩
      (isRow_of_unbroken (QualifiedName.unbroken_dotted ordinary))) ⟨by decide, by decide⟩
  have closing : IsRow "\x7d".toList := ⟨by decide, by decide⟩
  intro row member
  rcases List.mem_cons.mp member with rfl | inside
  · exact named
  · rcases List.mem_append.mp inside with inside | last
    · exact printed.members_areRows row inside
    · exact List.mem_singleton.mp last ▸ closing

theorem lines_source (printed : ClassText) (ordinary : name.IsOrdinary) :
    (printed.source name.dotted).lines = (declaration name.dotted ++ ['\n']) ::
      printed.members.map (· ++ ['\n']) ++ ["\x7d\n".toList] := by
  rw [source, Text.lines_flatMap fun row member => (printed.areRows ordinary row member).unfed]
  simp [rows]

theorem not_isMarked_of_head {line : Text} {c : Char} (first : line.head? = some c)
    (other : c ≠ 'C') : Chunk.isMarked line = false := by
  rw [Bool.eq_false_iff]
  intro marked
  obtain ⟨rest, rfl⟩ := Chunk.isMarked_iff.mp marked
  exact other (Option.some.inj first).symm

theorem not_isClosing_of_head {line : Text} {c : Char} (first : line.head? = some c)
    (other : c ≠ '\x7d') : Chunk.isClosing line = false := by
  rw [Chunk.isClosing, decide_eq_false_iff_not]
  intro closes
  have kept : line.trimEnd ≠ [] := by
    rw [closes]
    decide
  have same := Text.head?_trimEnd kept
  rw [closes, first] at same
  exact other (Option.some.inj same).symm

theorem head?_declaration (name : Text) :
    (declaration name ++ ['\n']).head? = some 'p' := by
  rw [declaration, List.append_assoc, List.append_assoc]
  rfl

theorem isDeclaration_declaration (name : Text) :
    Chunk.isDeclaration (declaration name ++ ['\n']) = true := by
  have ending : (" \x7b".toList ++ ['\n']).filter (fun c => !isBlank c) = ['\x7b'] := by decide
  rw [Chunk.isDeclaration_iff]
  refine ⟨⟨'p', head?_declaration name, by decide⟩, ?_⟩
  rw [Text.visible, declaration, List.append_assoc, List.filter_append, ending,
    List.getLast?_concat]

theorem member_inside {row : Text} (member : row ∈ printed.members) :
    Chunk.isMarked (row ++ ['\n']) = false ∧ Chunk.isClosing (row ++ ['\n']) = false := by
  obtain ⟨c, first, blank⟩ : ∃ c, (row ++ ['\n']).head? = some c ∧ isBlank c = true := by
    cases row with
    | nil => exact ⟨'\n', rfl, by decide⟩
    | cons c row => exact ⟨c, rfl, printed.indented _ member c rfl⟩
  refine ⟨not_isMarked_of_head first ?_, not_isClosing_of_head first ?_⟩
  · rintro rfl
    exact absurd blank (by decide)
  · rintro rfl
    exact absurd blank (by decide)

theorem isUnified_source (printed : ClassText) (ordinary : name.IsOrdinary) :
    Text.IsUnified (printed.source name.dotted) := by
  intro broken
  have returned : '\r' ∈ printed.source name.dotted := broken.subset List.mem_cons_self
  obtain ⟨row, member, inside⟩ := List.mem_flatMap.mp returned
  rcases List.mem_append.mp inside with inside | last
  · exact (printed.areRows ordinary row member).unreturned inside
  · simp at last

theorem isShowable_chunk (printed : ClassText) (ordinary : name.IsOrdinary) :
    (printed.chunk name.dotted).IsShowable := by
  have lines := printed.lines_source ordinary
  have first : Chunk.isMarked (declaration name.dotted ++ ['\n']) = false ∧
      Chunk.isClosing (declaration name.dotted ++ ['\n']) = false :=
    ⟨not_isMarked_of_head (head?_declaration _) (by decide),
      not_isClosing_of_head (head?_declaration _) (by decide)⟩
  have inside : ∀ line ∈ (declaration name.dotted ++ ['\n']) :: printed.members.map (· ++ ['\n']),
      Chunk.isMarked line = false ∧ Chunk.isClosing line = false := by
    refine List.forall_mem_cons.mpr ⟨first, fun line member => ?_⟩
    obtain ⟨row, held, rfl⟩ := List.mem_map.mp member
    exact member_inside held
  have closing : Chunk.isMarked "\x7d\n".toList = false ∧
      Chunk.isDeclaration "\x7d\n".toList = false := by decide
  constructor
  · intro header held
    have isRow := printed.header_isRow header held
    exact ⟨isRow.unfed, fun last => isRow.unreturned (List.mem_of_getLast? last)⟩
  · exact printed.isUnified_source ordinary
  · rw [chunk, lines]
    exact List.forall_mem_append.mpr
      ⟨fun line member => (inside line member).1, List.forall_mem_singleton.mpr closing.1⟩
  · exact fun _ => ⟨_, by rw [chunk, lines]; rfl, isDeclaration_declaration _⟩
  · rw [chunk, lines]
    refine List.pairwise_append.mpr ⟨?_, List.pairwise_singleton .., ?_⟩
    · exact List.pairwise_of_forall_mem_list fun line member _ _ => by simp [(inside line member).2]
    · exact fun line member _ _ => by simp [(inside line member).2]

theorem split_text (printed : ClassText) (ordinary : name.IsOrdinary) :
    Chunk.split (printed.text name.dotted) = [printed.chunk name.dotted] := by
  have showable := printed.isShowable_chunk ordinary
  rw [Chunk.split, text, showable.unifyLineEnds_render, showable.lines_render,
    showable.cutLines_block fun _ => rfl, List.map_singleton, showable.ofBlock_block]

theorem source_eq_of_text {other : ClassText} (ordinary : name.IsOrdinary)
    (same : printed.text name.dotted = other.text name.dotted) :
    printed.source name.dotted = other.source name.dotted := by
  have chunks := split_text printed ordinary
  rw [same, split_text other ordinary] at chunks
  exact (congrArg Chunk.source (List.singleton_inj.mp chunks)).symm

theorem isEnded_source (printed : ClassText) (name : Text) :
    Text.IsEnded (printed.source name) := by
  right
  rw [source, rows, List.flatMap_append, List.flatMap_singleton,
    List.getLast?_append]
  rfl

theorem isSeparate_text (printed : ClassText) (ordinary : name.IsOrdinary) :
    Chunk.IsSeparate (printed.text name.dotted) where
  ended := Chunk.isEnded_render (printed.isEnded_source name.dotted)
  whole := by
    have showable := printed.isShowable_chunk ordinary
    have closing : "\x7d\n".toList ∈ (printed.source name.dotted).lines := by
      simp [printed.lines_source ordinary]
    rw [text, showable.unifyLineEnds_render, showable.lines_render]
    constructor
    · rw [showable.cutLines_block fun _ => rfl]
    · exact showable.openAfter_block (fun _ => rfl) ⟨_, closing, by decide⟩

theorem words_declaration (ordinary : name.IsOrdinary) :
    (declaration name.dotted).words =
      ["public".toList, "class".toList, name.dotted, "\x7b".toList] := by
  have split : declaration name.dotted =
      "public".toList ++ ' ' ::
        ("class".toList ++ ' ' :: (name.dotted ++ ' ' :: "\x7b".toList)) := by
    rw [declaration, List.append_assoc]
    rfl
  rw [split, Text.words_append_blank (by decide), Text.words_append_blank (by decide),
    Text.words_append_blank (by decide), Text.words_of_unbroken
      (QualifiedName.dotted_ne_nil ordinary) (QualifiedName.unbroken_dotted ordinary)]
  rfl

theorem parse?_declaration (ordinary : name.IsOrdinary) :
    Declaration.parse? (declaration name.dotted) = some ⟨name.package, name.simple⟩ := by
  rw [Declaration.parse?_eq_some_iff, words_declaration ordinary]
  refine ⟨List.mem_cons_self, name.dotted, ?_, ?_, ordinary.simple.filled, ordinary.unbraced⟩
  · rw [List.find?_cons_of_neg (by decide), List.find?_cons_of_neg (by decide),
      List.find?_cons_of_pos (by rw [QualifiedName.not_isLeading_dotted ordinary]; rfl)]
  · have whole : name.dotted.takeWhile (· ≠ '<') = name.dotted := by
      rw [List.takeWhile_eq_self_iff]
      intro c member
      have other : c ≠ '<' := fun same =>
        QualifiedName.no_angle_dotted ordinary (same ▸ member)
      exact decide_eq_true other
    rw [whole, QualifiedName.ofQualified_dotted ordinary]

theorem firstLine?_source (printed : ClassText) (ordinary : name.IsOrdinary) :
    Text.firstLine? (printed.source name.dotted) = some (declaration name.dotted) := by
  rw [Text.firstLine?, printed.lines_source ordinary, List.cons_append, List.head?_cons,
    Option.map_some]
  exact congrArg some
    (Text.lineBody_append_feed (printed.areRows ordinary _ List.mem_cons_self).unreturned)

/-- The text of a class whose name is ordinary gives the entry of that name, unless the name is
that of an anonymous or generated class. -/
theorem parseAll_text (printed : ClassText) (ordinary : name.IsOrdinary) :
    Entry.parseAll (printed.text name.dotted) =
      if isSynthetic name.simple then [] else [name.entry (printed.source name.dotted)] := by
  have read : Entry.ofSource? (printed.source name.dotted) =
      if isSynthetic name.simple then none
      else some (name.entry (printed.source name.dotted)) := by
    simp only [Entry.ofSource?, firstLine?_source printed ordinary, parse?_declaration ordinary]
    rfl
  rw [Entry.parseAll, split_text printed ordinary, chunk, List.filterMap_cons, read]
  split_ifs <;> rfl

end ClassText

end ApiSurface
