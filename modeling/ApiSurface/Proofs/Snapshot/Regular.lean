import ApiSurface.Proofs.Snapshot.Layout

/-! Entries as libraries have them.  No two of them with different packages or names share a
file. -/

namespace ApiSurface

open ApiSurface.Path

namespace Entry

variable {entry other : Entry}

def key (entry : Entry) : Text × Text :=
  (entry.package, entry.fileName)

/-- The package of a regular entry is empty or has no empty segments, and its file has the name of
a class. -/
structure IsRegular (entry : Entry) : Prop where
  package : Text.IsClean entry.package
  segmented : entry.package = [] ∨ ∀ segment ∈ entry.package.splitOn '.', segment ≠ []
  named : ∃ simple, simple ≠ [] ∧ '.' ∉ simple ∧ Text.IsClean simple ∧
    entry.fileName = simple ++ ".java".toList

theorem IsRegular.ending (regular : entry.IsRegular) : ".java".toList <:+ entry.fileName := by
  obtain ⟨simple, -, -, -, same⟩ := regular.named
  exact ⟨simple, same.symm⟩

theorem isPlain_of_ending (package : Text.IsClean entry.package)
    (clean : Text.IsClean entry.fileName) (ending : ".java".toList <:+ entry.fileName) :
    entry.IsPlain := by
  have long : 2 < entry.fileName.length := ending.length_le.trans_lt' (by decide)
  have dotted : '.' ∈ entry.fileName := ending.subset (by decide)
  refine ⟨package, ?_, dotted⟩
  exact {
    ne_nil := List.ne_nil_of_mem dotted
    no_slash := clean.no_slash
    no_terminator := clean.no_terminator
    ne_stay := fun stay => absurd long (by rw [stay]; decide)
    ne_up := fun up => absurd long (by rw [up]; decide) }

theorem IsRegular.isPlain (regular : entry.IsRegular) : entry.IsPlain := by
  obtain ⟨simple, -, -, clean, same⟩ := regular.named
  refine isPlain_of_ending regular.package ?_ regular.ending
  constructor
  · rw [same, List.mem_append, not_or]
    exact ⟨clean.no_slash, by decide⟩
  · rw [same, List.mem_append, not_or]
    exact ⟨clean.no_terminator, by decide⟩

end Entry

namespace Snapshot

variable {root : Path} {entry other : Entry}

private theorem segments_of_segmented {package : Text}
    (segmented : package = [] ∨ ∀ segment ∈ package.splitOn '.', segment ≠ []) :
    ['.'].intercalate (segments package) = package := by
  rcases segmented with rfl | whole
  · rfl
  · have kept : segments package = package.splitOn '.' :=
      List.filter_eq_self.mpr fun segment member => by simpa using whole segment member
    rw [kept, List.intercalate_splitOn]

theorem segments_eq_iff (regular : entry.IsRegular) (regular' : other.IsRegular) :
    segments entry.package = segments other.package ↔ entry.package = other.package := by
  refine ⟨fun same => ?_, congrArg segments⟩
  rw [← segments_of_segmented regular.segmented, same, segments_of_segmented regular'.segmented]

theorem segments_eq_nil_iff (regular : entry.IsRegular) :
    segments entry.package = [] ↔ entry.package = [] := by
  refine ⟨fun bare => ?_, fun bare => by rw [bare]; rfl⟩
  rw [← segments_of_segmented regular.segmented, bare]
  rfl

theorem target_eq_iff_key (regular : entry.IsRegular) (regular' : other.IsRegular) :
    target root entry = target root other ↔ entry.key = other.key := by
  rw [target_eq_iff, segments_eq_iff regular regular', Entry.key, Entry.key, Prod.mk.injEq]

end Snapshot

end ApiSurface
