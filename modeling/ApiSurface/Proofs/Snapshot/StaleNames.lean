import ApiSurface.Proofs.Snapshot.Comparison
import Mathlib.Data.List.Sort

/-! The source files in the directory of a package that no entry of it claims. -/

namespace ApiSurface

namespace Snapshot

open ApiSurface.Path

variable {files : FileSystem} {directory : Path} {entries : List Entry} {names : List Text}

def staleNames (files : FileSystem) (directory : Path) (entries : List Entry) : List Text :=
  sourceNames files directory (unclaimed entries ((files.list directory).toOption.getD []))

/-- What the stale names are, whatever the directory is listed like: the names of regular files
that end like source files and that no entry has, each once and in the order of their bytes. -/
structure AreStale (files : FileSystem) (directory : Path) (entries : List Entry)
    (names : List Text) : Prop where
  ascend : names.Pairwise fun left right => Utf8.encode left < Utf8.encode right
  mem_iff : ∀ name, name ∈ names ↔
    IsName name ∧ (".java".toList <:+ name ∨ ".kt".toList <:+ name) ∧
      files.HoldsFile directory name ∧ ∀ entry ∈ entries, entry.fileName ≠ name

theorem AreStale.unique {others : List Text} (stale : AreStale files directory entries names)
    (stale' : AreStale files directory entries others) : names = others := by
  have first := stale.ascend.imp Utf8.encode_lt_encode_iff.mp
  have second := stale'.ascend.imp Utf8.encode_lt_encode_iff.mp
  exact first.eq_of_mem_iff second
    fun name => (stale.mem_iff name).trans (stale'.mem_iff name).symm

theorem AreStale.congr {later : FileSystem} (stale : AreStale files directory entries names)
    (same : ∀ name, IsName name →
      (later.HoldsFile directory name ↔ files.HoldsFile directory name)) :
    AreStale later directory entries names where
  ascend := stale.ascend
  mem_iff := by
    intro name
    rw [stale.mem_iff]
    refine and_congr_right fun isName => ?_
    rw [same name isName]

theorem isSourceName_iff {name : Text} :
    isSourceName name = true ↔ ".java".toList <:+ name ∨ ".kt".toList <:+ name := by
  simp [isSourceName, sourceEndings, Text.endsWith]

theorem mem_sourceNames_unclaimed {name : Text} :
    name ∈ sourceNames files directory (unclaimed entries names) ↔
      name ∈ names ∧ (".java".toList <:+ name ∨ ".kt".toList <:+ name) ∧
        files.isFile (join directory name) = true ∧
        ∀ entry ∈ entries, entry.fileName ≠ name := by
  simp only [sourceNames, unclaimed, List.mem_filter, Bool.and_eq_true, isSourceName_iff]
  simp
  tauto

theorem areStale_staleNames (proper : files.IsProper) (filled : directory ≠ [])
    (straight : directory.IsStraight) (entries : List Entry) :
    AreStale files directory entries (staleNames files directory entries) where
  ascend := by
    have ascends : ((files.list directory).toOption.getD []).Pairwise (· < ·) := by
      cases listed : files.list directory with
      | error fault => exact .nil
      | ok names =>
          obtain ⟨_, -, -, ascending, -⟩ := FileSystem.list_eq_ok listed
          exact ascending
    exact ((ascends.filter _).filter _).imp Utf8.encode_lt_encode_iff.mpr
  mem_iff := by
    intro name
    rw [staleNames, mem_sourceNames_unclaimed]
    constructor
    · rintro ⟨inside, source, isFile, free⟩
      cases listed : files.list directory with
      | error fault => simp [listed, Except.toOption] at inside
      | ok names =>
          obtain ⟨location, -, -, -, mem_iff⟩ := FileSystem.list_eq_ok listed
          have member : name ∈ names := by simpa [listed, Except.toOption] using inside
          have isName : IsName name := proper _ _ ((mem_iff name).mp member) name (by simp)
          have holds := (FileSystem.isFile_join_iff filled straight isName).mp isFile
          exact ⟨isName, source, holds, free⟩
    · rintro ⟨isName, source, holds, free⟩
      have isFile := (FileSystem.isFile_join_iff filled straight isName).mpr holds
      obtain ⟨data, held⟩ := FileSystem.isFile_iff.mp isFile
      obtain ⟨names, listed, member⟩ := FileSystem.mem_list_of_file filled isName held
      exact ⟨by simpa [listed, Except.toOption] using member, source, isFile, free⟩

theorem staleNames_eq_nil_iff (proper : files.IsProper) (filled : directory ≠ [])
    (straight : directory.IsStraight) :
    staleNames files directory entries = [] ↔
      ∀ name, IsName name → (".java".toList <:+ name ∨ ".kt".toList <:+ name) →
        files.HoldsFile directory name → ∃ entry ∈ entries, entry.fileName = name := by
  rw [List.eq_nil_iff_forall_not_mem]
  simp only [(areStale_staleNames proper filled straight entries).mem_iff]
  refine forall_congr' fun name => ?_
  constructor
  · intro none isName source holds
    by_contra unclaimed
    push Not at unclaimed
    exact none ⟨isName, source, holds, unclaimed⟩
  · rintro claimed ⟨isName, source, holds, unclaimed⟩
    obtain ⟨entry, member, same⟩ := claimed isName source holds
    exact unclaimed entry member same

end Snapshot

end ApiSurface
