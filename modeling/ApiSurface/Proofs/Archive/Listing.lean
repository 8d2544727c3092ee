import ApiSurface.Proofs.Archive.QualifiedName
import ApiSurface.Proofs.Run.Library

/-! The classes of an archive, as listed from it.  No class is left out, none is listed twice, and
none takes the name of another. -/

namespace ApiSurface

namespace Archive

variable {archive : Archive} {name stem other : Text} {names : List Text}

/-- Why a member cannot be opened, if it cannot. -/
def Member.fault? (member : Member) : Option Fault :=
  match member.access with
  | .ok _ => none
  | .error fault => some fault

/-- A text whose dots and backslashes are not to be confused with its slashes. -/
def IsSlashed (stem : Text) : Prop :=
  '.' ∉ stem ∧ '\\' ∉ stem

theorem fault?_eq_some_iff {member : Member} {fault : Fault} :
    member.fault? = some fault ↔ member.access = .error fault := by
  rw [Member.fault?]
  cases member.access <;> simp

theorem classNames_eq (archive : Archive) :
    archive.classNames =
      match archive.findSome? Member.fault? with
      | some fault => .error fault
      | none => .ok archive.classList := by
  induction archive with
  | nil => rfl
  | cons member archive induction =>
      rw [classNames, List.findSome?_cons, Member.fault?, classList_cons, induction]
      cases member.access with
      | error fault => rfl
      | ok stored => cases archive.findSome? Member.fault? <;> rfl

theorem classNames_eq_error_iff {fault : Fault} :
    archive.classNames = .error fault ↔ archive.findSome? Member.fault? = some fault := by
  rw [classNames_eq]
  cases archive.findSome? Member.fault? <;> simp

theorem classNames_of_accessible
    (accessible : ∀ member ∈ archive, ∃ stored, member.access = .ok stored) :
    archive.classNames = .ok archive.classList := by
  have none : archive.findSome? Member.fault? = none := by
    refine List.findSome?_eq_none_iff.mpr fun member inside => ?_
    obtain ⟨stored, opened⟩ := accessible member inside
    rw [Member.fault?, opened]
  rw [classNames_eq, none]

theorem classList_of_classNames (listed : archive.classNames = .ok names) :
    names = archive.classList := by
  rw [classNames_eq] at listed
  split at listed
  · cases listed
  · exact (Except.ok.inj listed).symm

theorem exists_stems (archive : Archive) :
    ∃ stems : List Text,
      (archive.map Member.name).filter (fun name => classEnding <:+ name) =
        stems.map (· ++ classEnding) ∧
      archive.classList = stems.map withDots := by
  induction archive with
  | nil => exact ⟨[], rfl, rfl⟩
  | cons member archive induction =>
      obtain ⟨stems, held, listed⟩ := induction
      rw [List.map_cons, List.filter_cons, classList_cons, held, listed]
      by_cases ends : classEnding <:+ member.name
      · obtain ⟨stem, same⟩ := ends
        refine ⟨stem :: stems, ?_, ?_⟩
        · rw [← same, if_pos (by simp)]
          rfl
        · rw [← same, className?_append_classEnding]
          rfl
      · refine ⟨stems, if_neg (by simpa using ends), ?_⟩
        rw [className?_eq_none ends]
        rfl

theorem withSlashes_withDots (slashed : IsSlashed stem) :
    ((withDots stem).map fun c => if c = '.' then '/' else c) = stem := by
  obtain ⟨undotted, forward⟩ := slashed
  rw [withDots, List.map_map]
  refine (List.map_congr_left fun c member => ?_).trans (List.map_id stem)
  have notDot : c ≠ '.' := fun same => undotted (same ▸ member)
  have notBackslash : c ≠ '\\' := fun same => forward (same ▸ member)
  by_cases slash : c = '/' <;> simp [slash, notDot, notBackslash]

theorem withDots_inj (slashed : IsSlashed stem) (slashed' : IsSlashed other) :
    withDots stem = withDots other ↔ stem = other := by
  refine ⟨fun same => ?_, congrArg withDots⟩
  rw [← withSlashes_withDots slashed, same, withSlashes_withDots slashed']

example : withDots "a/B.C".toList = withDots "a/B/C".toList := by decide

theorem nodup_classes {stems : List Text} (slashed : ∀ stem ∈ stems, IsSlashed stem)
    (distinct : (stems.map (· ++ classEnding)).Nodup) : (stems.map withDots).Nodup := by
  refine (List.Nodup.of_map _ distinct).map_on fun stem member stem' member' same => ?_
  exact (withDots_inj (slashed stem member) (slashed stem' member')).mp same

end Archive

namespace Library

open ApiSurface.Action

variable {σ : Type} [Archive.Reader]

/-- The file at a path is read as an archive. -/
def Presents (files : FileSystem) (jar : Path) (archive : Archive) : Prop :=
  ∃ data, files.file jar = .ok data ∧ Archive.read? data.content = some archive

theorem listClasses_of_presents {state : RunState σ} {jar : Path} {archive : Archive}
    (presented : Presents state.files jar archive) :
    (listClasses jar).answer state = archive.classNames.mapError .inaccessibleMember := by
  obtain ⟨data, held, readable⟩ := presented
  rw [Action.answer, listClasses_of_file held, readable]
  dsimp only
  cases archive.classNames <;> rfl

/-- Listing the classes of an archive fails if and only if a member cannot be opened, whether it
holds a class or not.  Otherwise each member with the name of a class is listed, in the order of
the archive and without that ending, with dots for its slashes.  Where a name has no dots of its
own, they stand for nothing else. -/
theorem classes_listed_once (archive : Archive) :
    ((∃ fault, archive.classNames = .error fault) ↔
      ∃ member ∈ archive, ∃ fault, member.access = .error fault) ∧
    (∀ names, archive.classNames = .ok names → ∃ stems : List Text,
      (archive.map Archive.Member.name).filter (fun name => Archive.classEnding <:+ name) =
        stems.map (· ++ Archive.classEnding) ∧
      names = stems.map Archive.withDots ∧
      ((∀ stem ∈ stems, Archive.IsSlashed stem) → (archive.map Archive.Member.name).Nodup →
        names.Nodup)) ∧
    (∀ stem other, Archive.IsSlashed stem → Archive.IsSlashed other →
      (Archive.withDots stem = Archive.withDots other ↔
        stem ++ Archive.classEnding = other ++ Archive.classEnding)) ∧
    ∀ (state : RunState σ) jar, Presents state.files jar archive →
      (listClasses jar).answer state = archive.classNames.mapError .inaccessibleMember ∧
        (listClasses jar).final state = state := by
  refine ⟨?_, fun names listed => ?_, fun stem other slashed slashed' => ?_,
    fun state jar presented => ⟨listClasses_of_presents presented, final_listClasses jar state⟩⟩
  · simp only [Archive.classNames_eq_error_iff, ← Archive.fault?_eq_some_iff,
      ← Option.isSome_iff_exists, List.findSome?_isSome_iff]
  · obtain ⟨stems, held, classes⟩ := archive.exists_stems
    rw [Archive.classList_of_classNames listed, classes]
    refine ⟨stems, held, rfl, fun slashed distinct => ?_⟩
    exact Archive.nodup_classes slashed (held ▸ distinct.filter _)
  · rw [Archive.withDots_inj slashed slashed', List.append_left_inj]

example :
    let member (name : String) : Archive.Member := ⟨name.toList, .ok ⟨[], false, 0⟩⟩
    Archive.classNames
        ([".class", "a.class/b.class.class", "A.class/", "p\\q/É.class"].map member) =
      .ok (["", "a.class.b.class", "p.q.É"].map String.toList) := rfl

end Library

end ApiSurface
