import ApiSurface.Proofs.Disassembly.Naming
import ApiSurface.Proofs.Snapshot.Alteration
import ApiSurface.Proofs.Snapshot.Grouping

/-! Whether a snapshot stays beneath its root.  The names of entries are read from any text and may
hold slashes.  None of their parts leads upwards, but one that begins with a slash makes the path
start over at the top. -/

namespace ApiSurface

open ApiSurface.Path

def Entry.parts (entry : Entry) : List Path :=
  Snapshot.segments entry.package ++ [entry.fileName]

def Entry.IsRelative (entry : Entry) : Prop :=
  ∀ part ∈ entry.parts, isAbsolute part = false

instance (entry : Entry) : Decidable entry.IsRelative :=
  inferInstanceAs (Decidable (∀ part ∈ entry.parts, isAbsolute part = false))

namespace Path

def Descends (steps : List Step) : Prop :=
  ∀ step ∈ steps, ∃ name, step = .into name

/-- A path that goes on from a root by at least one name. -/
structure LeadsBeneath (root path : Path) : Prop where
  top : isAbsolute path = isAbsolute root
  descends : ∃ names : List Text, names ≠ [] ∧ steps path = steps root ++ names.map .into

theorem Descends.exists_names {steps : List Step} (descends : Descends steps) :
    ∃ names : List Text, steps = names.map .into := by
  induction steps with
  | nil => exact ⟨[], rfl⟩
  | cons step steps induction =>
      obtain ⟨⟨name, rfl⟩, others⟩ := List.forall_mem_cons.mp descends
      obtain ⟨names, rfl⟩ := induction others
      exact ⟨name :: names, rfl⟩

theorem descends_of_undotted {part : Path} (undotted : '.' ∉ part) : Descends (steps part) := by
  intro step member
  obtain ⟨piece, split, rfl⟩ := List.mem_map.mp member
  have inside := (Text.mem_splitOn (List.mem_filter.mp split).1).2
  refine ⟨piece, ?_⟩
  rw [Step.ofPart, if_neg, if_neg]
  · rintro rfl
    exact undotted (inside '.' (by decide))
  · rintro rfl
    exact undotted (inside '.' (by decide))

theorem descends_fileName {simple : Text} (undotted : '.' ∉ simple) :
    Descends (steps (simple ++ ".java".toList)) ∧ steps (simple ++ ".java".toList) ≠ [] := by
  have alone (name : Text) (inside : '/' ∉ name) :
      steps (name ++ ".java".toList) = [.into (name ++ ".java".toList)] := by
    have long : 2 < (name ++ ".java".toList).length := by
      rw [List.length_append]
      exact Nat.lt_add_left _ (by decide)
    rw [steps_of_part (List.append_ne_nil_of_right_ne_nil _ (by decide))
      (by simpa using inside), Step.ofPart, if_neg, if_neg]
    · intro up
      rw [up] at long
      exact absurd long (by decide)
    · intro stay
      rw [stay] at long
      exact absurd long (by decide)
  cases cut : Text.cutLast '/' simple with
  | none =>
      rw [alone simple (Text.cutLast_eq_none_iff.mp cut)]
      simp [Descends]
  | some parts =>
      obtain ⟨before, name⟩ := parts
      obtain ⟨rfl, inside⟩ := Text.cutLast_eq_some_iff.mp cut
      obtain ⟨undottedBefore, -⟩ := not_or.mp (mt List.mem_append.mpr undotted)
      rw [List.append_assoc, List.cons_append, steps_append_slash, alone name inside]
      refine ⟨List.forall_mem_append.mpr ⟨descends_of_undotted undottedBefore, ?_⟩, by simp⟩
      simp

end Path

namespace Snapshot

open FileSystem PackageMap ApiSurface.Action

variable {σ : Type} {raw : Text} {root : Path} {entry : Entry} {location : Location}

theorem destination_eq_foldl (root : Path) (entry : Entry) :
    destination root entry = entry.parts.foldl join root := by
  rw [Entry.parts, List.foldl_concat]
  rfl

theorem descends_segments (package : Text) : Descends ((segments package).flatMap steps) := by
  intro step member
  obtain ⟨segment, inside, along⟩ := List.mem_flatMap.mp member
  exact descends_of_undotted (Text.mem_splitOn (List.mem_filter.mp inside).1).1 step along

theorem leadsBeneath_destination (member : entry ∈ Entry.parseAll raw)
    (relative : entry.IsRelative) (root : Path) :
    LeadsBeneath root (destination root entry) := by
  obtain ⟨simple, -, undotted, named⟩ := Entry.fileName_of_parseAll member
  obtain ⟨descends, moves⟩ := descends_fileName undotted
  rw [← named] at descends moves
  obtain ⟨goesOn, top⟩ := steps_foldl_join relative root
  rw [← destination_eq_foldl] at goesOn top
  have whole : Descends (entry.parts.flatMap steps) := by
    rw [Entry.parts, List.flatMap_append, List.flatMap_singleton]
    exact List.forall_mem_append.mpr ⟨descends_segments entry.package, descends⟩
  obtain ⟨names, split⟩ := whole.exists_names
  refine ⟨top, names, ?_, split ▸ goesOn⟩
  rintro rfl
  simp [Entry.parts, moves] at split

theorem destination_of_not_relative (elsewhere : ¬ entry.IsRelative) (root other : Path) :
    isAbsolute (destination root entry) = true ∧
      destination root entry = destination other entry := by
  have absolute : ∃ part ∈ entry.parts, isAbsolute part = true := by
    simpa [Entry.IsRelative] using elsewhere
  rw [destination_eq_foldl, destination_eq_foldl]
  exact foldl_join_of_absolute absolute root other

def Beneath (root : Path) (location : Location) : Prop :=
  ∃ names, names ≠ [] ∧ location = reach [] root.steps ++ names

theorem beneath_reach {path : Path} (leads : LeadsBeneath root path) :
    Beneath root (reach [] path.steps) := by
  obtain ⟨names, filled, goesOn⟩ := leads.descends
  refine ⟨names, filled, ?_⟩
  rw [goesOn, reach_append, reach_of_straight (by simp)]
  simp [Step.name?, List.filterMap_map, Function.comp_def]

theorem along_of_descends {further : List Step} (descends : Descends further)
    (along : location ∈ trail [] (steps root ++ further)) :
    location ∈ trail [] root.steps ∨ Beneath root location := by
  obtain ⟨part, begins, rfl⟩ := mem_trail_iff_begins.mp along
  rcases List.prefix_or_prefix_of_prefix begins (List.prefix_append _ _) with above | below
  · exact .inl (mem_trail_iff_begins.mpr ⟨part, above, rfl⟩)
  · obtain ⟨rest, rfl⟩ := below
    have inside := ((List.prefix_append_right_inj _).mp begins).subset
    have straight : Step.up ∉ rest := by
      intro member
      obtain ⟨name, same⟩ := descends _ (inside member)
      cases same
    rw [reach_append, reach_of_straight straight]
    by_cases stays : rest.filterMap Step.name? = []
    · rw [stays, List.append_nil]
      exact .inl (reach_mem_trail _ _)
    · exact .inr ⟨_, stays, rfl⟩

theorem packageDirectory_of_relative (relative : entry.IsRelative) (root : Path) :
    steps (packageDirectory root entry.package) =
        steps root ++ (segments entry.package).flatMap steps ∧
      isAbsolute (packageDirectory root entry.package) = isAbsolute root :=
  steps_foldl_join (List.forall_mem_append.mp relative).1 root

theorem along_packageDirectory (relative : entry.IsRelative)
    (along : location ∈ trail [] (steps (packageDirectory root entry.package))) :
    location ∈ trail [] root.steps ∨ Beneath root location := by
  rw [(packageDirectory_of_relative relative root).1] at along
  exact along_of_descends (descends_segments entry.package) along

theorem reconcile_leaves_confined (relative : ∀ entry ∈ Entry.parseAll raw, entry.IsRelative)
    {mode : Mode} (there : mode = .generate root ∨ mode = .compare root) :
    Leaves (Alters (fun side location => side = root.isAbsolute ∧ Beneath root location)
        (fun side location => side = root.isAbsolute ∧
          (location ∈ trail [] root.steps ∨ Beneath root location)))
      (reconcile mode (ofEntries (Entry.parseAll raw)) : Action σ (List Mismatch)) := by
  refine reconcileAll_leaves fun group grouped => ?_
  obtain ⟨first, inside⟩ := inhabited_group grouped
  obtain ⟨member, same⟩ := (mem_group_iff grouped).mp inside
  have roomy : ∀ location ∈ trail [] (steps (packageDirectory root group.1)),
      isAbsolute (packageDirectory root group.1) = root.isAbsolute ∧
        (location ∈ trail [] root.steps ∨ Beneath root location) := by
    intro location along
    rw [← same] at along ⊢
    exact ⟨(packageDirectory_of_relative (relative first member) root).2,
      along_packageDirectory (relative first member) along⟩
  rcases there with rfl | rfl
  · refine (generatePackage_leaves roomy fun entry inside => ?_).bind fun _ => .pure []
    obtain ⟨member, same⟩ := (mem_group_iff grouped).mp inside
    have leads := leadsBeneath_destination member (relative entry member) root
    rw [destination, same] at leads
    exact ⟨leads.top, beneath_reach leads⟩
  · exact comparePackage_leaves roomy

/-- Entries read from any text lead strictly beneath the root, and so do the reads of their files,
but for those with an absolute part, which lead to the same place whatever the root.  Without these
a run changes files beneath the root only, and creates directories only there and on the way. -/
theorem confined_unless_absolute (raw : Text) (root : Path) (before : RunState σ) :
    (∀ entry ∈ Entry.parseAll raw,
      if entry.IsRelative then
        LeadsBeneath root (destination root entry) ∧
          ∀ (files : FileSystem) location,
            files.locate (destination root entry) = .ok location → Beneath root location
      else ∀ other, isAbsolute (destination root entry) = true ∧
        destination root entry = destination other entry) ∧
    ((∀ entry ∈ Entry.parseAll raw, entry.IsRelative) →
      ∀ mode, mode = .generate root ∨ mode = .compare root →
        let after := ((reconcile mode (ofEntries (Entry.parseAll raw))).final before).files
        ∀ side location, after.kind? side location ≠ before.files.kind? side location →
          side = root.isAbsolute ∧
            (Beneath root location ∨
              location ∈ trail [] root.steps ∧
                before.files.kind? side location = none ∧
                after.kind? side location = some .directory)) := by
  constructor
  · intro entry member
    split_ifs with relative
    · have leads := leadsBeneath_destination member relative root
      refine ⟨leads, fun files location located => ?_⟩
      obtain ⟨-, rfl, -⟩ := locate_eq_ok_iff.mp located
      exact beneath_reach leads
    · exact destination_of_not_relative relative root
  · intro relative mode there after side location changed
    have change := reconcile_leaves_confined relative there before side location
    change Node.Change _ _ _ (after.kind? side location) at change
    generalize before.files.kind? side location = first at change changed ⊢
    generalize after.kind? side location = second at change changed ⊢
    cases change with
    | kept => exact absurd rfl changed
    | created roomy => exact ⟨roomy.1, roomy.2.symm.imp_right fun along => ⟨along, rfl, rfl⟩⟩
    | stored permitted => exact ⟨permitted.1, .inl permitted.2⟩

theorem absolute_name_escapes :
    let raw := "public class /b/C \x7b\n\x7d\n".toList
    let entry : Entry := ⟨[], "/b/C.java".toList, raw⟩
    let before : RunState Unit :=
      ⟨(FileSystem.plant {} "/b/kept".toList []).2, [], [], ()⟩
    let run := reconcile (.generate "out".toList) (ofEntries (Entry.parseAll raw))
    Entry.parseAll raw = [entry] ∧
      ¬ LeadsBeneath "out".toList (destination "out".toList entry) ∧
      before.files.kind? true ["b".toList, "C.java".toList] = none ∧
      (run.final before).files.kind? true ["b".toList, "C.java".toList] =
        some (.file ⟨Utf8.encode raw, false⟩) := by
  intro raw entry before run
  refine ⟨by decide, fun leads => ?_, by decide, by decide +kernel⟩
  exact absurd leads.top (by decide)

end Snapshot

end ApiSurface
