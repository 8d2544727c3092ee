import ApiSurface.Proofs.Effect
import ApiSurface.Proofs.Files.Alteration
import ApiSurface.Proofs.Snapshot.Layout

/-! What reconciling may change.  A comparison creates the directories of packages and nothing
else, and to generate a snapshot is to write the files of entries besides. -/

namespace ApiSurface

namespace Snapshot

open ApiSurface.Path FileSystem ApiSurface.Action

variable {σ : Type} {relation : FileSystem → FileSystem → Prop}
  {written room : Bool → Location → Prop} {root directory : Path} {package : Text}
  {entries : List Entry}

theorem createDirectories_leaves
    (roomy : ∀ location ∈ trail [] directory.steps, room directory.isAbsolute location) :
    Leaves (Alters written room) (createDirectories directory : Action σ Unit) := by
  apply Leaves.createDirectories
  intro files
  exact (createDirectories_overlay files directory).alters (by simp) roomy

section

variable [Std.Refl relation] [IsTrans FileSystem relation]

theorem record_leaves (mismatch : Mismatch) :
    Leaves relation (record mismatch : Action σ Mismatch) :=
  (Leaves.note _).bind fun _ => (Leaves.write _).bind fun _ => .pure mismatch

theorem compareEntry_leaves (package directory : Text) (entry : Entry) :
    Leaves relation (compareEntry package directory entry : Action σ (Option Mismatch)) := by
  refine (Leaves.ask? _ _).bind fun existing => ?_
  cases existing with
  | none => exact (record_leaves _).bind fun _ => .pure _
  | some data =>
      dsimp only
      split_ifs
      · exact .pure none
      · exact (record_leaves _).bind fun _ => .pure _

theorem compareEntries_leaves (package directory : Text) (entries : List Entry) :
    Leaves relation (compareEntries package directory entries : Action σ (List Mismatch)) := by
  induction entries with
  | nil => exact .pure []
  | cons entry entries induction =>
      exact (compareEntry_leaves package directory entry).bind fun _ =>
        induction.bind fun _ => .pure _

theorem recordStale_leaves (directory : Path) (names : List Text) :
    Leaves relation (recordStale directory names : Action σ (List Mismatch)) := by
  induction names with
  | nil => exact .pure []
  | cons name names induction =>
      refine Leaves.get.bind fun state => ?_
      split_ifs
      · exact (record_leaves _).bind fun _ => induction.bind fun _ => .pure _
      · exact induction

theorem reconcileAll_leaves {mode : Mode} {groups : List (Text × List Entry)}
    (each : ∀ group ∈ groups,
      Leaves relation (reconcilePackage mode group.1 group.2 : Action σ (List Mismatch))) :
    Leaves relation (reconcileAll mode groups : Action σ (List Mismatch)) := by
  induction groups with
  | nil => exact .pure []
  | cons group groups induction =>
      obtain ⟨here, others⟩ := List.forall_mem_cons.mp each
      exact here.bind fun _ => (induction others).bind fun _ => .pure _

theorem comparePackage_leaves_created
    (creates : ∀ files : FileSystem, relation files (files.createDirectories directory).2) :
    Leaves relation (comparePackage package directory entries : Action σ (List Mismatch)) := by
  refine (Leaves.ask? _ _).bind fun listed => ?_
  refine (Leaves.createDirectories creates).bind fun _ => ?_
  refine (compareEntries_leaves package directory entries).bind fun found => ?_
  refine (recordStale_leaves directory _).bind fun stale => ?_
  exact (Leaves.note _).bind fun _ => .pure _

end

theorem comparePackage_leaves
    (roomy : ∀ location ∈ trail [] directory.steps, room directory.isAbsolute location) :
    Leaves (Alters written room)
      (comparePackage package directory entries : Action σ (List Mismatch)) :=
  comparePackage_leaves_created fun files =>
    (createDirectories_overlay files directory).alters (by simp) roomy

theorem generateEntry_leaves {entry : Entry}
    (permitted : written (isAbsolute (join directory entry.fileName))
      (reach [] (steps (join directory entry.fileName)))) :
    Leaves (Alters written room) (generateEntry directory entry : Action σ Unit) := by
  refine Leaves.writeFile fun files => ?_
  rcases write_cases files (join directory entry.fileName) (Utf8.encode entry.source) with
    ⟨fault, failed⟩ | ⟨location, after, located, -, overlay, ended⟩
  · rw [failed]
    exact Std.Refl.refl files
  obtain ⟨-, rfl, -⟩ := locate_eq_ok_iff.mp located
  rw [ended]
  refine overlay.alters (fun location covered => ?_) (fun _ => False.elim)
  obtain rfl : location = reach [] (steps (join directory entry.fileName)) := by
    simpa using covered
  exact permitted

theorem generatePackage_leaves
    (roomy : ∀ location ∈ trail [] directory.steps, room directory.isAbsolute location)
    (writable : ∀ entry ∈ entries, written (isAbsolute (join directory entry.fileName))
      (reach [] (steps (join directory entry.fileName)))) :
    Leaves (Alters written room) (generatePackage directory entries : Action σ Unit) :=
  (createDirectories_leaves roomy).bind fun _ =>
    (Leaves.forM fun entry member => generateEntry_leaves (writable entry member)).bind fun _ =>
      Leaves.note _

/-- However a comparison ends, every regular file is as it was, no directory is gone, and those
that are new are directories of packages or lie on the way there. -/
theorem compare_keeps_files (root : Path) (map : PackageMap) (before : RunState σ) :
    let after := ((reconcile (.compare root) map).final before).files
    (∀ side location data, after.kind? side location = some (.file data) ↔
      before.files.kind? side location = some (.file data)) ∧
    (∀ side location, before.files.kind? side location = some .directory →
      after.kind? side location = some .directory) ∧
    ∀ side location, after.kind? side location = some .directory →
      before.files.kind? side location ≠ some .directory →
      ∃ group ∈ map.packages, side = isAbsolute (packageDirectory root group.1) ∧
        ∃ ancestor, ancestor <+: steps (packageDirectory root group.1) ∧
          location = reach [] ancestor := by
  intro after
  have alters : Alters (fun _ _ => False)
      (fun side location => ∃ group ∈ map.packages,
        side = isAbsolute (packageDirectory root group.1) ∧
          location ∈ trail [] (steps (packageDirectory root group.1)))
      before.files after := by
    refine reconcileAll_leaves (fun group member => ?_) before
    exact comparePackage_leaves fun location along => ⟨group, member, rfl, along⟩
  refine ⟨fun side location => alters.file_iff id, fun side location => alters.directory, ?_⟩
  intro side location stands new
  rcases alters.of_directory stands with old | ⟨-, group, member, here, along⟩
  · exact absurd old new
  · exact ⟨group, member, here, mem_trail_iff_begins.mp along⟩

end Snapshot

end ApiSurface
