import ApiSurface.Proofs.Snapshot.CompareRun
import Mathlib

namespace ApiSurface

namespace Snapshot

open ApiSurface.Path PackageMap

variable {σ : Type} {before after : RunState σ} {root : Path} {entries : List Entry}
  {mismatches : List Mismatch}

/-- A comparison that goes through finds, package by package and in the order of their bytes, each
entry that has no file or differs from it and then each stale name, all as the files were
beforehand. -/
theorem reconcile_compare_exact (plain : ∀ entry ∈ entries, entry.IsPlain)
    (filled : root ≠ []) (straight : root.IsStraight) (proper : before.files.IsProper)
    (ran : reconcile (.compare root) (ofEntries entries) before = .ok mismatches after) :
    let packages := (ofEntries entries).packages
    (packages.Pairwise fun left right => Utf8.encode left.1 < Utf8.encode right.1) ∧
      (∀ package held, (package, held) ∈ packages ↔
        held = entries.filter (·.package = package) ∧ held ≠ []) ∧
      (∀ group ∈ packages,
        (∀ entry ∈ group.2,
          before.files.node (destination root entry) = .error .absent ∨
            ∃ data, before.files.node (destination root entry) = .ok (.file data)) ∧
          AreStale before.files (packageDirectory root group.1) group.2
            (staleNames before.files (packageDirectory root group.1) group.2)) ∧
      mismatches = (packages.flatMap fun group =>
        group.2.filterMap (difference? before.files root) ++
          (staleNames before.files (packageDirectory root group.1) group.2).map fun name =>
            .stale (join (packageDirectory root group.1) name)) ∧
      after.report = before.report ++ mismatches.flatMap fun mismatch =>
        mismatch.render ++ ['\n'] := by
  have grouped := fun group => @isGroup_of_mem entries plain group
  obtain ⟨exact, answered, reported⟩ := reconcileAll_compare_inversion ⟨filled, straight⟩
    grouped proper (.refl before.files) ran
  have groups := groups_ofEntries entries
  refine ⟨groups.ascends.imp Utf8.encode_lt_encode_iff.mpr, groups.mem_iff, ?_, exact, reported⟩
  intro group member
  have clean := (grouped group member).clean
  exact ⟨answered group member, areStale_staleNames proper (packageDirectory_ne_nil filled clean)
    (isStraight_packageDirectory straight clean) group.2⟩

def sampleEntries : List Entry :=
  [⟨"p".toList, "C.java".toList, "new\n".toList⟩, ⟨[], "A.java".toList, "a\n".toList⟩]

def sampleFiles : FileSystem :=
  (FileSystem.plant (FileSystem.plant {} "s/B.kt".toList (Utf8.encode "b\n".toList)).2
    "s/p/C.java".toList (Utf8.encode "old\n".toList)).2

theorem reconcile_compare_exact_sample :
    ∃ mismatches after,
      reconcile (.compare "s".toList) (ofEntries sampleEntries) ⟨sampleFiles, [], [], ()⟩ =
          .ok mismatches after ∧
        mismatches =
          [.missing [] "A.java".toList "s/A.java".toList, .stale "s/B.kt".toList,
            .content "s/p/C.java".toList "new\n".toList "old\n".toList] := by
  have plain : ∀ entry ∈ sampleEntries, entry.IsPlain := by decide
  have isRoot : IsRoot "s".toList := ⟨by decide, by decide⟩
  have proper : sampleFiles.IsProper := (FileSystem.isProper_empty.plant _ _).plant _ _
  have standing : ∀ group ∈ (ofEntries sampleEntries).packages,
      sampleFiles.locate (packageDirectory "s".toList group.1) =
          .ok (names (packageDirectory "s".toList group.1)) ∧
        sampleFiles.kind? (isAbsolute "s".toList)
            (names (packageDirectory "s".toList group.1)) = some .directory ∧
          ∀ entry ∈ group.2, sampleFiles.Admits (destination "s".toList entry) ∧
            sampleFiles.kind? (isAbsolute "s".toList) (target "s".toList entry) ≠
              some .directory := by
    decide
  have isOpen (group) (member : group ∈ (ofEntries sampleEntries).packages) :
      IsOpen sampleFiles "s".toList group.1 group.2 := by
    obtain ⟨located, stands, held⟩ := standing group member
    exact IsHome.isOpen ⟨located, stands⟩ isRoot (isGroup_of_mem plain member).clean
      (fun entry found => (held entry found).1) (fun entry found => (held entry found).2)
  obtain ⟨mismatches, after, ran⟩ := @reconcileAll_compare_succeeds _
    ⟨sampleFiles, [], [], ()⟩ _ _ isRoot (fun _ => isGroup_of_mem plain) isOpen proper
  refine ⟨mismatches, after, ran, ?_⟩
  have exact := reconcile_compare_exact plain isRoot.filled isRoot.straight proper ran
  rw [exact.2.2.2.1]
  cbv

end Snapshot

end ApiSurface
