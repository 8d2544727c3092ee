import ApiSurface.Proofs.Snapshot.CompareRun
import ApiSurface.Proofs.Snapshot.Regular

/-! A comparison of regular entries that differ in their packages or names finds each mismatch
once. -/

namespace ApiSurface

namespace Snapshot

open ApiSurface.Path FileSystem PackageMap

variable {root : Path} {package : Text} {entry : Entry} {held current : List Entry}

theorem path_of_difference? {files : FileSystem} {mismatch : Mismatch}
    (differs : difference? files root entry = some mismatch) :
    mismatch.path = destination root entry := by
  unfold difference? at differs
  split at differs
  · exact Option.some.inj differs ▸ rfl
  · split_ifs at differs
    exact Option.some.inj differs ▸ rfl

theorem ne_staleAt_of_difference? {files : FileSystem} {mismatch : Mismatch} {directory : Path}
    {name : Text} (differs : difference? files root entry = some mismatch) :
    mismatch ≠ staleAt directory name := by
  rintro rfl
  unfold difference? staleAt at differs
  split at differs
  · cases differs
  · split_ifs at differs
    cases differs

theorem path_of_mem_packageMismatches {files : FileSystem} {mismatch : Mismatch}
    (isRoot : IsRoot root) (proper : files.IsProper) (group : IsGroup package held)
    (member : mismatch ∈ packageMismatches files root package held) :
    ∃ name, IsName name ∧ mismatch.path = join (packageDirectory root package) name := by
  rcases List.mem_append.mp member with differs | stale
  · obtain ⟨entry, inside, differs⟩ := List.mem_filterMap.mp differs
    refine ⟨entry.fileName, (group.plain entry inside).fileName, ?_⟩
    rw [path_of_difference? differs, destination, group.together entry inside]
  · obtain ⟨name, inside, rfl⟩ := List.mem_map.mp stale
    have filled := packageDirectory_ne_nil isRoot.filled group.clean
    have straight := isStraight_packageDirectory isRoot.straight group.clean
    have stale := areStale_staleNames proper filled straight held
    exact ⟨name, ((stale.mem_iff name).mp inside).1, rfl⟩

theorem nodup_packageMismatches {files : FileSystem} (isRoot : IsRoot root)
    (proper : files.IsProper) (group : IsGroup package held)
    (regular : ∀ entry ∈ held, entry.IsRegular) (distinct : (held.map Entry.key).Nodup) :
    (packageMismatches files root package held).Nodup := by
  have filled := packageDirectory_ne_nil isRoot.filled group.clean
  have stale := areStale_staleNames proper filled
    (isStraight_packageDirectory isRoot.straight group.clean) held
  have apart : held.Pairwise fun left right => destination root left ≠ destination root right := by
    refine (List.pairwise_map.mp distinct).imp_of_mem fun {left right} inside inside' differ => ?_
    rw [ne_eq, destination_eq_iff (group.plain left inside) (group.plain right inside'),
      target_eq_iff_key (regular left inside) (regular right inside')]
    exact differ
  refine List.nodup_append.mpr ⟨?_, ?_, ?_⟩
  · refine apart.filterMap _ fun left right differ found member found' member' => ?_
    rintro rfl
    exact differ ((path_of_difference? member).symm.trans (path_of_difference? member'))
  · refine List.Nodup.map_on (fun name member name' member' same => ?_) ?_
    · have isName := ((stale.mem_iff name).mp member).1
      have isName' := ((stale.mem_iff name').mp member').1
      exact (join_inj isName isName').mp (congrArg Mismatch.path same)
    · refine stale.ascend.imp fun less same => ?_
      exact lt_irrefl _ (Utf8.encode_lt_encode_iff.mp (same ▸ less))
  · intro mismatch differs other stale
    obtain ⟨entry, -, differs⟩ := List.mem_filterMap.mp differs
    obtain ⟨name, -, rfl⟩ := List.mem_map.mp stale
    exact ne_staleAt_of_difference? differs

theorem nodup_mapMismatches {files : FileSystem} (isRoot : IsRoot root)
    (proper : files.IsProper) (regular : ∀ entry ∈ current, entry.IsRegular)
    (distinct : (current.map Entry.key).Nodup) :
    (mapMismatches files root (ofEntries current)).Nodup := by
  have plain (entry : Entry) (member : entry ∈ current) := (regular entry member).isPlain
  have groups := groups_ofEntries current
  refine List.nodup_flatMap.mpr ⟨fun group grouped => ?_, ?_⟩
  · have regularHere (entry : Entry) (inside : entry ∈ group.2) :=
      regular entry ((mem_group_iff grouped).mp inside).1
    refine nodup_packageMismatches isRoot proper (isGroup_of_mem plain grouped) regularHere ?_
    rw [((groups.mem_iff group.1 group.2).mp grouped).1]
    exact distinct.sublist (List.filter_sublist.map Entry.key)
  · refine groups.ascends.imp_of_mem fun {left right} grouped grouped' less => ?_
    intro mismatch member member'
    have here := isGroup_of_mem plain grouped
    have there := isGroup_of_mem plain grouped'
    obtain ⟨name, isName, path⟩ := path_of_mem_packageMismatches isRoot proper here member
    obtain ⟨name', isName', path'⟩ := path_of_mem_packageMismatches isRoot proper there member'
    have same := congrArg names (path.symm.trans path')
    rw [names_join _ isName, names_join _ isName', names_packageDirectory root here.clean,
      names_packageDirectory root there.clean] at same
    obtain ⟨first, inside⟩ := inhabited_group grouped
    obtain ⟨second, inside'⟩ := inhabited_group grouped'
    obtain ⟨present, package⟩ := (mem_group_iff grouped).mp inside
    obtain ⟨present', package'⟩ := (mem_group_iff grouped').mp inside'
    have together : segments first.package = segments second.package := by
      rw [package, package']
      exact List.append_cancel_left (List.append_inj_left' same rfl)
    rw [segments_eq_iff (regular first present) (regular second present'), package, package']
      at together
    exact lt_irrefl _ (together ▸ less)

end Snapshot

end ApiSurface
