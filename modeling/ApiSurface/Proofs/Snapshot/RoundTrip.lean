import ApiSurface.Proofs.Snapshot.CompareRun
import ApiSurface.Proofs.Snapshot.Generation
import ApiSurface.Proofs.Snapshot.Vacancy
import Mathlib

namespace ApiSurface

def Mismatch.isContent : Mismatch → Bool
  | .content _ _ _ => true
  | _ => false

namespace Snapshot

open ApiSurface.Path FileSystem PackageMap

variable {σ : Type} {before middle state after : RunState σ} {root : Path} {package : Text}
  {entry : Entry} {entries : List Entry} {groups : List (Text × List Entry)}

/-- The last of the entries that share a file with `entry`. -/
def lastAt (root : Path) (entries : List Entry) (entry : Entry) : Option Entry :=
  (entries.filter fun other => destination root other = destination root entry).getLast?

/-- The mismatch of an entry whose file holds another source. -/
def overwritten? (root : Path) (entries : List Entry) (entry : Entry) : Option Mismatch :=
  (lastAt root entries entry).bind fun last =>
    if last.source = entry.source then none
    else some (.content (destination root entry) entry.source last.source)

theorem lastAt_eq_none_iff : lastAt root entries entry = none ↔
    ∀ other ∈ entries, destination root other ≠ destination root entry := by
  simp [lastAt]

theorem mem_of_lastAt {last : Entry} (found : lastAt root entries entry = some last) :
    last ∈ entries ∧ destination root last = destination root entry := by
  simpa using List.mem_filter.mp (List.mem_of_getLast? found)

theorem lastAt_congr {other : Entry} (same : destination root other = destination root entry) :
    lastAt root entries other = lastAt root entries entry := by
  rw [lastAt, lastAt, same]

theorem written_target (plain : ∀ entry ∈ entries, entry.IsPlain) (member : entry ∈ entries) :
    written root entries (target root entry) =
      (lastAt root entries entry).map fun last => Utf8.encode last.source := by
  have same : entries.filter (fun other => target root other = target root entry) =
      entries.filter fun other => destination root other = destination root entry := by
    refine List.filter_congr fun other found => ?_
    rw [decide_eq_decide, destination_eq_iff (plain other found) (plain entry member)]
  rw [written, lastAt, same]

/-- After generating, an entry differs from its file by the source of the last entry there. -/
theorem Generates.difference?_eq (generates : Generates root groups state after)
    (isRoot : IsRoot root) (grouped : ∀ group ∈ groups, IsGroup group.1 group.2)
    {group : Text × List Entry} (member : group ∈ groups) (inside : entry ∈ group.2) :
    difference? after.files root entry = overwritten? root (groups.flatMap Prod.snd) entry := by
  have plain : ∀ entry ∈ groups.flatMap Prod.snd, entry.IsPlain := by
    intro entry found
    obtain ⟨group, member, inside⟩ := List.mem_flatMap.mp found
    exact (grouped group member).plain entry inside
  have listed : entry ∈ groups.flatMap Prod.snd := List.mem_flatMap.mpr ⟨group, member, inside⟩
  have covered := @written_target root entry _ plain listed
  cases found : lastAt root (groups.flatMap Prod.snd) entry with
  | none => exact absurd rfl (lastAt_eq_none_iff.mp found entry listed)
  | some last =>
      rw [found] at covered
      obtain ⟨executable, stands⟩ := generates.built.written covered
      rw [difference?_of_source isRoot (plain entry listed)
        (generates.fits group member entry inside) stands, overwritten?, found]
      rfl

theorem Generates.isOpen (generates : Generates root groups state after) (isRoot : IsRoot root)
    (grouped : ∀ group ∈ groups, IsGroup group.1 group.2) {group : Text × List Entry}
    (member : group ∈ groups) : IsOpen after.files root group.1 group.2 := by
  refine (generates.homes group member).isOpen isRoot (grouped group member).clean
    (generates.fits group member) ?_
  intro entry inside directory
  have listed : entry ∈ groups.flatMap Prod.snd := List.mem_flatMap.mpr ⟨group, member, inside⟩
  obtain ⟨bytes, covered⟩ :=
    Option.ne_none_iff_exists'.mp (written_ne_none_iff.mpr ⟨entry, listed, rfl⟩)
  obtain ⟨executable, stands⟩ := generates.built.written covered
  simp [directory] at stands

theorem overwritten?_eq_none_iff :
    (∀ entry ∈ entries, overwritten? root entries entry = none) ↔
      ∀ entry ∈ entries, ∀ other ∈ entries,
        destination root entry = destination root other → entry.source = other.source := by
  constructor
  · intro none entry member other member' same
    cases found : lastAt root entries entry with
    | none => exact absurd rfl (lastAt_eq_none_iff.mp found entry member)
    | some last =>
        have first := none entry member
        have second := none other member'
        rw [overwritten?, found] at first
        rw [overwritten?, ← lastAt_congr same, found] at second
        simp only [Option.bind_some, ite_eq_left_iff, reduceCtorEq, imp_false, not_not] at *
        exact first.symm.trans second
  · intro agree entry member
    rw [overwritten?]
    cases found : lastAt root entries entry with
    | none => rfl
    | some last =>
        obtain ⟨member', same⟩ := mem_of_lastAt found
        exact if_pos (agree last member' entry member same)

theorem filter_isContent (files : FileSystem) (directory : Path) (held : List Entry) :
    (held.filterMap (overwritten? root entries) ++
        (staleNames files directory held).map (staleAt directory)).filter Mismatch.isContent =
      held.filterMap (overwritten? root entries) := by
  have contents : (held.filterMap (overwritten? root entries)).filter Mismatch.isContent =
      held.filterMap (overwritten? root entries) := by
    refine List.filter_eq_self.mpr fun mismatch member => ?_
    obtain ⟨entry, -, differs⟩ := List.mem_filterMap.mp member
    obtain ⟨last, -, differs⟩ := Option.bind_eq_some_iff.mp differs
    split_ifs at differs
    obtain rfl := Option.some.inj differs
    rfl
  have stale : ((staleNames files directory held).map (staleAt directory)).filter
      Mismatch.isContent = [] := by
    refine List.filter_eq_nil_iff.mpr fun mismatch member => ?_
    obtain ⟨name, -, rfl⟩ := List.mem_map.mp member
    exact Bool.false_ne_true
  rw [List.filter_append, contents, stale, List.append_nil]

theorem Generates.packageMismatches_eq (generates : Generates root groups state after)
    (isRoot : IsRoot root) (grouped : ∀ group ∈ groups, IsGroup group.1 group.2)
    {group : Text × List Entry} (member : group ∈ groups) :
    packageMismatches after.files root group.1 group.2 =
      group.2.filterMap (overwritten? root (groups.flatMap Prod.snd)) ++
        (staleNames after.files (packageDirectory root group.1) group.2).map
          (staleAt (packageDirectory root group.1)) := by
  rw [packageMismatches, List.filterMap_congr fun entry inside =>
    generates.difference?_eq isRoot grouped member inside]

/-- Nothing is found after generating if no source was overwritten and no name is left over. -/
theorem Generates.passes_iff (generates : Generates root groups state after)
    (isRoot : IsRoot root) (grouped : ∀ group ∈ groups, IsGroup group.1 group.2) :
    (groups.flatMap fun group => packageMismatches after.files root group.1 group.2) = [] ↔
      (∀ entry ∈ groups.flatMap Prod.snd, ∀ other ∈ groups.flatMap Prod.snd,
        destination root entry = destination root other → entry.source = other.source) ∧
      ∀ group ∈ groups, ∀ name, IsName name →
        (".java".toList <:+ name ∨ ".kt".toList <:+ name) →
        after.files.HoldsFile (packageDirectory root group.1) name →
        ∃ entry ∈ group.2, entry.fileName = name := by
  rw [List.flatMap_eq_nil_iff, ← overwritten?_eq_none_iff, List.forall_mem_flatMap,
    ← forall₂_and]
  refine forall₂_congr fun group member => ?_
  have filled := packageDirectory_ne_nil isRoot.filled (grouped group member).clean
  have straight := isStraight_packageDirectory isRoot.straight (grouped group member).clean
  rw [generates.packageMismatches_eq isRoot grouped member, List.append_eq_nil_iff,
    List.filterMap_eq_nil_iff, List.map_eq_nil_iff,
    staleNames_eq_nil_iff generates.proper filled straight]

/-- After generating, a comparison goes through.  It passes exactly if entries that share a file
agree and no package directory holds a source file that none of its entries claims; and it finds
fault with the content of exactly those entries that a later one has overwritten. -/
theorem generate_then_compare {found : List Mismatch}
    (plain : ∀ entry ∈ entries, entry.IsPlain) (filled : root ≠ [])
    (straight : root.IsStraight) (proper : before.files.IsProper)
    (generated : reconcile (.generate root) (ofEntries entries) before = .ok found middle)
    (same : state.files = middle.files) :
    ∃ mismatches after,
      reconcile (.compare root) (ofEntries entries) state = .ok mismatches after ∧
      (mismatches = [] ∧ after.report = state.report ↔
        (∀ entry ∈ (ofEntries entries).entries, ∀ other ∈ (ofEntries entries).entries,
          destination root entry = destination root other → entry.source = other.source) ∧
        ∀ group ∈ (ofEntries entries).packages, ∀ name, IsName name →
          (".java".toList <:+ name ∨ ".kt".toList <:+ name) →
          middle.files.HoldsFile (packageDirectory root group.1) name →
          ∃ entry ∈ group.2, entry.fileName = name) ∧
      mismatches.filter Mismatch.isContent =
        (ofEntries entries).entries.filterMap
          (overwritten? root (ofEntries entries).entries) := by
  have isRoot : IsRoot root := ⟨filled, straight⟩
  have grouped := fun group => @isGroup_of_mem entries plain group
  obtain ⟨-, generates⟩ := reconcileAll_generate_inversion isRoot grouped proper generated
  have properState : state.files.IsProper := same ▸ generates.proper
  obtain ⟨mismatches, after, ran⟩ := @reconcileAll_compare_succeeds _ state _ _ isRoot grouped
    (fun group member => same ▸ generates.isOpen isRoot grouped member) properState
  obtain ⟨exact, -, reported⟩ :=
    reconcileAll_compare_inversion isRoot grouped properState (.refl state.files) ran
  rw [same] at exact
  have passes := generates.passes_iff isRoot grouped
  rw [← exact] at passes
  refine ⟨mismatches, after, ran, Iff.trans ⟨And.left, fun none => ⟨none, ?_⟩⟩ passes, ?_⟩
  · rw [reported, none, List.flatMap_nil, List.append_nil]
  · rw [exact, List.filter_flatMap, PackageMap.entries, List.filterMap_flatMap]
    refine List.flatMap_congr fun group member => ?_
    rw [generates.packageMismatches_eq isRoot grouped member, filter_isContent]

/-- Of two packages that share a directory the later one overwrites the file of the earlier. -/
theorem generate_then_compare_sample :
    let entries : List Entry := [⟨"a.b".toList, "A.java".toList, "one\n".toList⟩,
      ⟨"a..b".toList, "A.java".toList, "two\n".toList⟩]
    ∃ middle mismatches after,
      reconcile (.generate "s".toList) (ofEntries entries) ⟨{}, [], [], ()⟩ = .ok [] middle ∧
      reconcile (.compare "s".toList) (ofEntries entries) middle = .ok mismatches after ∧
      mismatches.filter Mismatch.isContent =
        [.content "s/a/b/A.java".toList "two\n".toList "one\n".toList] := by
  intro entries
  have plain : ∀ entry ∈ entries, entry.IsPlain := by decide
  have isRoot : IsRoot "s".toList := ⟨by decide, by decide⟩
  have isVacant : IsVacant {} "s".toList := isVacant_of_absent isRoot rfl
  have fits : ∀ group ∈ (ofEntries entries).packages,
      (∀ entry ∈ group.2, FileSystem.Admits {} (destination "s".toList entry)) ∧
        segments group.1 ≠ [] := by
    decide
  have isOpen (group) (grouped : group ∈ (ofEntries entries).packages) :
      IsOpen {} "s".toList group.1 group.2 := by
    obtain ⟨first, inside⟩ := inhabited_group grouped
    have here := isGroup_of_mem plain grouped
    exact {
      toIsClear := isVacant.isClear isRoot here (List.ne_nil_of_mem inside) (fits group grouped).1
      ending := .inl (getLast?_steps_packageDirectory here.clean (fits group grouped).2) }
  obtain ⟨middle, generated⟩ := @reconcileAll_generate_succeeds _ ⟨{}, [], [], ()⟩ _ _ isRoot
    (fun _ => isGroup_of_mem plain) isOpen (by decide) isProper_empty
  obtain ⟨mismatches, after, ran, -, contents⟩ :=
    generate_then_compare plain isRoot.filled isRoot.straight isProper_empty generated rfl
  exact ⟨middle, mismatches, after, generated, ran, contents.trans (by cbv)⟩

end Snapshot

end ApiSurface
