import ApiSurface.Proofs.Snapshot.Conflict
import ApiSurface.Proofs.Snapshot.GeneratedTree

/-! Entries in another order.  Whether a run goes through is told by the packages and by the set of
entries, and so is the tree that it leaves, unless entries share a file. -/

namespace ApiSurface

namespace PackageMap

variable {entries other : List Entry}

/-- A package with those of the entries that belong to it. -/
def groupOf (entries : List Entry) (package : Text) : Text × List Entry :=
  (package, entries.filter (·.package = package))

theorem packages_eq_map (entries : List Entry) :
    (ofEntries entries).packages =
      ((ofEntries entries).packages.map Prod.fst).map (groupOf entries) := by
  rw [List.map_map]
  refine (List.map_id _).symm.trans (List.map_congr_left fun group member => ?_)
  have held := (((groups_ofEntries entries).mem_iff group.1 group.2).mp member).1
  exact Prod.ext rfl held

theorem names_of_perm (rearranged : other.Perm entries) :
    (ofEntries other).packages.map Prod.fst = (ofEntries entries).packages.map Prod.fst := by
  have ascends (entries : List Entry) :
      ((ofEntries entries).packages.map Prod.fst).Pairwise (· < ·) :=
    List.pairwise_map.mpr (groups_ofEntries entries).ascends
  have named (entries : List Entry) (package : Text) :
      package ∈ (ofEntries entries).packages.map Prod.fst ↔
        ∃ entry ∈ entries, entry.package = package := by
    rw [List.mem_map]
    constructor
    · rintro ⟨group, member, same⟩
      obtain ⟨entry, inside⟩ := inhabited_group member
      obtain ⟨listed, belongs⟩ := (mem_group_iff member).mp inside
      exact ⟨entry, listed, belongs.trans same⟩
    · rintro ⟨entry, listed, belongs⟩
      obtain ⟨group, member, same, -⟩ := exists_group listed
      exact ⟨group, member, same.trans belongs⟩
  apply (ascends other).eq_of_mem_iff (ascends entries)
  intro package
  rw [named, named]
  simp only [rearranged.mem_iff]

/-- Entries in another order have the same packages, each with its entries in another order. -/
theorem exists_names_of_perm (rearranged : other.Perm entries) :
    ∃ names : List Text, (ofEntries entries).packages = names.map (groupOf entries) ∧
      (ofEntries other).packages = names.map (groupOf other) := by
  refine ⟨_, packages_eq_map entries, ?_⟩
  rw [← names_of_perm rearranged]
  exact packages_eq_map other

theorem groupOf_perm (rearranged : other.Perm entries) (package : Text) :
    (groupOf other package).2.Perm (groupOf entries package).2 :=
  rearranged.filter _

end PackageMap

namespace Snapshot

open ApiSurface.Path FileSystem PackageMap ApiSurface.Action

variable {σ : Type} {before state after : RunState σ} {root : Path} {package : Text}
  {entries other : List Entry} {groups : List (Text × List Entry)} {files made : FileSystem}
  {found : List Mismatch}

/-- The root can be created together with the directory of the first package. -/
def Creatable (files : FileSystem) (root : Path) (groups : List (Text × List Entry)) : Prop :=
  IsVacant files root → (steps root).getLast? = some .stay →
    ∀ group ∈ groups.head?, segments group.1 ≠ []

theorem named_of_created (isRoot : IsRoot root) (clean : Text.IsClean package)
    (created : files.createDirectories (packageDirectory root package) = (.ok (), made))
    (isVacant : IsVacant files root) (stays : (steps root).getLast? = some .stay) :
    segments package ≠ [] := by
  intro bare
  have same : steps (packageDirectory root package) = steps root :=
    steps_packageDirectory_of_bare clean bare
  have vacant : files.kind? (isAbsolute (packageDirectory root package))
      (names (packageDirectory root package)) = none := by
    rw [isAbsolute_packageDirectory root clean, names_packageDirectory root clean, bare,
      List.append_nil]
    exact isVacant.vacant
  exact createDirectories_staying (packageDirectory_ne_nil isRoot.filled clean)
    (isStraight_packageDirectory isRoot.straight clean) (same ▸ stays) vacant
    (congrArg Prod.fst created)

theorem generate_succeeds_iff (isRoot : IsRoot root)
    (grouped : ∀ group ∈ groups, IsGroup group.1 group.2) (proper : state.files.IsProper) :
    (∃ found after, reconcileAll (.generate root) groups state = .ok found after) ↔
      ((∀ group ∈ groups, IsClear state.files root group.1 group.2) ∧
        Creatable state.files root groups) ∧
        ∀ group ∈ groups, HasRoomFor state.files root group.2 := by
  constructor
  · rintro ⟨found, after, ran⟩
    obtain ⟨-, generates⟩ := reconcileAll_generate_inversion isRoot grouped proper ran
    refine ⟨⟨clear_of_generated isRoot grouped proper ran, ?_⟩,
      fun group member => (hasRoomFor_iff generates.built).mp (generates.room group member)⟩
    intro isVacant stays group first
    cases groups with
    | nil => cases first
    | cons head groups =>
        obtain rfl : head = group := by simpa using first
        simp only [reconcileAll, reconcilePackage, generatePackage, bind_eq_ok_iff,
          createDirectories_eq_ok_iff] at ran
        obtain ⟨_, _, ⟨_, _, ⟨_, _, ⟨made, created, -⟩, -⟩, -⟩, -⟩ := ran
        exact named_of_created isRoot (grouped head List.mem_cons_self).clean created isVacant
          stays
  · rintro ⟨⟨clear, creatable⟩, room⟩
    exact ⟨[], reconcileAll_generate_of_clear isRoot grouped proper clear room creatable⟩

theorem compare_succeeds_iff (isRoot : IsRoot root)
    (grouped : ∀ group ∈ groups, IsGroup group.1 group.2) (proper : state.files.IsProper) :
    (∃ found after, reconcileAll (.compare root) groups state = .ok found after) ↔
      (∀ group ∈ groups, IsClear state.files root group.1 group.2) ∧
        Creatable state.files root groups := by
  constructor
  · rintro ⟨found, after, ran⟩
    refine ⟨clear_of_compared isRoot grouped proper ran, ?_⟩
    intro isVacant stays group first
    cases groups with
    | nil => cases first
    | cons head groups =>
        obtain rfl : head = group := by simpa using first
        have here := grouped head List.mem_cons_self
        simp only [reconcileAll, reconcilePackage, bind_eq_ok_iff,
          comparePackage_eq_ok_iff here.together] at ran
        obtain ⟨_, _, ⟨_, made, -, created, -⟩, -⟩ := ran
        exact named_of_created isRoot here.clean created isVacant stays
  · rintro ⟨clear, creatable⟩
    exact reconcileAll_compare_of_clear isRoot grouped proper clear creatable

theorem IsClear.subset {entries other : List Entry} (isClear : IsClear files root package entries)
    (included : other ⊆ entries) : IsClear files root package other where
  admitted := isClear.admitted
  clear := isClear.clear
  fits := fun entry member => isClear.fits entry (included member)
  free := fun entry member => isClear.free entry (included member)

theorem room_iff_of_perm (rearranged : other.Perm entries) :
    (∀ group ∈ (ofEntries other).packages, HasRoomFor files root group.2) ↔
      ∀ group ∈ (ofEntries entries).packages, HasRoomFor files root group.2 := by
  rw [hasRoomFor_packages_iff, hasRoomFor_packages_iff]
  exact forall_congr' fun entry => imp_congr_left rearranged.mem_iff

theorem ready_iff_of_perm (rearranged : other.Perm entries) :
    ((∀ group ∈ (ofEntries other).packages, IsClear files root group.1 group.2) ∧
        Creatable files root (ofEntries other).packages) ↔
      (∀ group ∈ (ofEntries entries).packages, IsClear files root group.1 group.2) ∧
        Creatable files root (ofEntries entries).packages := by
  obtain ⟨names, here, there⟩ := exists_names_of_perm rearranged
  have clear (package : Text) :
      IsClear files root package (groupOf other package).2 ↔
        IsClear files root package (groupOf entries package).2 := by
    have perm := groupOf_perm rearranged package
    exact ⟨fun isClear => isClear.subset perm.symm.subset,
      fun isClear => isClear.subset perm.subset⟩
  have first (entries : List Entry) :
      Creatable files root (names.map (groupOf entries)) ↔
        (IsVacant files root → (steps root).getLast? = some .stay →
          ∀ package ∈ names.head?, segments package ≠ []) := by
    cases names <;> simp [Creatable, groupOf]
  rw [here, there, first, first, List.forall_mem_map, List.forall_mem_map]
  exact and_congr_left' (forall₂_congr fun package _ => clear package)

theorem written_of_perm (plain : ∀ entry ∈ entries, entry.IsPlain)
    (distinct : (entries.map (destination root)).Nodup) (rearranged : other.Perm entries) :
    written root other = written root entries := by
  funext location
  have perm := rearranged.filter fun entry => target root entry = location
  have apart : (entries.filter fun entry => target root entry = location).Pairwise
      fun first second => destination root first ≠ destination root second :=
    (List.pairwise_map.mp distinct).sublist List.filter_sublist
  have here (entry) (member : entry ∈ entries.filter fun entry => target root entry = location) :
      entry.IsPlain ∧ target root entry = location := by
    obtain ⟨listed, there⟩ := List.mem_filter.mp member
    exact ⟨plain entry listed, of_decide_eq_true there⟩
  unfold written
  cases held : entries.filter fun entry => target root entry = location with
  | nil => rw [held] at perm; rw [perm.eq_nil]
  | cons first rest =>
      -- No two entries share a file, so which of them comes last does not matter.
      cases rest with
      | nil => rw [held] at perm; rw [List.perm_singleton.mp perm]
      | cons second rest =>
          rw [held] at apart here
          obtain ⟨plainFirst, atFirst⟩ := here first List.mem_cons_self
          obtain ⟨plainSecond, atSecond⟩ := here second (.tail _ List.mem_cons_self)
          have same : destination root first = destination root second :=
            (destination_eq_iff plainFirst plainSecond).mpr (atFirst.trans atSecond.symm)
          exact absurd same (List.rel_of_pairwise_cons apart List.mem_cons_self)

theorem written_ofEntries_of_perm (plain : ∀ entry ∈ entries, entry.IsPlain)
    (distinct : (entries.map (destination root)).Nodup) (rearranged : other.Perm entries) :
    written root (ofEntries other).entries = written root (ofEntries entries).entries := by
  rw [written_of_perm plain distinct ((entries_ofEntries_perm other).trans rearranged),
    written_of_perm plain distinct (entries_ofEntries_perm entries)]

theorem packageMismatches_perm (files : FileSystem) (root : Path) (package : Text)
    (rearranged : other.Perm entries) :
    (packageMismatches files root package other).Perm
      (packageMismatches files root package entries) := by
  have claimed : unclaimed other = unclaimed entries := by
    funext names
    refine List.filter_congr fun name _ => ?_
    rw [Bool.eq_iff_iff]
    simp [rearranged.mem_iff]
  rw [packageMismatches, packageMismatches, staleNames, staleNames, claimed]
  exact (rearranged.filterMap _).append_right _

theorem mapMismatches_perm (files : FileSystem) (root : Path)
    (rearranged : other.Perm entries) :
    (mapMismatches files root (ofEntries other)).Perm
      (mapMismatches files root (ofEntries entries)) := by
  obtain ⟨names, here, there⟩ := exists_names_of_perm rearranged
  rw [mapMismatches, mapMismatches, here, there, List.flatMap_map, List.flatMap_map]
  apply List.Perm.flatMap_left
  intro package _
  exact packageMismatches_perm files root package (groupOf_perm rearranged package)

theorem verdict_of_perm {mismatches later : List Mismatch} (rearranged : later.Perm mismatches) :
    verdict later = verdict mismatches := by
  rw [verdict, verdict, rearranged.isEmpty_eq, rearranged.length_eq]

/-- The order of entries that do not share files is irrelevant.  In any order generating goes
through or not, and the tree that it leaves is the same; and in any order comparing goes through or
not, and it finds the same mismatches in some order. -/
theorem order_is_irrelevant (plain : ∀ entry ∈ entries, entry.IsPlain) (filled : root ≠ [])
    (straight : root.IsStraight) (proper : before.files.IsProper)
    (distinct : (entries.map (destination root)).Nodup) (rearranged : other.Perm entries) :
    let generate (entries : List Entry) : Action σ (List Mismatch) :=
      reconcile (.generate root) (ofEntries entries)
    let compare (entries : List Entry) : Action σ (List Mismatch) :=
      reconcile (.compare root) (ofEntries entries)
    (((∃ failure after, generate entries before = .error failure after) ∧
          ∃ failure after, generate other before = .error failure after) ∨
        ∃ after after', generate entries before = .ok [] after ∧
          generate other before = .ok [] after' ∧
          ∀ side location, after'.files.kind? side location = after.files.kind? side location) ∧
      (((∃ failure after, compare entries before = .error failure after) ∧
          ∃ failure after, compare other before = .error failure after) ∨
        ∃ mismatches after mismatches' after', compare entries before = .ok mismatches after ∧
          compare other before = .ok mismatches' after' ∧ mismatches'.Perm mismatches ∧
          verdict mismatches' = verdict mismatches) := by
  intro generate compare
  have isRoot : IsRoot root := ⟨filled, straight⟩
  have grouped := fun group => @isGroup_of_mem entries plain group
  have grouped' := fun group => @isGroup_of_mem other
    (fun entry member => plain entry (rearranged.subset member)) group
  -- That nothing stands in the way is said of packages and sets of entries, not of their order.
  have ready := @ready_iff_of_perm root entries other before.files rearranged
  constructor
  · have succeeds : (∃ found after, generate other before = .ok found after) ↔
        ∃ found after, generate entries before = .ok found after :=
      (generate_succeeds_iff isRoot grouped' proper).trans
        ((and_congr ready (room_iff_of_perm rearranged)).trans
          (generate_succeeds_iff isRoot grouped proper).symm)
    refine (fail_together succeeds).imp_right ?_
    rintro ⟨found, after, found', after', ran, ran'⟩
    obtain rfl : found = [] := reconcileAll_generate_finds ran
    obtain rfl : found' = [] := reconcileAll_generate_finds ran'
    refine ⟨after, after', ran, ran', ?_⟩
    exact (reconcileAll_generate_lays isRoot grouped proper ran).unique
      (reconcileAll_generate_lays isRoot grouped' proper ran')
      (written_ofEntries_of_perm plain distinct rearranged) (names_of_perm rearranged)
  · have succeeds : (∃ found after, compare other before = .ok found after) ↔
        ∃ found after, compare entries before = .ok found after :=
      (compare_succeeds_iff isRoot grouped' proper).trans
        (ready.trans (compare_succeeds_iff isRoot grouped proper).symm)
    refine (fail_together succeeds).imp_right ?_
    rintro ⟨found, after, found', after', ran, ran'⟩
    obtain ⟨rfl, -⟩ :=
      reconcileAll_compare_inversion isRoot grouped proper (.refl before.files) ran
    obtain ⟨rfl, -⟩ :=
      reconcileAll_compare_inversion isRoot grouped' proper (.refl before.files) ran'
    have perm := mapMismatches_perm before.files root rearranged
    exact ⟨_, after, _, after', ran, ran', perm, verdict_of_perm perm⟩

theorem order_is_irrelevant_sample :
    let entries : List Entry := [⟨"p".toList, "A.java".toList, "a\n".toList⟩,
      ⟨"q".toList, "C.java".toList, "c\n".toList⟩, ⟨"p".toList, "B.java".toList, "b\n".toList⟩]
    let before : RunState Unit :=
      ⟨(FileSystem.plant {} "s/p/A.java".toList (Utf8.encode "old\n".toList)).2, [], [], ()⟩
    let generate (entries : List Entry) : Action Unit (List Mismatch) :=
      reconcile (.generate "s".toList) (ofEntries entries)
    let compare (entries : List Entry) : Action Unit (List Mismatch) :=
      reconcile (.compare "s".toList) (ofEntries entries)
    (∃ after after', generate entries before = .ok [] after ∧
      generate entries.reverse before = .ok [] after' ∧
      ∀ side location, after'.files.kind? side location = after.files.kind? side location) ∧
    ∃ mismatches after mismatches' after', compare entries before = .ok mismatches after ∧
      compare entries.reverse before = .ok mismatches' after' ∧ mismatches'.Perm mismatches ∧
      mismatches.map Mismatch.path = ["s/p/A.java".toList, "s/p/B.java".toList,
        "s/q/C.java".toList] := by
  intro entries before generate compare
  have proper : before.files.IsProper := isProper_empty.plant _ _
  have generated : ∃ after, generate entries before = .ok [] after :=
    answer_eq_ok_iff.mp (by decide +kernel)
  have compared : ∃ after, compare entries before = .ok
      [.content "s/p/A.java".toList "a\n".toList "old\n".toList,
        .missing "p".toList "B.java".toList "s/p/B.java".toList,
        .missing "q".toList "C.java".toList "s/q/C.java".toList] after :=
    answer_eq_ok_iff.mp (by decide +kernel)
  obtain ⟨generates, compares⟩ := @order_is_irrelevant Unit before "s".toList entries
    entries.reverse (by decide) (by decide) (by decide) proper (by decide) entries.reverse_perm
  obtain ⟨after, ran⟩ := generated
  obtain ⟨after', ran'⟩ := compared
  constructor
  · rcases generates with ⟨⟨_, _, failed⟩, -⟩ | same
    · cases failed.symm.trans ran
    · exact same
  · rcases compares with ⟨⟨_, _, failed⟩, -⟩ | ⟨found, left, found', left', first, second, perm, -⟩
    · cases failed.symm.trans ran'
    · refine ⟨found, left, found', left', first, second, perm, ?_⟩
      cases first.symm.trans ran'
      rfl

end Snapshot

end ApiSurface
