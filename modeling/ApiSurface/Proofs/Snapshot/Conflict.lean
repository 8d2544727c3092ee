import ApiSurface.Proofs.Snapshot.RoundTrip

/-! What stands in the way of a snapshot.  Generating and comparing do different things in a
different order, and both change the files as they go; yet they fail on the same files, and these
are known beforehand. -/

namespace ApiSurface

namespace Snapshot

open ApiSurface.Path FileSystem PackageMap

variable {σ : Type} {before state middle after : RunState σ} {root : Path} {package : Text}
  {entries : List Entry} {groups : List (Text × List Entry)} {map : PackageMap}
  {start files : FileSystem} {content : Location → Option Bytes} {found : List Mismatch}

/-- A file stands where a directory is needed, for a package or on the way there, or a directory
where the file of an entry is needed. -/
def Conflict (files : FileSystem) (root : Path) (map : PackageMap) : Prop :=
  (∃ group ∈ map.packages, ∃ location, location <+: names (packageDirectory root group.1) ∧
      ∃ data, files.kind? root.isAbsolute location = some (.file data)) ∨
    ∃ entry ∈ map.entries,
      files.kind? root.isAbsolute (names (destination root entry)) = some .directory

/-- The system has no other reason to fail than a conflict: every path can be handed to it and is
short enough, there is room for all sources, and it is not asked to create the root by a path that
ends in a step that stays, which it refuses to do. -/
structure FailsOnConflictOnly (files : FileSystem) (root : Path) (map : PackageMap) : Prop where
  fits : ∀ entry ∈ map.entries, files.Admits (destination root entry)
  room : HasRoomFor files root map.entries
  creatable : IsVacant files root → (steps root).getLast? = some .stay →
    ∀ group ∈ map.packages.head?, segments group.1 ≠ []

theorem not_conflict_iff (straight : root.IsStraight)
    (grouped : ∀ group ∈ map.packages, IsGroup group.1 group.2)
    (inhabited : ∀ group ∈ map.packages, group.2 ≠ [])
    (fits : ∀ entry ∈ map.entries, files.Admits (destination root entry)) :
    ¬ Conflict files root map ↔
      ∀ group ∈ map.packages, IsClear files root group.1 group.2 := by
  have listed {group : Text × List Entry} (member : group ∈ map.packages) {entry : Entry}
      (inside : entry ∈ group.2) : entry ∈ map.entries :=
    List.mem_flatMap.mpr ⟨group, member, inside⟩
  constructor
  · intro free group member
    have here := grouped group member
    obtain ⟨entry, inside⟩ := List.exists_mem_of_ne_nil _ (inhabited group member)
    refine ⟨?_, ?_, fun entry inside => fits entry (listed member inside), ?_⟩
    · have admitted :=
        (fits entry (listed member inside)).of_join (here.plain entry inside).fileName
      rwa [here.together entry inside] at admitted
    · intro location along data stands
      have above := trail_steps (isStraight_packageDirectory straight here.clean) along
      exact free (.inl ⟨group, member, location, above, data, stands⟩)
    · intro entry inside stands
      rw [← names_destination (here.plain entry inside)] at stands
      exact free (.inr ⟨entry, listed member inside, stands⟩)
  · rintro clear (⟨group, member, location, above, data, stands⟩ | ⟨entry, member, stands⟩)
    · have along := (mem_trail_steps_iff
        (isStraight_packageDirectory straight (grouped group member).clean)).mpr above
      exact (clear group member).clear location along data stands
    · obtain ⟨group, grouped', inside⟩ := List.mem_flatMap.mp member
      rw [names_destination ((grouped group grouped').plain entry inside)] at stands
      exact (clear group grouped').free entry inside stands

theorem IsOpen.clear_before (isOpen : IsOpen files root package entries) (isRoot : IsRoot root)
    (clean : Text.IsClean package) (built : Built root content start files)
    (aside : ∀ location, Ground root location → content location = none) :
    IsClear start root package entries where
  admitted := built.admits_iff.mp isOpen.admitted
  clear := by
    intro location along data stands
    rcases built.kept (aside location (ground_of_trail isRoot.straight clean along)) with
      same | ⟨-, vacant, -⟩
    · exact isOpen.clear location along data (same.trans stands)
    · simp [stands] at vacant
  fits := fun entry member => built.admits_iff.mp (isOpen.fits entry member)
  free := fun entry member stands => isOpen.free entry member (built.spared stands)

theorem reconcileAll_compare_opens (isRoot : IsRoot root)
    (grouped : ∀ group ∈ groups, IsGroup group.1 group.2) (proper : state.files.IsProper)
    (ran : reconcileAll (.compare root) groups state = .ok found after) :
    Grown root state.files after.files ∧
      ∀ group ∈ groups, IsOpen after.files root group.1 group.2 := by
  induction groups generalizing state found with
  | nil =>
      obtain ⟨-, rfl⟩ := Action.pure_eq_ok_iff.mp ran
      exact ⟨.refl _, by simp⟩
  | cons group groups induction =>
      obtain ⟨package, entries⟩ := group
      obtain ⟨here, others⟩ := List.forall_mem_cons.mp grouped
      simp only [reconcileAll, reconcilePackage, Action.bind_eq_ok_iff,
        Action.pure_eq_ok_iff] at ran
      obtain ⟨_, middle, first, _, _, rest, -, rfl⟩ := ran
      obtain ⟨-, -, properMiddle, grown, -⟩ :=
        comparePackage_inversion isRoot here proper (.refl state.files) first
      obtain ⟨grownLater, opens⟩ := induction others properMiddle rest
      refine ⟨grown.trans grownLater, List.forall_mem_cons.mpr ⟨?_, opens⟩⟩
      exact (comparePackage_opens isRoot here first).built isRoot here grownLater fun _ _ => rfl

theorem clear_of_compared (isRoot : IsRoot root)
    (grouped : ∀ group ∈ groups, IsGroup group.1 group.2) (proper : state.files.IsProper)
    (ran : reconcileAll (.compare root) groups state = .ok found after) :
    ∀ group ∈ groups, IsClear state.files root group.1 group.2 := by
  obtain ⟨grown, opens⟩ := reconcileAll_compare_opens isRoot grouped proper ran
  intro group member
  exact (opens group member).clear_before isRoot (grouped group member).clean grown fun _ _ => rfl

theorem clear_of_generated (isRoot : IsRoot root)
    (grouped : ∀ group ∈ groups, IsGroup group.1 group.2) (proper : state.files.IsProper)
    (ran : reconcileAll (.generate root) groups state = .ok found after) :
    ∀ group ∈ groups, IsClear state.files root group.1 group.2 := by
  obtain ⟨-, generates⟩ := reconcileAll_generate_inversion isRoot grouped proper ran
  intro group member
  refine (generates.isOpen isRoot grouped member).clear_before isRoot (grouped group member).clean
    generates.built fun location ground => written_of_ground ?_ ground
  intro entry listed
  obtain ⟨other, member, inside⟩ := List.mem_flatMap.mp listed
  exact (grouped other member).plain entry inside

theorem IsClear.isOpen (isClear : IsClear files root package entries) (isRoot : IsRoot root)
    (clean : Text.IsClean package)
    (creatable : IsVacant files root → (steps root).getLast? = some .stay →
      segments package ≠ []) : IsOpen files root package entries where
  toIsClear := isClear
  ending := by
    by_cases bare : segments package = []
    · have sameNames : names (packageDirectory root package) = names root := by
        rw [names_packageDirectory root clean, bare, List.append_nil]
      by_cases stays : (steps root).getLast? = some .stay
      · have clear : ∀ {location}, location <+: names root → ∀ data,
            files.kind? root.isAbsolute location ≠ some (.file data) := by
          intro location above
          refine isClear.clear location ((mem_trail_steps_iff
            (isStraight_packageDirectory isRoot.straight clean)).mpr ?_)
          rwa [sameNames]
        rw [sameNames]
        cases found : files.kind? root.isAbsolute (names root) with
        | none => exact absurd bare (creatable ⟨found, clear⟩ stays)
        | some kind =>
            cases kind with
            | file data => exact absurd found (clear List.prefix_rfl data)
            | directory => exact .inr rfl
      · rw [steps_packageDirectory_of_bare clean bare]
        exact .inl stays
    · exact .inl (getLast?_steps_packageDirectory clean bare)

/-- Once the directory of one package is there, so is the root, and the others can follow. -/
theorem isOpen_behind (isRoot : IsRoot root) (isHome : IsHome files root package)
    (clean : Text.IsClean package) (built : Built root content start files)
    (aside : ∀ location, Ground root location → content location = none)
    (grouped : ∀ group ∈ groups, IsGroup group.1 group.2)
    (clear : ∀ group ∈ groups, IsClear start root group.1 group.2) :
    ∀ group ∈ groups, IsOpen files root group.1 group.2 := by
  intro group member
  have here := grouped group member
  refine ((clear group member).built isRoot here built aside).isOpen isRoot here.clean ?_
  intro isVacant
  have stands := isHome.root_stands clean
  rw [isVacant.vacant] at stands
  cases stands

theorem reconcileAll_generate_of_clear (isRoot : IsRoot root)
    (grouped : ∀ group ∈ groups, IsGroup group.1 group.2) (proper : state.files.IsProper)
    (clear : ∀ group ∈ groups, IsClear state.files root group.1 group.2)
    (room : ∀ group ∈ groups, HasRoomFor state.files root group.2)
    (creatable : IsVacant state.files root → (steps root).getLast? = some .stay →
      ∀ group ∈ groups.head?, segments group.1 ≠ []) :
    ∃ after, reconcileAll (.generate root) groups state = .ok [] after := by
  cases groups with
  | nil => exact ⟨state, rfl⟩
  | cons group groups =>
      obtain ⟨package, entries⟩ := group
      obtain ⟨here, others⟩ := List.forall_mem_cons.mp grouped
      obtain ⟨clearHere, clearOthers⟩ := List.forall_mem_cons.mp clear
      obtain ⟨roomHere, roomOthers⟩ := List.forall_mem_cons.mp room
      obtain ⟨middle, first⟩ := generatePackage_succeeds isRoot here
        (clearHere.isOpen isRoot here.clean fun isVacant stays =>
          creatable isVacant stays (package, entries) rfl) roomHere
      have generates := generatePackage_inversion isRoot here proper first
      have isHome : IsHome middle.files root package :=
        generates.homes (package, entries) List.mem_cons_self
      have aside (location : Location) (ground : Ground root location) :
          written root ([(package, entries)].flatMap Prod.snd) location = none :=
        written_of_ground (by simpa using here.plain) ground
      obtain ⟨after, rest⟩ := reconcileAll_generate_succeeds isRoot others
        (isOpen_behind isRoot isHome here.clean generates.built aside others clearOthers)
        (fun group member => (hasRoomFor_iff generates.built).mpr (roomOthers group member))
        generates.proper
      refine ⟨after, ?_⟩
      simp only [reconcileAll, reconcilePackage, Action.bind_eq_ok_iff, Action.pure_eq_ok_iff]
      exact ⟨[], middle, ⟨(), middle, first, rfl, rfl⟩, [], after, rest, rfl, rfl⟩

theorem reconcileAll_compare_of_clear (isRoot : IsRoot root)
    (grouped : ∀ group ∈ groups, IsGroup group.1 group.2) (proper : state.files.IsProper)
    (clear : ∀ group ∈ groups, IsClear state.files root group.1 group.2)
    (creatable : IsVacant state.files root → (steps root).getLast? = some .stay →
      ∀ group ∈ groups.head?, segments group.1 ≠ []) :
    ∃ mismatches after, reconcileAll (.compare root) groups state = .ok mismatches after := by
  cases groups with
  | nil => exact ⟨[], state, rfl⟩
  | cons group groups =>
      obtain ⟨package, entries⟩ := group
      obtain ⟨here, others⟩ := List.forall_mem_cons.mp grouped
      obtain ⟨clearHere, clearOthers⟩ := List.forall_mem_cons.mp clear
      obtain ⟨found, middle, first⟩ := comparePackage_succeeds isRoot here
        (clearHere.isOpen isRoot here.clean fun isVacant stays =>
          creatable isVacant stays (package, entries) rfl)
      obtain ⟨-, -, properMiddle, grown, -⟩ :=
        comparePackage_inversion isRoot here proper (.refl state.files) first
      have isHome := isHome_of_compared isRoot here first
      obtain ⟨later, after, rest⟩ := reconcileAll_compare_succeeds isRoot others
        (isOpen_behind isRoot isHome here.clean grown (fun _ _ => rfl) others clearOthers)
        properMiddle
      refine ⟨found ++ later, after, ?_⟩
      simp only [reconcileAll, reconcilePackage, Action.bind_eq_ok_iff, Action.pure_eq_ok_iff]
      exact ⟨found, middle, first, later, after, rest, rfl, rfl⟩

/-- If the system fails on conflicts only, then to generate a snapshot and to compare with it fail
on the same files, which are those with a conflict.  Where nothing stands at the root, and no file
on the way there, both go through. -/
theorem fails_iff_conflict (plain : ∀ entry ∈ entries, entry.IsPlain) (filled : root ≠ [])
    (straight : root.IsStraight) (proper : before.files.IsProper)
    (only : FailsOnConflictOnly before.files root (ofEntries entries)) :
    let generate : Action σ (List Mismatch) := reconcile (.generate root) (ofEntries entries)
    let compare : Action σ (List Mismatch) := reconcile (.compare root) (ofEntries entries)
    ((∃ failure after, generate before = .error failure after) ↔
        Conflict before.files root (ofEntries entries)) ∧
      ((∃ failure after, compare before = .error failure after) ↔
        Conflict before.files root (ofEntries entries)) ∧
      (IsVacant before.files root →
        (∃ after, generate before = .ok [] after) ∧
          ∃ mismatches after, compare before = .ok mismatches after) := by
  intro generate compare
  have isRoot : IsRoot root := ⟨filled, straight⟩
  have grouped := fun group => @isGroup_of_mem entries plain group
  have inhabited : ∀ group ∈ (ofEntries entries).packages, group.2 ≠ [] := by
    intro group member
    obtain ⟨first, inside⟩ := inhabited_group member
    exact List.ne_nil_of_mem inside
  have clear_iff := not_conflict_iff straight grouped inhabited only.fits
  have generates : (∃ found after, generate before = .ok found after) ↔
      ¬ Conflict before.files root (ofEntries entries) := by
    rw [clear_iff]
    constructor
    · rintro ⟨found, after, ran⟩
      exact clear_of_generated isRoot grouped proper ran
    · intro clear
      have room (group) (member : group ∈ (ofEntries entries).packages) :
          HasRoomFor before.files root group.2 :=
        fun entry inside => only.room entry (List.mem_flatMap.mpr ⟨group, member, inside⟩)
      exact ⟨[], reconcileAll_generate_of_clear isRoot grouped proper clear room only.creatable⟩
  have compares : (∃ found after, compare before = .ok found after) ↔
      ¬ Conflict before.files root (ofEntries entries) := by
    rw [clear_iff]
    constructor
    · rintro ⟨found, after, ran⟩
      exact clear_of_compared isRoot grouped proper ran
    · intro clear
      exact reconcileAll_compare_of_clear isRoot grouped proper clear only.creatable
  refine ⟨?_, ?_, fun isVacant => ?_⟩
  · rw [Action.exists_error_iff, generates, not_not]
  · rw [Action.exists_error_iff, compares, not_not]
  · have free : ¬ Conflict before.files root (ofEntries entries) := by
      refine clear_iff.mpr fun group member => ?_
      refine isVacant.isClear isRoot (grouped group member) (inhabited group member) ?_
      exact fun entry inside => only.fits entry (List.mem_flatMap.mpr ⟨group, member, inside⟩)
    obtain ⟨found, after, ran⟩ := generates.mpr free
    obtain ⟨rfl, -⟩ := reconcileAll_generate_inversion isRoot grouped proper ran
    exact ⟨⟨after, ran⟩, compares.mpr free⟩

/-- A file stands where a package should be, below another package that could be reconciled. -/
theorem fails_iff_conflict_sample :
    let entries : List Entry := [⟨"p".toList, "A.java".toList, "a\n".toList⟩,
      ⟨"p.q".toList, "B.java".toList, "b\n".toList⟩]
    let before : RunState Unit :=
      ⟨(FileSystem.plant {} "s/p/q".toList (Utf8.encode "old\n".toList)).2, [], [], ()⟩
    (∃ failure after,
        reconcile (.generate "s".toList) (ofEntries entries) before = .error failure after) ∧
      (∃ failure after,
        reconcile (.compare "s".toList) (ofEntries entries) before = .error failure after) ∧
      (∃ after, reconcile (.generate "t".toList) (ofEntries entries) before = .ok [] after) ∧
      ∃ mismatches after,
        reconcile (.compare "t".toList) (ofEntries entries) before = .ok mismatches after := by
  intro entries before
  have plain : ∀ entry ∈ entries, entry.IsPlain := by decide
  have proper : before.files.IsProper := isProper_empty.plant _ _
  have blocked : Conflict before.files "s".toList (ofEntries entries) :=
    .inl ⟨_, .tail _ List.mem_cons_self, ["s".toList, "p".toList, "q".toList], by decide, _, rfl⟩
  obtain ⟨generates, compares, -⟩ := @fails_iff_conflict Unit before "s".toList entries plain
    (by decide) (by decide) proper ⟨by decide, by decide, fun _ stays => absurd stays (by decide)⟩
  obtain ⟨-, -, absent⟩ := @fails_iff_conflict Unit before "t".toList entries plain
    (by decide) (by decide) proper ⟨by decide, by decide, fun _ stays => absurd stays (by decide)⟩
  obtain ⟨generated, compared⟩ := absent (isVacant_of_absent ⟨by decide, by decide⟩ rfl)
  exact ⟨generates.mpr blocked, compares.mpr blocked, generated, compared⟩

end Snapshot

end ApiSurface
