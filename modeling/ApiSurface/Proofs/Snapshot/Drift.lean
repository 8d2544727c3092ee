import ApiSurface.Proofs.Snapshot.CompareRun
import ApiSurface.Proofs.Snapshot.Generation
import ApiSurface.Proofs.Snapshot.Uniqueness
import ApiSurface.Proofs.Snapshot.Vacancy

/-! The entries of one version of a library compared with a snapshot of another. -/

namespace ApiSurface

namespace Snapshot

open ApiSurface.Path FileSystem PackageMap

variable {σ : Type} {before middle : RunState σ} {root : Path} {package : Text} {entry : Entry}
  {entries held recorded current : List Entry} {location : Location}

/-- What is different between the recorded entries and the current ones.  Of the packages that are
gone nothing is noticed. -/
inductive Drift (root : Path) (recorded current : List Entry) : Mismatch → Prop where
  | missing {entry : Entry} (present : entry ∈ current)
      (new : entry.key ∉ recorded.map Entry.key) :
      Drift root recorded current
        (.missing entry.package entry.fileName (destination root entry))
  | content {entry old : Entry} (present : entry ∈ current) (known : old ∈ recorded)
      (same : old.key = entry.key) (changed : old.source ≠ entry.source) :
      Drift root recorded current
        (.content (destination root entry) entry.source old.source)
  | stale {old : Entry} (known : old ∈ recorded)
      (shared : ∃ entry ∈ current, entry.package = old.package)
      (gone : old.key ∉ current.map Entry.key) :
      Drift root recorded current (.stale (destination root old))

theorem written_eq_some {bytes : Bytes} (covered : written root entries location = some bytes) :
    ∃ entry ∈ entries, target root entry = location ∧ bytes = Utf8.encode entry.source := by
  obtain ⟨entry, last, rfl⟩ := Option.map_eq_some_iff.mp covered
  obtain ⟨member, here⟩ := List.mem_filter.mp (List.mem_of_getLast? last)
  exact ⟨entry, member, of_decide_eq_true here, rfl⟩

theorem mem_entries_iff : entry ∈ (ofEntries entries).packages.flatMap Prod.snd ↔ entry ∈ entries :=
  (entries_ofEntries_perm entries).mem_iff

/-- A snapshot of the recorded entries and nothing else. -/
structure Records (root : Path) (recorded : List Entry) (files : FileSystem) : Prop where
  regular : ∀ entry ∈ recorded, entry.IsRegular
  fits : ∀ entry ∈ recorded, files.Admits (destination root entry)
  proper : files.IsProper
  stands : ∀ entry ∈ recorded, ∃ executable, files.kind? root.isAbsolute (target root entry) =
    some (.file ⟨Utf8.encode entry.source, executable⟩)
  only : ∀ {location data}, names root <+: location →
    files.kind? root.isAbsolute location = some (.file data) →
    ∃ entry ∈ recorded, target root entry = location

theorem Generates.records
    (generates : Generates root (ofEntries recorded).packages before middle)
    (isVacant : IsVacant before.files root)
    (regular : ∀ entry ∈ recorded, entry.IsRegular)
    (distinct : (recorded.map Entry.key).Nodup) :
    Records root recorded middle.files where
  regular
  fits := by
    intro entry member
    obtain ⟨group, found, inside⟩ := List.mem_flatMap.mp (mem_entries_iff.mpr member)
    exact generates.fits group found entry inside
  proper := generates.proper
  stands := by
    intro entry member
    obtain ⟨bytes, covered⟩ := Option.ne_none_iff_exists'.mp
      (written_ne_none_iff.mpr ⟨entry, mem_entries_iff.mpr member, rfl⟩)
    obtain ⟨executable, stands⟩ := generates.built.written covered
    obtain ⟨other, listed, here, rfl⟩ := written_eq_some covered
    have member' := mem_entries_iff.mp listed
    have sameKey := (target_eq_iff_key (regular other member') (regular entry member)).mp here
    obtain rfl := List.inj_on_of_nodup_map distinct member' member sameKey
    exact ⟨executable, stands⟩
  only := by
    intro location data below stands
    cases covered : written root ((ofEntries recorded).packages.flatMap Prod.snd) location with
    | some bytes =>
        obtain ⟨entry, listed, here, -⟩ := written_eq_some covered
        exact ⟨entry, mem_entries_iff.mp listed, here⟩
    | none =>
        have stood := generates.built.file_inversion covered stands
        rw [isVacant.below below] at stood
        cases stood

theorem Records.difference?_of_known {files : FileSystem} {old : Entry}
    (records : Records root recorded files) (isRoot : IsRoot root) (regular : entry.IsRegular)
    (fits : files.Admits (destination root entry)) (known : old ∈ recorded)
    (same : old.key = entry.key) :
    difference? files root entry =
      if old.source = entry.source then none
      else some (.content (destination root entry) entry.source old.source) := by
  obtain ⟨executable, stands⟩ := records.stands old known
  rw [(target_eq_iff_key (records.regular old known) regular).mpr same] at stands
  exact difference?_of_source isRoot regular.isPlain fits stands

theorem Records.difference?_of_new {files : FileSystem}
    (records : Records root recorded files) (isRoot : IsRoot root) (regular : entry.IsRegular)
    (new : entry.key ∉ recorded.map Entry.key) :
    difference? files root entry =
      some (.missing entry.package entry.fileName (destination root entry)) := by
  rw [difference?]
  split
  · rfl
  · next data held =>
    obtain ⟨-, stands⟩ := (file_destination_iff isRoot regular.isPlain).mp held
    obtain ⟨old, known, here⟩ := records.only (by simp [target]) stands
    have same := (target_eq_iff_key (records.regular old known) regular).mp here
    exact absurd (List.mem_map.mpr ⟨old, known, same⟩) new

theorem Records.difference?_eq_some_iff {files : FileSystem} {mismatch : Mismatch}
    (records : Records root recorded files) (isRoot : IsRoot root) (regular : entry.IsRegular)
    (fits : files.Admits (destination root entry)) :
    difference? files root entry = some mismatch ↔
      (entry.key ∉ recorded.map Entry.key ∧
        mismatch = .missing entry.package entry.fileName (destination root entry)) ∨
      ∃ old ∈ recorded, old.key = entry.key ∧ old.source ≠ entry.source ∧
        mismatch = .content (destination root entry) entry.source old.source := by
  constructor
  · intro differs
    by_cases known : entry.key ∈ recorded.map Entry.key
    · obtain ⟨old, member, same⟩ := List.mem_map.mp known
      rw [records.difference?_of_known isRoot regular fits member same] at differs
      split_ifs at differs with agree
      exact .inr ⟨old, member, same, agree, (Option.some.inj differs).symm⟩
    · rw [records.difference?_of_new isRoot regular known] at differs
      exact .inl ⟨known, (Option.some.inj differs).symm⟩
  · rintro (⟨new, rfl⟩ | ⟨old, member, same, changed, rfl⟩)
    · exact records.difference?_of_new isRoot regular new
    · rw [records.difference?_of_known isRoot regular fits member same, if_neg changed]

/-- The stale names of a package are those recorded for it that none of its entries has. -/
theorem Records.mem_staleNames_iff {files : FileSystem} {name : Text}
    (records : Records root recorded files) (isRoot : IsRoot root) (regular : entry.IsRegular) :
    name ∈ staleNames files (packageDirectory root entry.package) held ↔
      ∃ old ∈ recorded, old.package = entry.package ∧ old.fileName = name ∧
        ∀ entry ∈ held, entry.fileName ≠ name := by
  have filled := packageDirectory_ne_nil isRoot.filled regular.package
  have straight := isStraight_packageDirectory isRoot.straight regular.package
  rw [(areStale_staleNames records.proper filled straight held).mem_iff]
  constructor
  · rintro ⟨isName, -, ⟨-, data, stands⟩, unclaimed⟩
    rw [isAbsolute_packageDirectory root regular.package,
      names_packageDirectory root regular.package] at stands
    obtain ⟨old, known, here⟩ := records.only (by simp) stands
    have apart : segments old.package = segments entry.package ∧ old.fileName = name := by
      simpa [target, List.append_assoc] using here
    exact ⟨old, known, (segments_eq_iff (records.regular old known) regular).mp apart.1, apart.2,
      unclaimed⟩
  · rintro ⟨old, known, same, rfl, unclaimed⟩
    have plain := (records.regular old known).isPlain
    obtain ⟨executable, stands⟩ := records.stands old known
    refine ⟨plain.fileName, .inl (records.regular old known).ending, ?_, unclaimed⟩
    rw [← isFile_join_iff filled straight plain.fileName, ← same]
    exact isFile_iff.mpr ⟨_, (file_destination_iff isRoot plain).mpr
      ⟨records.fits old known, stands⟩⟩

theorem Records.mem_mapMismatches_iff {files : FileSystem} {mismatch : Mismatch}
    (records : Records root recorded files) (isRoot : IsRoot root)
    (regular : ∀ entry ∈ current, entry.IsRegular)
    (fits : ∀ entry ∈ current, files.Admits (destination root entry)) :
    mismatch ∈ mapMismatches files root (ofEntries current) ↔
      Drift root recorded current mismatch := by
  rw [Snapshot.mem_mapMismatches_iff]
  constructor
  · rintro ⟨group, grouped, ⟨entry, inside, differs⟩ | ⟨name, stale, rfl⟩⟩
    · have present := ((mem_group_iff grouped).mp inside).1
      rw [records.difference?_eq_some_iff isRoot (regular entry present) (fits entry present)]
        at differs
      rcases differs with ⟨new, rfl⟩ | ⟨old, known, same, changed, rfl⟩
      · exact .missing present new
      · exact .content present known same changed
    · obtain ⟨entry, inside⟩ := inhabited_group grouped
      obtain ⟨present, here⟩ := (mem_group_iff grouped).mp inside
      rw [← here, records.mem_staleNames_iff isRoot (regular entry present)] at stale
      obtain ⟨old, known, shared, rfl, unclaimed⟩ := stale
      rw [← here, ← shared]
      refine .stale known ⟨entry, present, shared.symm⟩ fun kept => ?_
      obtain ⟨other, present', same⟩ := List.mem_map.mp kept
      obtain ⟨samePackage, sameName⟩ := Prod.mk.inj same
      have inside' := (mem_group_iff grouped).mpr ⟨present', samePackage.trans (shared.trans here)⟩
      exact unclaimed other inside' sameName
  · intro drift
    cases drift with
    | @missing entry present new =>
        obtain ⟨group, grouped, -, inside⟩ := exists_group present
        refine ⟨group, grouped, .inl ⟨entry, inside, ?_⟩⟩
        exact (records.difference?_eq_some_iff isRoot (regular entry present)
          (fits entry present)).mpr (.inl ⟨new, rfl⟩)
    | @content entry old present known same changed =>
        obtain ⟨group, grouped, -, inside⟩ := exists_group present
        refine ⟨group, grouped, .inl ⟨entry, inside, ?_⟩⟩
        exact (records.difference?_eq_some_iff isRoot (regular entry present)
          (fits entry present)).mpr (.inr ⟨old, known, same, changed, rfl⟩)
    | @stale old known shared gone =>
        obtain ⟨entry, present, same⟩ := shared
        obtain ⟨group, grouped, here, -⟩ := exists_group present
        refine ⟨group, grouped, .inr ⟨old.fileName, ?_, ?_⟩⟩
        · rw [here, records.mem_staleNames_iff isRoot (regular entry present)]
          refine ⟨old, known, same.symm, rfl, fun other inside sameName => gone ?_⟩
          obtain ⟨present', here'⟩ := (mem_group_iff grouped).mp inside
          have samePackage := here'.trans (here.trans same)
          exact List.mem_map.mpr ⟨other, present', Prod.ext samePackage sameName⟩
        · rw [here, same]
          rfl

theorem not_drift_iff (distinct : (recorded.map Entry.key).Nodup) :
    (∀ mismatch, ¬ Drift root recorded current mismatch) ↔
      ∀ entry, entry ∈ current ↔
        entry ∈ recorded ∧ ∃ other ∈ current, other.package = entry.package := by
  constructor
  · intro none entry
    have recordedOf (other : Entry) (present : other ∈ current) : other ∈ recorded := by
      have known : other.key ∈ recorded.map Entry.key := by
        by_contra new
        exact none _ (.missing present new)
      obtain ⟨old, member, same⟩ := List.mem_map.mp known
      have agree : old.source = other.source := by
        by_contra changed
        exact none _ (.content present member same changed)
      obtain ⟨samePackage, sameName⟩ := Prod.mk.inj same
      have equal : old = other := by
        cases old
        cases other
        simp_all
      exact equal ▸ member
    constructor
    · exact fun present => ⟨recordedOf entry present, entry, present, rfl⟩
    · rintro ⟨known, shared⟩
      have kept : entry.key ∈ current.map Entry.key := by
        by_contra gone
        exact none _ (.stale known shared gone)
      obtain ⟨other, present, same⟩ := List.mem_map.mp kept
      exact List.inj_on_of_nodup_map distinct (recordedOf other present) known same ▸ present
  · intro restricted mismatch drift
    cases drift with
    | @missing entry present new =>
        exact new (List.mem_map_of_mem ((restricted entry).mp present).1)
    | @content entry old present known same changed =>
        have equal := List.inj_on_of_nodup_map distinct known ((restricted entry).mp present).1 same
        exact changed (congrArg Entry.source equal)
    | @stale old known shared gone =>
        exact gone (List.mem_map_of_mem ((restricted old).mpr ⟨known, shared⟩))

theorem verdict_eq_ok_iff {mismatches : List Mismatch} :
    verdict mismatches = .ok () ↔ mismatches = [] := by
  cases mismatches <;> simp [verdict]

theorem moving_of_named (regular : entry.IsRegular)
    (moving : entry.package = [] → (steps root).getLast? ≠ some .stay) :
    (steps (packageDirectory root entry.package)).getLast? ≠ some .stay := by
  by_cases bare : segments entry.package = []
  · rw [steps_packageDirectory_of_bare regular.package bare]
    exact moving ((segments_eq_nil_iff regular).mp bare)
  · exact getLast?_steps_packageDirectory regular.package bare

theorem isOpen_recorded {files : FileSystem} (isRoot : IsRoot root)
    (isVacant : IsVacant files root) (regular : ∀ entry ∈ recorded, entry.IsRegular)
    (fits : ∀ entry ∈ recorded, files.Admits (destination root entry))
    (moving : (steps root).getLast? = some .stay → ∀ entry ∈ recorded, entry.package ≠ [])
    {group : Text × List Entry} (grouped : group ∈ (ofEntries recorded).packages) :
    IsOpen files root group.1 group.2 where
  toIsClear := by
    obtain ⟨entry, inside⟩ := inhabited_group grouped
    exact isVacant.isClear isRoot
      (isGroup_of_mem (fun entry member => (regular entry member).isPlain) grouped)
      (List.ne_nil_of_mem inside)
      fun entry inside => fits entry ((mem_group_iff grouped).mp inside).1
  ending := by
    obtain ⟨entry, inside⟩ := inhabited_group grouped
    obtain ⟨member, here⟩ := (mem_group_iff grouped).mp inside
    rw [← here]
    exact .inl (moving_of_named (regular entry member)
      fun bare stays => moving stays entry member bare)

theorem generate_records (regular : ∀ entry ∈ recorded, entry.IsRegular)
    (distinct : (recorded.map Entry.key).Nodup) (isRoot : IsRoot root)
    (absent : before.files.node root = .error .absent) (proper : before.files.IsProper)
    (fits : ∀ entry ∈ recorded, before.files.Admits (destination root entry))
    (room : HasRoomFor before.files root recorded)
    (moving : (steps root).getLast? = some .stay → ∀ entry ∈ recorded, entry.package ≠ []) :
    ∃ after, reconcile (.generate root) (ofEntries recorded) before = .ok [] after ∧
      Records root recorded after.files := by
  have isVacant := isVacant_of_absent isRoot absent
  have grouped := fun group => @isGroup_of_mem recorded
    (fun entry member => (regular entry member).isPlain) group
  obtain ⟨after, generated⟩ := reconcileAll_generate_succeeds isRoot grouped
    (fun _ member => isOpen_recorded isRoot isVacant regular fits moving member)
    (hasRoomFor_packages_iff.mpr room) proper
  obtain ⟨-, generates⟩ := reconcileAll_generate_inversion isRoot grouped proper generated
  exact ⟨after, generated, generates.records isVacant regular distinct⟩

theorem isOpen_current (isRoot : IsRoot root) (isVacant : IsVacant before.files root)
    (recordedRegular : ∀ entry ∈ recorded, entry.IsRegular)
    (regular : ∀ entry ∈ current, entry.IsRegular)
    (fits : ∀ entry ∈ current, before.files.Admits (destination root entry))
    (moving : (steps root).getLast? = some .stay → recorded = [] →
      ∀ entry ∈ current, entry.package ≠ [])
    (generates : Generates root (ofEntries recorded).packages before middle)
    {group : Text × List Entry} (grouped : group ∈ (ofEntries current).packages) :
    IsOpen middle.files root group.1 group.2 where
  toIsClear := by
    obtain ⟨entry, inside⟩ := inhabited_group grouped
    have here := isGroup_of_mem (fun entry member => (regular entry member).isPlain) grouped
    have isClear := isVacant.isClear isRoot here (List.ne_nil_of_mem inside)
      fun entry inside => fits entry ((mem_group_iff grouped).mp inside).1
    refine isClear.built isRoot here generates.built fun location ground => ?_
    exact written_of_ground
      (fun entry listed => (recordedRegular entry (mem_entries_iff.mp listed)).isPlain) ground
  ending := by
    obtain ⟨entry, inside⟩ := inhabited_group grouped
    obtain ⟨present, here⟩ := (mem_group_iff grouped).mp inside
    rw [← here]
    by_cases moves : entry.package = [] → (steps root).getLast? ≠ some .stay
    · exact .inl (moving_of_named (regular entry present) moves)
    · push Not at moves
      obtain ⟨bare, stays⟩ := moves
      have inhabited : recorded ≠ [] := fun empty => moving stays empty entry present bare
      obtain ⟨old, known⟩ := List.exists_mem_of_ne_nil recorded inhabited
      obtain ⟨home, listed, same, -⟩ := exists_group known
      have isHome := same ▸ generates.homes home listed
      right
      rw [names_packageDirectory root (regular entry present).package,
        (segments_eq_nil_iff (regular entry present)).mpr bare, List.append_nil]
      exact isHome.root_stands (recordedRegular old known).package

/-- A snapshot of the recorded entries can be generated where nothing stands, and comparing the
current entries with it finds the drift between the two and nothing else.  The root must not end
in a step that stays if its own directory would have to be created first, no path may be too long
for the system, and there must be room for what is recorded. -/
theorem compare_finds_drift
    (recordedRegular : ∀ entry ∈ recorded, entry.IsRegular)
    (currentRegular : ∀ entry ∈ current, entry.IsRegular)
    (recordedDistinct : (recorded.map Entry.key).Nodup)
    (currentDistinct : (current.map Entry.key).Nodup)
    (filled : root ≠ []) (straight : root.IsStraight)
    (absent : before.files.node root = .error .absent) (proper : before.files.IsProper)
    (fits : ∀ entry ∈ recorded ++ current, before.files.Admits (destination root entry))
    (room : HasRoomFor before.files root recorded)
    (moving : (steps root).getLast? = some .stay →
      (∀ entry ∈ recorded, entry.package ≠ []) ∧
        (recorded = [] → ∀ entry ∈ current, entry.package ≠ [])) :
    ∃ middle, reconcile (.generate root) (ofEntries recorded) before = .ok [] middle ∧
      ∀ state : RunState σ, state.files = middle.files →
        ∃ mismatches after,
          reconcile (.compare root) (ofEntries current) state = .ok mismatches after ∧
          mismatches.Nodup ∧
          (∀ mismatch, mismatch ∈ mismatches ↔ Drift root recorded current mismatch) ∧
          (verdict mismatches = .ok () ↔
            ∀ entry, entry ∈ current ↔
              entry ∈ recorded ∧ ∃ other ∈ current, other.package = entry.package) := by
  have isRoot : IsRoot root := ⟨filled, straight⟩
  have isVacant := isVacant_of_absent isRoot absent
  obtain ⟨recordedFits, currentFits⟩ := List.forall_mem_append.mp fits
  have recordedGroups := fun group => @isGroup_of_mem recorded
    (fun entry member => (recordedRegular entry member).isPlain) group
  have currentGroups := fun group => @isGroup_of_mem current
    (fun entry member => (currentRegular entry member).isPlain) group
  obtain ⟨middle, generated⟩ := reconcileAll_generate_succeeds isRoot recordedGroups
    (fun _ grouped => isOpen_recorded isRoot isVacant recordedRegular recordedFits
      (fun stays => (moving stays).1) grouped)
    (hasRoomFor_packages_iff.mpr room) proper
  obtain ⟨-, generates⟩ := reconcileAll_generate_inversion isRoot recordedGroups proper generated
  have records := generates.records isVacant recordedRegular recordedDistinct
  refine ⟨middle, generated, fun state same => ?_⟩
  have properState : state.files.IsProper := same ▸ generates.proper
  obtain ⟨mismatches, after, ran⟩ := @reconcileAll_compare_succeeds _ state _ _ isRoot
    currentGroups (fun _ grouped => same ▸ isOpen_current isRoot isVacant recordedRegular
      currentRegular currentFits (fun stays => (moving stays).2) generates grouped) properState
  obtain ⟨exact, -, -⟩ :=
    reconcileAll_compare_inversion isRoot currentGroups properState (.refl state.files) ran
  rw [same] at exact
  have found (mismatch : Mismatch) :
      mismatch ∈ mismatches ↔ Drift root recorded current mismatch := by
    rw [exact]
    exact records.mem_mapMismatches_iff isRoot currentRegular
      fun entry present => generates.built.admits_iff.mpr (currentFits entry present)
  refine ⟨mismatches, after, ran, ?_, found, ?_⟩
  · rw [exact]
    exact nodup_mapMismatches isRoot generates.proper currentRegular currentDistinct
  · rw [verdict_eq_ok_iff, List.eq_nil_iff_forall_not_mem,
      ← @not_drift_iff root recorded current recordedDistinct]
    simp only [found]

def classEntry (package simple source : Text) : Entry :=
  ⟨package, simple ++ ".java".toList, source⟩

theorem isRegular_classEntry {simple : Text} (clean : Text.IsClean package)
    (segmented : package = [] ∨ ∀ segment ∈ package.splitOn '.', segment ≠ [])
    (filled : simple ≠ []) (undotted : '.' ∉ simple) (cleanName : Text.IsClean simple)
    (source : Text) : (classEntry package simple source).IsRegular :=
  ⟨clean, segmented, simple, filled, undotted, cleanName, rfl⟩

theorem compare_finds_drift_sample :
    let recorded := [classEntry "p".toList "A".toList "a\n".toList,
      classEntry "p".toList "B".toList "b\n".toList, classEntry "q".toList "C".toList "c\n".toList]
    let current := [classEntry "p".toList "A".toList "new\n".toList,
      classEntry "p".toList "D".toList "d\n".toList]
    ∃ middle mismatches after,
      reconcile (.generate "s".toList) (ofEntries recorded) ⟨{}, [], [], ()⟩ = .ok [] middle ∧
      reconcile (.compare "s".toList) (ofEntries current) middle = .ok mismatches after ∧
      ∀ mismatch, mismatch ∈ mismatches ↔ Drift "s".toList recorded current mismatch := by
  intro recorded current
  have regular : ∀ entry ∈ recorded ++ current, entry.IsRegular := by
    simp only [recorded, current, List.forall_mem_append, List.forall_mem_cons]
    refine ⟨⟨?_, ?_, ?_, by simp⟩, ?_, ?_, by simp⟩ <;>
      exact isRegular_classEntry (by decide) (.inr (by decide)) (by decide) (by decide)
        (by decide) _
  obtain ⟨recordedRegular, currentRegular⟩ := List.forall_mem_append.mp regular
  obtain ⟨middle, generated, finds⟩ := @compare_finds_drift Unit ⟨{}, [], [], ()⟩ "s".toList
    recorded current recordedRegular currentRegular (by decide) (by decide) (by decide)
    (by decide) rfl FileSystem.isProper_empty (by decide) (by decide) (by decide)
  obtain ⟨mismatches, after, ran, -, found, -⟩ := finds middle rfl
  exact ⟨middle, mismatches, after, generated, ran, found⟩

/-- The conditions on the root, on the lengths of paths and on the room cannot be done without. -/
theorem generate_fails_without_room :
    let below := classEntry [] "A".toList "a\n".toList
    let long := classEntry [] (List.replicate 251 'A') "a\n".toList
    let empty : FileSystem := {}
    let limited : FileSystem := { limits := { nameBytes := some 255 } }
    let cramped : FileSystem := { limits := { fileBytes := fun _ _ => some 1 } }
    (below.IsRegular ∧ IsStraight "x/.".toList ∧ empty.node "x/.".toList = .error .absent ∧
        ∃ after : RunState Unit,
          reconcile (.generate "x/.".toList) (ofEntries [below]) ⟨empty, [], [], ()⟩ =
            .error (.system .createDirectory "x/.".toList) after) ∧
      (cramped.node "x".toList = .error .absent ∧ ∃ after : RunState Unit,
        reconcile (.generate "x".toList) (ofEntries [below]) ⟨cramped, [], [], ()⟩ =
          .error (.system .writeFile "x/A.java".toList) after) ∧
      long.IsRegular ∧ IsStraight "x".toList ∧ limited.node "x".toList = .error .absent ∧
        ∀ found (after : RunState Unit),
          reconcile (.generate "x".toList) (ofEntries [long]) ⟨limited, [], [], ()⟩ ≠
            .ok found after := by
  intro below long empty limited cramped
  have onlyA {c : Char} (other : c ≠ 'A') : c ∉ List.replicate 251 'A' :=
    fun member => other (List.eq_of_mem_replicate member)
  have longRegular : long.IsRegular := isRegular_classEntry (by decide) (.inl rfl)
    (List.cons_ne_nil _ _) (onlyA (by decide)) ⟨onlyA (by decide), onlyA (by decide)⟩ _
  have belowRegular : below.IsRegular := isRegular_classEntry (by decide) (.inl rfl)
    (by decide) (by decide) (by decide) _
  refine ⟨⟨belowRegular, by decide, rfl, ⟨_, rfl⟩⟩, ⟨rfl, ⟨_, rfl⟩⟩,
    longRegular, by decide, rfl, ?_⟩
  intro found after generated
  have plain : ∀ entry ∈ [long], entry.IsPlain := by simpa using longRegular.isPlain
  obtain ⟨-, generates⟩ := reconcileAll_generate_inversion ⟨by decide, by decide⟩
    (fun _ => isGroup_of_mem plain) FileSystem.isProper_empty generated
  have admitted := generates.built.admits_iff.mp
    (generates.fits ([], [long]) List.mem_cons_self long List.mem_cons_self)
  have tooLong : ¬ limited.admitsName long.fileName = true := by decide +kernel
  apply tooLong
  refine admitted.2 (.into long.fileName) ?_
  rw [steps_destination longRegular.isPlain]
  exact List.mem_append_right _ List.mem_cons_self

end Snapshot

end ApiSurface
