import ApiSurface.Proofs.Snapshot.Openness
import ApiSurface.Proofs.Snapshot.StaleNames

/-! A comparison creates directories while it goes on, yet what it finds is what its first files
say. -/

namespace ApiSurface

namespace Snapshot

open ApiSurface.Path FileSystem

variable {σ : Type} {state after : RunState σ} {root : Path} {package : Text} {entry : Entry}
  {entries : List Entry} {start files : FileSystem}

/-- Everything that a comparison finds in one package. -/
def packageMismatches (files : FileSystem) (root : Path) (package : Text)
    (entries : List Entry) : List Mismatch :=
  entries.filterMap (difference? files root) ++
    (staleNames files (packageDirectory root package) entries).map
      (staleAt (packageDirectory root package))

def mapMismatches (files : FileSystem) (root : Path) (map : PackageMap) : List Mismatch :=
  map.packages.flatMap fun group => packageMismatches files root group.1 group.2

theorem mem_mapMismatches_iff {files : FileSystem} {map : PackageMap} {mismatch : Mismatch} :
    mismatch ∈ mapMismatches files root map ↔
      ∃ group ∈ map.packages,
        (∃ entry ∈ group.2, difference? files root entry = some mismatch) ∨
        ∃ name ∈ staleNames files (packageDirectory root group.1) group.2,
          staleAt (packageDirectory root group.1) name = mismatch := by
  simp only [mapMismatches, packageMismatches, List.mem_flatMap, List.mem_append,
    List.mem_filterMap, List.mem_map]

/-- A path at which there is a regular file or nothing at all. -/
def Answered (files : FileSystem) (path : Path) : Prop :=
  files.node path = .error .absent ∨ ∃ data, files.node path = .ok (.file data)

theorem difference?_of_source {source : Text} {executable : Bool} (isRoot : IsRoot root)
    (plain : entry.IsPlain) (fits : files.Admits (destination root entry))
    (stands : files.kind? root.isAbsolute (target root entry) =
      some (.file ⟨Utf8.encode source, executable⟩)) :
    difference? files root entry =
      if source = entry.source then none
      else some (.content (destination root entry) entry.source source) := by
  rw [difference?, (file_destination_iff isRoot plain).mpr ⟨fits, stands⟩]
  simp only [Utf8.encode_inj, Utf8.decodeLossy_encode]

theorem difference?_of_grown (isRoot : IsRoot root) (plain : entry.IsPlain)
    (grown : Grown root start files) (isHome : IsHome files root entry.package)
    (answered : files.file (destination root entry) ≠ .error .refused) :
    difference? files root entry = difference? start root entry ∧
      Answered start (destination root entry) := by
  have top := isAbsolute_packageDirectory root plain.package
  have straight := isStraight_packageDirectory isRoot.straight plain.package
  have filled := packageDirectory_ne_nil isRoot.filled plain.package
  obtain ⟨located, stands⟩ := isHome
  rw [Grown, Built, ← top] at grown
  rw [← top] at stands
  have admitted := admits_of_file_join plain.fileName located stands answered
  have held := file_join_eq plain.fileName located stands admitted
  cases found : files.kind? (isAbsolute (packageDirectory root entry.package))
      (names (packageDirectory root entry.package) ++ [entry.fileName]) with
  | none =>
      have missing : start.node (destination root entry) = .error .absent :=
        grown.node_join_of_vacant straight plain.fileName located stands admitted found
      rw [found] at held
      refine ⟨?_, .inl missing⟩
      rw [difference?, difference?, file_eq_absent_iff.mpr missing, destination, held]
  | some kind =>
      rw [found] at held
      cases kind with
      | directory => exact absurd held answered
      | file data =>
          have kept : start.file (destination root entry) = .ok data :=
            (grown.file_join_iff filled straight plain.fileName rfl).mp held
          refine ⟨?_, .inr ⟨data, node_eq_ok_file_iff.mpr kept⟩⟩
          rw [difference?, difference?, kept, destination, held]

theorem staleNames_of_grown (isRoot : IsRoot root) (group : IsGroup package entries)
    (proper : state.files.IsProper) (grown : Grown root start state.files)
    (later : Grown root state.files files) {listed : Option (List Text)}
    (answers : Action.Answers (state.files.list (packageDirectory root package)) listed) :
    sourceNames files (packageDirectory root package) (unclaimed entries (listed.getD [])) =
      staleNames start (packageDirectory root package) entries := by
  have filled := packageDirectory_ne_nil isRoot.filled group.clean
  have straight := isStraight_packageDirectory isRoot.straight group.clean
  rw [Grown, Built, ← isAbsolute_packageDirectory root group.clean] at grown later
  have asked : listed = (state.files.list (packageDirectory root package)).toOption := by
    cases listed with
    | none => exact (congrArg Except.toOption answers).symm
    | some names => exact (congrArg Except.toOption answers).symm
  have areNames (name : Text) (member : name ∈ listed.getD []) : IsName name := by
    cases listed with
    | none => simp at member
    | some names =>
        obtain ⟨_, -, -, -, mem_iff⟩ := list_eq_ok answers
        exact proper _ _ ((mem_iff name).mp member) name (by simp)
  calc
    sourceNames files (packageDirectory root package) (unclaimed entries (listed.getD []))
        = staleNames state.files (packageDirectory root package) entries := by
      rw [staleNames, ← asked]
      refine List.filter_congr fun name member => ?_
      rw [later.isFile_join filled straight (areNames name (List.mem_filter.mp member).1) rfl]
    _ = staleNames start (packageDirectory root package) entries :=
      ((areStale_staleNames proper filled straight entries).congr fun name isName => by
        rw [← isFile_join_iff filled straight isName, ← isFile_join_iff filled straight isName,
          grown.isFile_join filled straight isName rfl]).unique
          (areStale_staleNames (proper.before grown) filled straight entries)

theorem comparePackage_inversion {found : List Mismatch} (isRoot : IsRoot root)
    (group : IsGroup package entries) (proper : state.files.IsProper)
    (grown : Grown root start state.files)
    (ran : comparePackage package (packageDirectory root package) entries state =
      .ok found after) :
    found = packageMismatches start root package entries ∧
      (∀ entry ∈ entries, Answered start (destination root entry)) ∧
      after.files.IsProper ∧ Grown root start after.files ∧
      after.report = state.report ++ found.flatMap Mismatch.line := by
  obtain ⟨listed, files, answers, created, answered, rfl, rfl⟩ :=
    (comparePackage_eq_ok_iff group.together).mp ran
  obtain ⟨later, isHome⟩ := built_of_created isRoot group.clean created
  have grownLater : Grown root start files := grown.trans later
  have kept (entry : Entry) (member : entry ∈ entries) :
      difference? files root entry = difference? start root entry ∧
        Answered start (destination root entry) := by
    have same := group.together entry member
    exact difference?_of_grown isRoot (group.plain entry member) grownLater
      (same.symm ▸ isHome) (answered entry member)
  have properLater : files.IsProper := by
    have := proper.createDirectories (packageDirectory root package)
    rwa [created] at this
  refine ⟨?_, fun entry member => (kept entry member).2, properLater, grownLater, rfl⟩
  rw [packageMismatches, List.filterMap_congr fun entry member => (kept entry member).1,
    staleNames_of_grown isRoot group proper grown later answers]

theorem reconcileAll_compare_inversion {groups : List (Text × List Entry)}
    {mismatches : List Mismatch} (isRoot : IsRoot root)
    (grouped : ∀ group ∈ groups, IsGroup group.1 group.2) (proper : state.files.IsProper)
    (grown : Grown root start state.files)
    (ran : reconcileAll (.compare root) groups state = .ok mismatches after) :
    mismatches = (groups.flatMap fun group => packageMismatches start root group.1 group.2) ∧
      (∀ group ∈ groups, ∀ entry ∈ group.2, Answered start (destination root entry)) ∧
      after.report = state.report ++ mismatches.flatMap Mismatch.line := by
  induction groups generalizing state mismatches with
  | nil =>
      obtain ⟨rfl, rfl⟩ := Action.pure_eq_ok_iff.mp ran
      simp
  | cons group groups induction =>
      obtain ⟨package, entries⟩ := group
      obtain ⟨here, others⟩ := List.forall_mem_cons.mp grouped
      simp only [reconcileAll, reconcilePackage, Action.bind_eq_ok_iff,
        Action.pure_eq_ok_iff] at ran
      obtain ⟨found, middle, first, later, last, rest, rfl, rfl⟩ := ran
      obtain ⟨rfl, answered, properMiddle, grownMiddle, reported⟩ :=
        comparePackage_inversion isRoot here proper grown first
      obtain ⟨rfl, answeredLater, reportedLater⟩ :=
        induction others properMiddle grownMiddle rest
      refine ⟨rfl, List.forall_mem_cons.mpr ⟨answered, answeredLater⟩, ?_⟩
      rw [reportedLater, reported, List.flatMap_append, List.append_assoc]

theorem comparePackage_opens {found : List Mismatch} (isRoot : IsRoot root)
    (group : IsGroup package entries)
    (ran : comparePackage package (packageDirectory root package) entries state =
      .ok found after) : IsOpen after.files root package entries := by
  obtain ⟨listed, files, -, created, answered, -, rfl⟩ :=
    (comparePackage_eq_ok_iff group.together).mp ran
  obtain ⟨-, isHome⟩ := built_of_created isRoot group.clean created
  have top := isAbsolute_packageDirectory root group.clean
  have held (entry : Entry) (member : entry ∈ entries) :
      files.Admits (destination root entry) ∧
        files.kind? root.isAbsolute (target root entry) ≠ some .directory := by
    have plain := group.plain entry member
    have legible := answered entry member
    obtain rfl := group.together entry member
    have stands := top ▸ isHome.stands
    have admitted := admits_of_file_join plain.fileName isHome.located stands legible
    refine ⟨admitted, fun directory => legible ?_⟩
    rw [← names_destination plain, destination, names_join _ plain.fileName, ← top] at directory
    rw [destination, file_join_eq plain.fileName isHome.located stands admitted, directory]
  exact isHome.isOpen isRoot group.clean (fun entry member => (held entry member).1)
    fun entry member => (held entry member).2

theorem isHome_of_compared {found : List Mismatch} (isRoot : IsRoot root)
    (group : IsGroup package entries)
    (ran : comparePackage package (packageDirectory root package) entries state =
      .ok found after) : IsHome after.files root package := by
  obtain ⟨_, _, -, created, -, -, rfl⟩ := (comparePackage_eq_ok_iff group.together).mp ran
  exact (built_of_created isRoot group.clean created).2

theorem IsOpen.lists (isOpen : IsOpen start root package entries)
    (clean : Text.IsClean package) :
    ∃ listed, Action.Answers (start.list (packageDirectory root package)) listed := by
  have top := isAbsolute_packageDirectory root clean
  have clear := isOpen.clear
  rw [← top] at clear
  cases located : start.locate (packageDirectory root package) with
  | error fault =>
      cases fault with
      | absent => exact ⟨none, by simp [Action.Answers, list, node, located]⟩
      | refused =>
          refine absurd located (locate_ne_refused isOpen.admitted ?_)
          exact fun start member => clear start (mem_trail.mpr (.inl member))
  | ok location =>
      have reached : location = reach [] (steps (packageDirectory root package)) :=
        (locate_eq_ok_iff.mp located).2.1
      cases found : start.kind? (isAbsolute (packageDirectory root package)) location with
      | none =>
          have missing := node_eq_absent_iff.mpr (.inr ⟨location, located, found⟩)
          exact ⟨none, by simp [Action.Answers, list, missing]⟩
      | some kind =>
          cases kind with
          | file data =>
              exact absurd found (clear _ (reached ▸ reach_mem_trail _ _) data)
          | directory =>
              obtain ⟨names, listed⟩ := list_of_directory located found
              exact ⟨some names, listed⟩

theorem comparePackage_succeeds (isRoot : IsRoot root) (group : IsGroup package entries)
    (isOpen : IsOpen state.files root package entries) :
    ∃ found after, comparePackage package (packageDirectory root package) entries state =
      .ok found after := by
  obtain ⟨listed, answers⟩ := isOpen.lists group.clean
  obtain ⟨files, created⟩ := isOpen.creates isRoot group.clean
  obtain ⟨grown, located, stands⟩ := built_of_created isRoot group.clean created
  have later := isOpen.built isRoot group grown fun _ _ => rfl
  have answered (entry : Entry) (member : entry ∈ entries) :
      files.file (destination root entry) ≠ .error .refused := by
    have plain := group.plain entry member
    obtain rfl := group.together entry member
    have free := later.free entry member
    rw [← isAbsolute_packageDirectory root group.clean] at stands free
    rw [← names_destination plain, destination, names_join _ plain.fileName] at free
    rw [destination, file_join_eq plain.fileName located stands (later.fits entry member)]
    split
    · simp
    · next directory => exact absurd directory free
    · simp
  exact ⟨_, _, (comparePackage_eq_ok_iff group.together).mpr
    ⟨listed, files, answers, created, answered, rfl, rfl⟩⟩

theorem reconcileAll_compare_succeeds {groups : List (Text × List Entry)}
    (isRoot : IsRoot root) (grouped : ∀ group ∈ groups, IsGroup group.1 group.2)
    (isOpen : ∀ group ∈ groups, IsOpen state.files root group.1 group.2)
    (proper : state.files.IsProper) :
    ∃ mismatches after, reconcileAll (.compare root) groups state = .ok mismatches after := by
  induction groups generalizing state with
  | nil => exact ⟨_, _, Action.pure_eq_ok_iff.mpr ⟨rfl, rfl⟩⟩
  | cons group groups induction =>
      obtain ⟨package, entries⟩ := group
      obtain ⟨here, others⟩ := List.forall_mem_cons.mp grouped
      obtain ⟨openHere, openOthers⟩ := List.forall_mem_cons.mp isOpen
      obtain ⟨found, middle, first⟩ := comparePackage_succeeds isRoot here openHere
      obtain ⟨-, -, properMiddle, grown, -⟩ :=
        comparePackage_inversion isRoot here proper (.refl state.files) first
      obtain ⟨later, after, rest⟩ := induction others
        (fun group member =>
          (openOthers group member).built isRoot (others group member) grown fun _ _ => rfl)
        properMiddle
      refine ⟨found ++ later, after, ?_⟩
      simp only [reconcileAll, reconcilePackage, Action.bind_eq_ok_iff, Action.pure_eq_ok_iff]
      exact ⟨found, middle, first, later, after, rest, rfl, rfl⟩

end Snapshot

end ApiSurface
