import ApiSurface.Proofs.Action
import ApiSurface.Proofs.Snapshot.Layout

/-! What comparing one package finds, and what it does to the state.  The files it reads are those
it finds once the directory of the package is there. -/

namespace ApiSurface

def Mismatch.line (mismatch : Mismatch) : Text :=
  mismatch.render ++ ['\n']

namespace RunState

variable {σ : Type}

def reporting (state : RunState σ) (mismatches : List Mismatch) : RunState σ :=
  { state with
    report := state.report ++ mismatches.flatMap Mismatch.line
    log := state.log ++ mismatches.map fun mismatch => .mismatched mismatch.path }

@[simp] theorem files_reporting (state : RunState σ) (mismatches : List Mismatch) :
    (state.reporting mismatches).files = state.files := rfl

@[simp] theorem report_reporting (state : RunState σ) (mismatches : List Mismatch) :
    (state.reporting mismatches).report = state.report ++ mismatches.flatMap Mismatch.line :=
  rfl

@[simp] theorem reporting_nil (state : RunState σ) : state.reporting [] = state := by
  simp [reporting]

def noting (state : RunState σ) (event : Log.Event) : RunState σ :=
  { state with log := state.log ++ [event] }

theorem reporting_append (state : RunState σ) (mismatches later : List Mismatch) :
    state.reporting (mismatches ++ later) =
      (state.reporting mismatches).reporting later := by
  simp [reporting]

end RunState

namespace Snapshot

open ApiSurface.Path

variable {σ : Type} {state after : RunState σ} {root directory : Path} {package : Text}
  {entry : Entry} {entries : List Entry}

/-- How an entry differs from the file that should hold it. -/
def difference? (files : FileSystem) (root : Path) (entry : Entry) : Option Mismatch :=
  match files.file (destination root entry) with
  | .error _ => some (.missing entry.package entry.fileName (destination root entry))
  | .ok data =>
      if data.content = Utf8.encode entry.source then none
      else
        some (.content (destination root entry) entry.source (Utf8.decodeLossy data.content))

def unclaimed (entries : List Entry) (names : List Text) : List Text :=
  names.filter fun name => !entries.any fun entry => entry.fileName = name

def sourceNames (files : FileSystem) (directory : Path) (names : List Text) : List Text :=
  names.filter fun name => isSourceName name && files.isFile (join directory name)

def staleAt (directory : Path) (name : Text) : Mismatch :=
  .stale (join directory name)

theorem record_eq_ok_iff {mismatch found : Mismatch} :
    record mismatch state = .ok found after ↔
      found = mismatch ∧ after = state.reporting [mismatch] := by
  have recorded : record mismatch state = .ok mismatch
      { state with
        report := state.report ++ (mismatch.render ++ ['\n'])
        log := state.log ++ [.mismatched mismatch.path] } := rfl
  simp [recorded, RunState.reporting, Mismatch.line, @eq_comm _ mismatch, @eq_comm _ _ after]

private theorem bind_record_eq_ok_iff {mismatch : Mismatch} {found : Option Mismatch} :
    (record mismatch >>= fun found => pure (some found)) state = .ok found after ↔
      found = some mismatch ∧ after = state.reporting found.toList := by
  rw [Action.bind_eq_ok_iff]
  simp only [record_eq_ok_iff, Action.pure_eq_ok_iff]
  constructor
  · rintro ⟨_, _, ⟨rfl, rfl⟩, rfl, rfl⟩
    exact ⟨rfl, rfl⟩
  · rintro ⟨rfl, rfl⟩
    exact ⟨_, _, ⟨rfl, rfl⟩, rfl, rfl⟩

theorem compareEntry_eq_ok_iff {found : Option Mismatch} :
    compareEntry entry.package (packageDirectory root entry.package) entry state =
        .ok found after ↔
      state.files.file (destination root entry) ≠ .error .refused ∧
        found = difference? state.files root entry ∧
        after = state.reporting found.toList := by
  rw [compareEntry, Action.bind_eq_ok_iff]
  simp only [Action.ask?_eq_ok_iff, Option.exists]
  rw [difference?, destination]
  cases state.files.file (join (packageDirectory root entry.package) entry.fileName) with
  | error fault =>
      cases fault with
      | absent => simp [Action.Answers, bind_record_eq_ok_iff, -bind_pure_comp]
      | refused => simp [Action.Answers]
  | ok data =>
      by_cases same : data.content = Utf8.encode entry.source
      · simp +contextual [Action.Answers, same, Action.pure_eq_ok_iff]
      · simp [Action.Answers, same, bind_record_eq_ok_iff, -bind_pure_comp]

theorem compareEntries_eq_ok_iff {found : List Mismatch}
    (together : ∀ entry ∈ entries, entry.package = package) :
    compareEntries package (packageDirectory root package) entries state = .ok found after ↔
      (∀ entry ∈ entries, state.files.file (destination root entry) ≠ .error .refused) ∧
        found = entries.filterMap (difference? state.files root) ∧
        after = state.reporting found := by
  induction entries generalizing state after found with
  | nil => simp +contextual [compareEntries, Action.pure_eq_ok_iff]
  | cons entry entries induction =>
      obtain ⟨rfl, together⟩ := List.forall_mem_cons.mp together
      have joined (first : Option Mismatch) (later : List Mismatch) :
          (state.reporting first.toList).reporting later =
            state.reporting (first.toList ++ later) :=
        (state.reporting_append _ _).symm
      have split : (entry :: entries).filterMap (difference? state.files root) =
          (difference? state.files root entry).toList ++
            entries.filterMap (difference? state.files root) := by
        cases differs : difference? state.files root entry <;> simp [differs]
      simp only [compareEntries, Action.bind_eq_ok_iff, compareEntry_eq_ok_iff,
        induction together, Action.pure_eq_ok_iff, List.forall_mem_cons, split]
      constructor
      · rintro ⟨_, _, ⟨answered, rfl, rfl⟩, _, _, ⟨others, rfl, rfl⟩, rfl, rfl⟩
        exact ⟨⟨answered, others⟩, rfl, joined _ _⟩
      · rintro ⟨⟨answered, others⟩, rfl, rfl⟩
        exact ⟨_, _, ⟨answered, rfl, rfl⟩, _, _, ⟨others, rfl, rfl⟩, rfl, (joined _ _).symm⟩

theorem recordStale_eq_ok_iff {names : List Text} {found : List Mismatch} :
    recordStale directory names state = .ok found after ↔
      found = (sourceNames state.files directory names).map (staleAt directory) ∧
        after = state.reporting found := by
  induction names generalizing state after found with
  | nil => simp +contextual [recordStale, sourceNames, Action.pure_eq_ok_iff]
  | cons name names induction =>
      rw [recordStale, Action.bind_get]
      by_cases source : (isSourceName name && state.files.isFile (join directory name)) = true
      · have kept : sourceNames state.files directory (name :: names) =
            name :: sourceNames state.files directory names := List.filter_cons_of_pos source
        rw [kept, if_pos source]
        simp only [Action.bind_eq_ok_iff, record_eq_ok_iff, induction, Action.pure_eq_ok_iff]
        constructor
        · rintro ⟨_, _, ⟨rfl, rfl⟩, _, _, ⟨rfl, rfl⟩, rfl, rfl⟩
          exact ⟨rfl, (state.reporting_append [_] _).symm⟩
        · rintro ⟨rfl, rfl⟩
          exact ⟨_, _, ⟨rfl, rfl⟩, _, _, ⟨rfl, rfl⟩, rfl, state.reporting_append [_] _⟩
      · have dropped : sourceNames state.files directory (name :: names) =
            sourceNames state.files directory names := List.filter_cons_of_neg source
        rw [dropped, if_neg source]
        exact induction

theorem comparePackage_eq_ok_iff {found : List Mismatch}
    (together : ∀ entry ∈ entries, entry.package = package) :
    comparePackage package (packageDirectory root package) entries state = .ok found after ↔
      ∃ listed files,
        Action.Answers (state.files.list (packageDirectory root package)) listed ∧
        state.files.createDirectories (packageDirectory root package) = (.ok (), files) ∧
        (∀ entry ∈ entries, files.file (destination root entry) ≠ .error .refused) ∧
        found = entries.filterMap (difference? files root) ++
            (sourceNames files (packageDirectory root package)
              (unclaimed entries (listed.getD []))).map
                (staleAt (packageDirectory root package)) ∧
        after = (({ state with files } : RunState σ).reporting found).noting
          (.compared package entries.length found.length) := by
  simp only [comparePackage, Action.bind_eq_ok_iff, Action.ask?_eq_ok_iff,
    Action.createDirectories_eq_ok_iff, compareEntries_eq_ok_iff together,
    recordStale_eq_ok_iff, Action.note_eq_ok_iff, Action.pure_eq_ok_iff]
  constructor
  · rintro ⟨listed, _, ⟨answers, rfl⟩, _, _, ⟨files, created, rfl⟩, _, _, ⟨answered, rfl, rfl⟩,
      _, _, ⟨rfl, rfl⟩, _, _, ⟨-, rfl⟩, rfl, rfl⟩
    refine ⟨listed, files, answers, created, answered, rfl, ?_⟩
    rw [RunState.reporting_append]
    rfl
  · rintro ⟨listed, files, answers, created, answered, rfl, rfl⟩
    refine ⟨listed, _, ⟨answers, rfl⟩, (), _, ⟨files, created, rfl⟩, _, _, ⟨answered, rfl, rfl⟩,
      _, _, ⟨rfl, rfl⟩, (), _, ⟨trivial, rfl⟩, rfl, ?_⟩
    rw [RunState.reporting_append]
    rfl

theorem recordStale_ne_error {names : List Text} {failure : Failure} :
    recordStale directory names state ≠ .error failure after := by
  intro failed
  have ran := (@recordStale_eq_ok_iff _ state _ directory names _).mpr ⟨rfl, rfl⟩
  rw [ran] at failed
  cases failed

/-- A comparison of a package can fail at its directory, which is listed and then created, and at
the files of its entries. -/
theorem comparePackage_eq_error_iff {failure : Failure} :
    comparePackage package directory entries state = .error failure after ↔
      (state.files.list directory = .error .refused ∧
        failure = .system .listDirectory directory ∧ after = state) ∨
      state.files.list directory ≠ .error .refused ∧ ∃ files,
        ((∃ fault, state.files.createDirectories directory = (.error fault, files)) ∧
          failure = .system .createDirectory directory ∧ after = { state with files }) ∨
        (state.files.createDirectories directory = (.ok (), files) ∧
          compareEntries package directory entries { state with files } =
            .error failure after) := by
  have answers : (∃ listed, Action.Answers (state.files.list directory) listed) ↔
      state.files.list directory ≠ .error .refused := by
    cases state.files.list directory with
    | ok names => simp [Option.exists, Action.Answers]
    | error fault => cases fault <;> simp [Option.exists, Action.Answers]
  have pure_ne (found : List Mismatch) (middle : RunState σ) :
      (pure found : Action σ _) middle ≠ .error failure after := fun same => by cases same
  have note_ne (event : Log.Event) (middle : RunState σ) :
      Action.note event middle ≠ .error failure after := fun same => by cases same
  simp only [comparePackage, Action.bind_eq_error_iff, Action.ask?_eq_error_iff,
    Action.ask?_eq_ok_iff, Action.createDirectories_eq_error_iff,
    Action.createDirectories_eq_ok_iff, recordStale_ne_error, note_ne, pure_ne, and_false,
    exists_false, or_false, ← answers]
  constructor
  · rintro (refused | ⟨listed, middle, ⟨answered, rfl⟩, ⟨fault, files, failed, rfl, rfl⟩ |
      ⟨-, _, ⟨files, created, rfl⟩, failed⟩⟩)
    · exact .inl refused
    · exact .inr ⟨⟨listed, answered⟩, files, .inl ⟨⟨fault, failed⟩, rfl, rfl⟩⟩
    · exact .inr ⟨⟨listed, answered⟩, files, .inr ⟨created, failed⟩⟩
  · rintro (refused | ⟨⟨listed, answered⟩, files, ⟨⟨fault, failed⟩, rfl, rfl⟩ |
      ⟨created, failed⟩⟩)
    · exact .inl refused
    · exact .inr ⟨listed, state, ⟨answered, rfl⟩, .inl ⟨fault, files, failed, rfl, rfl⟩⟩
    · exact .inr ⟨listed, state, ⟨answered, rfl⟩, .inr ⟨(), _, ⟨files, created, rfl⟩, failed⟩⟩

theorem reconcileAll_compare_cons (root : Path) (group : Text × List Entry)
    (groups : List (Text × List Entry)) :
    (reconcileAll (.compare root) (group :: groups) : Action σ (List Mismatch)) =
      comparePackage group.1 (packageDirectory root group.1) group.2 >>= fun found =>
        reconcileAll (.compare root) groups >>= fun later => pure (found ++ later) := rfl

end Snapshot

end ApiSurface
