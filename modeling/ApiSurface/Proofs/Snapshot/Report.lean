import ApiSurface.Proofs.Effect
import ApiSurface.Proofs.Snapshot.Comparison
import ApiSurface.Proofs.Snapshot.Generation
import ApiSurface.Proofs.Snapshot.StableOrder

/-! What reconciling writes to the report.  A comparison may stop on the way, and then the report
holds what it had recorded by then. -/

namespace ApiSurface

namespace Snapshot

open ApiSurface.Path PackageMap ApiSurface.Action

variable {σ : Type} {state before after : RunState σ} {root directory : Path} {package : Text}
  {entry : Entry} {entries seen compared : List Entry} {groups : List (Text × List Entry)}
  {failure : Failure} {found recorded : List Mismatch}

/-- A line of the names of an entry, and its source, which ends its last line. -/
def printed (entry : Entry) : Text :=
  "-- package: ".toList ++ entry.package ++ ", name: ".toList ++ entry.fileName ++ ['\n']
    ++ entry.source ++ if entry.source.getLast? = some '\n' then [] else ['\n']

theorem printEntry_eq (entry : Entry) (state : RunState σ) :
    printEntry entry state = .ok () { state with report := state.report ++ printed entry } := by
  unfold printEntry printed
  rw [bind_write, bind_write]
  by_cases ended : entry.source.getLast? = some '\n'
  · simp only [ended, ne_eq, not_true_eq_false, if_false, if_true, List.append_assoc,
      List.append_nil]
    rfl
  · simp only [ended, ne_eq, not_false_eq_true, if_false, if_true, List.append_assoc, write_apply]

theorem forM_printEntry_eq (entries : List Entry) (state : RunState σ) :
    entries.forM printEntry state =
      .ok () { state with report := state.report ++ entries.flatMap printed } := by
  induction entries generalizing state with
  | nil =>
      rw [List.flatMap_nil, List.append_nil]
      rfl
  | cons entry entries induction =>
      refine forM_cons_eq_ok_iff.mpr ⟨_, printEntry_eq entry state, ?_⟩
      rw [induction, List.flatMap_cons, ← List.append_assoc]

theorem reconcileAll_print_eq (groups : List (Text × List Entry)) (state : RunState σ) :
    reconcileAll .print groups state =
      .ok [] { state with
        report := state.report ++ (groups.flatMap Prod.snd).flatMap printed } := by
  induction groups generalizing state with
  | nil =>
      rw [List.flatMap_nil, List.flatMap_nil, List.append_nil]
      rfl
  | cons group groups induction =>
      rw [List.flatMap_cons, List.flatMap_append, ← List.append_assoc]
      have first : reconcilePackage .print group.1 group.2 state = .ok []
          { state with report := state.report ++ group.2.flatMap printed } :=
        bind_of_ok _ (forM_printEntry_eq group.2 state)
      exact (bind_of_ok _ first).trans (bind_of_ok _ (induction _))

abbrev KeepsReport {α : Type} (text : Text) (action : Action σ α) : Prop :=
  Preserves (fun state => state.report = text) action

theorem generatePackage_keepsReport (directory : Path) (entries : List Entry) (text : Text) :
    KeepsReport text (generatePackage directory entries : Action σ Unit) := by
  have created : KeepsReport text (createDirectories directory : Action σ Unit) :=
    .createDirectories fun _ => id
  have wrote (entry : Entry) :
      KeepsReport text (generateEntry directory entry : Action σ Unit) :=
    .writeFile fun _ same => same
  have noted (event : Log.Event) : KeepsReport text (note event : Action σ Unit) :=
    fun _ => id
  exact created.bind fun _ => (Preserves.forM fun entry _ => wrote entry).bind fun _ => noted _

theorem reconcileAll_generate_keepsReport (root : Path) (groups : List (Text × List Entry))
    (text : Text) :
    KeepsReport text (reconcileAll (.generate root) groups : Action σ (List Mismatch)) := by
  induction groups with
  | nil => exact .pure []
  | cons group groups induction =>
      have first : KeepsReport text
          (reconcilePackage (.generate root) group.1 group.2 : Action σ (List Mismatch)) :=
        (generatePackage_keepsReport _ group.2 text).bind fun _ => .pure []
      exact first.bind fun _ => induction.bind fun _ => .pure _

/-- The entries of a package are those of that name. -/
def Together (groups : List (Text × List Entry)) : Prop :=
  ∀ group ∈ groups, ∀ entry ∈ group.2, entry.package = group.1

theorem together_ofEntries (entries : List Entry) : Together (ofEntries entries).packages := by
  intro group grouped entry member
  exact ((mem_group_iff grouped).mp member).2

theorem compareEntry_eq_error_iff :
    compareEntry package directory entry state = .error failure after ↔
      state.files.file (join directory entry.fileName) = .error .refused ∧
        failure = .system .readFile (join directory entry.fileName) ∧ after = state := by
  rw [compareEntry, bind_eq_error_iff, ask?_eq_error_iff]
  refine or_iff_left ?_
  rintro ⟨existing, middle, -, failed⟩
  -- To record a mismatch cannot fail.
  cases existing with
  | none => cases bind_pure_eq_error_iff.mp failed
  | some data =>
      dsimp only at failed
      split_ifs at failed
      · cases failed
      · cases bind_pure_eq_error_iff.mp failed

theorem compareEntries_stops (together : ∀ entry ∈ entries, entry.package = package)
    (failed : compareEntries package (packageDirectory root package) entries state =
      .error failure after) :
    ∃ seen entry unseen, entries = seen ++ entry :: unseen ∧
      (∀ earlier ∈ seen, state.files.file (destination root earlier) ≠ .error .refused) ∧
      state.files.file (destination root entry) = .error .refused ∧
      failure = .system .readFile (destination root entry) ∧
      after = state.reporting (seen.filterMap (difference? state.files root)) := by
  induction entries generalizing state with
  | nil => cases failed
  | cons entry entries induction =>
      obtain ⟨rfl, together⟩ := List.forall_mem_cons.mp together
      rw [compareEntries, bind_eq_error_iff] at failed
      rcases failed with here | ⟨first, middle, ran, later⟩
      · obtain ⟨refused, rfl, rfl⟩ := compareEntry_eq_error_iff.mp here
        exact ⟨[], entry, entries, rfl, by simp, refused, rfl, by simp⟩
      · obtain ⟨answered, rfl, rfl⟩ := compareEntry_eq_ok_iff.mp ran
        have stopped := bind_pure_eq_error_iff.mp later
        obtain ⟨seen, last, unseen, rfl, others, refused, rfl, rfl⟩ :=
          induction together stopped
        refine ⟨entry :: seen, last, unseen, rfl, ?_, refused, rfl, ?_⟩
        · exact List.forall_mem_cons.mpr ⟨answered, others⟩
        · rw [RunState.files_reporting, ← RunState.reporting_append]
          congr 1
          cases differs : difference? state.files root entry <;> simp [differs]

/-- Where comparing a package stops, with the entries compared and the mismatches recorded by
then.  Its stale files are not looked for before all its entries are compared. -/
inductive StopsIn (root : Path) (package : Text) (entries : List Entry) (state : RunState σ) :
    Failure → RunState σ → List Entry → List Mismatch → Prop
  | listing
      (refused : state.files.list (packageDirectory root package) = .error .refused) :
      StopsIn root package entries state
        (.system .listDirectory (packageDirectory root package)) state [] []
  | creating {fault : FileSystem.Fault} {files : FileSystem}
      (listed : state.files.list (packageDirectory root package) ≠ .error .refused)
      (refused : state.files.createDirectories (packageDirectory root package) =
        (.error fault, files)) :
      StopsIn root package entries state
        (.system .createDirectory (packageDirectory root package)) { state with files } [] []
  | reading {files : FileSystem} {seen unseen : List Entry} {entry : Entry}
      (split : entries = seen ++ entry :: unseen)
      (listed : state.files.list (packageDirectory root package) ≠ .error .refused)
      (created : state.files.createDirectories (packageDirectory root package) = (.ok (), files))
      (answered : ∀ earlier ∈ seen, files.file (destination root earlier) ≠ .error .refused)
      (refused : files.file (destination root entry) = .error .refused) :
      StopsIn root package entries state (.system .readFile (destination root entry))
        (({ state with files } : RunState σ).reporting
          (seen.filterMap (difference? files root)))
        seen (seen.filterMap (difference? files root))

/-- Where a comparison stops: the packages before that one went through. -/
inductive StopsAt (root : Path) (before : RunState σ) :
    List (Text × List Entry) → Failure → RunState σ → List Entry → List Mismatch → Prop
  | within {done rest : List (Text × List Entry)} {package : Text} {entries seen : List Entry}
      {found more : List Mismatch} {middle after : RunState σ} {failure : Failure}
      (ran : reconcileAll (.compare root) done before = .ok found middle)
      (stops : StopsIn root package entries middle failure after seen more) :
      StopsAt root before (done ++ (package, entries) :: rest) failure after
        (done.flatMap Prod.snd ++ seen) (found ++ more)

theorem comparePackage_stops (together : ∀ entry ∈ entries, entry.package = package)
    (failed : comparePackage package (packageDirectory root package) entries state =
      .error failure after) :
    ∃ seen recorded, StopsIn root package entries state failure after seen recorded := by
  rcases comparePackage_eq_error_iff.mp failed with
    ⟨refused, rfl, rfl⟩ | ⟨listed, files, ⟨⟨fault, halted⟩, rfl, rfl⟩ | ⟨created, stopped⟩⟩
  · exact ⟨[], [], .listing refused⟩
  · exact ⟨[], [], .creating listed halted⟩
  · obtain ⟨seen, entry, unseen, split, answered, refused, rfl, rfl⟩ :=
      compareEntries_stops together stopped
    exact ⟨seen, _, .reading split listed created answered refused⟩

theorem StopsIn.report (stops : StopsIn root package entries state failure after seen recorded) :
    after.report = state.report ++ recorded.flatMap Mismatch.line := by
  cases stops with
  | listing => simp
  | creating => simp
  | reading => rfl

theorem StopsAt.cons {group : Text × List Entry} {middle : RunState σ}
    (ran : comparePackage group.1 (packageDirectory root group.1) group.2 before =
      .ok found middle)
    (stops : StopsAt root middle groups failure after compared recorded) :
    StopsAt root before (group :: groups) failure after (group.2 ++ compared)
      (found ++ recorded) := by
  cases stops with
  | @within done rest package entries seen more later last _ _ through within =>
      have extended : reconcileAll (.compare root) (group :: done) before =
          .ok (found ++ more) last := by
        rw [reconcileAll_compare_cons, bind_of_ok _ ran, bind_of_ok _ through]
        rfl
      rw [← List.append_assoc, ← List.append_assoc, ← List.flatMap_cons]
      exact .within extended within

theorem reconcileAll_compare_stops (together : Together groups)
    (failed : reconcileAll (.compare root) groups before = .error failure after) :
    ∃ compared recorded, StopsAt root before groups failure after compared recorded := by
  induction groups generalizing before with
  | nil => cases failed
  | cons group groups induction =>
      obtain ⟨here, others⟩ := List.forall_mem_cons.mp together
      rw [reconcileAll_compare_cons, bind_eq_error_iff] at failed
      rcases failed with first | ⟨found, middle, ran, later⟩
      · obtain ⟨seen, recorded, stops⟩ := comparePackage_stops here first
        have stopsFirst : StopsAt root before ([] ++ (group.1, group.2) :: groups) failure after
            ([] ++ seen) ([] ++ recorded) := .within rfl stops
        exact ⟨seen, recorded, stopsFirst⟩
      · have stopped := bind_pure_eq_error_iff.mp later
        obtain ⟨compared, recorded, stops⟩ := induction others stopped
        exact ⟨_, _, stops.cons ran⟩

/-- What a comparison has compared and recorded when it is over, whether it went through or not. -/
inductive Compares (root : Path) (before : RunState σ) (groups : List (Text × List Entry)) :
    List Entry → List Mismatch → Prop
  | through {found : List Mismatch} {after : RunState σ}
      (ran : reconcileAll (.compare root) groups before = .ok found after) :
      Compares root before groups (groups.flatMap Prod.snd) found
  | stopped {failure : Failure} {after : RunState σ} {compared : List Entry}
      {recorded : List Mismatch}
      (failed : reconcileAll (.compare root) groups before = .error failure after)
      (stops : StopsAt root before groups failure after compared recorded) :
      Compares root before groups compared recorded

theorem exists_compares (together : Together groups) :
    ∃ compared recorded, Compares root before groups compared recorded := by
  cases ended : reconcileAll (.compare root) groups before with
  | ok found after => exact ⟨_, _, .through ended⟩
  | error failure after =>
      obtain ⟨compared, recorded, stops⟩ := reconcileAll_compare_stops together ended
      exact ⟨compared, recorded, .stopped ended stops⟩

theorem comparePackage_reports (together : ∀ entry ∈ entries, entry.package = package)
    (ran : comparePackage package (packageDirectory root package) entries state =
      .ok found after) : after.report = state.report ++ found.flatMap Mismatch.line := by
  obtain ⟨_, _, -, -, -, -, rfl⟩ := (comparePackage_eq_ok_iff together).mp ran
  rfl

theorem reconcileAll_compare_reports (together : Together groups)
    (ran : reconcileAll (.compare root) groups state = .ok found after) :
    after.report = state.report ++ found.flatMap Mismatch.line := by
  induction groups generalizing state found with
  | nil =>
      obtain ⟨rfl, rfl⟩ := pure_eq_ok_iff.mp ran
      simp
  | cons group groups induction =>
      obtain ⟨here, others⟩ := List.forall_mem_cons.mp together
      simp only [reconcileAll_compare_cons, bind_eq_ok_iff, pure_eq_ok_iff] at ran
      obtain ⟨found, middle, first, later, last, rest, rfl, rfl⟩ := ran
      rw [induction others rest, comparePackage_reports here first, List.flatMap_append,
        List.append_assoc]

theorem StopsAt.report (together : Together groups)
    (stops : StopsAt root before groups failure after compared recorded) :
    after.report = before.report ++ recorded.flatMap Mismatch.line := by
  cases stops with
  | within ran stops =>
      have through := reconcileAll_compare_reports
        (fun group member => together group (List.mem_append_left _ member)) ran
      rw [stops.report, through, List.flatMap_append, List.append_assoc]

theorem Compares.report (together : Together groups)
    (compares : Compares root before groups compared recorded) :
    ((reconcileAll (.compare root) groups).final before).report =
      before.report ++ recorded.flatMap Mismatch.line := by
  cases compares with
  | through ran =>
      rw [final_of_ok ran]
      exact reconcileAll_compare_reports together ran
  | stopped failed stops =>
      rw [final_of_error failed]
      exact stops.report together

/-- The report agrees with the result: what is printed is the entries in order, to generate is to
report nothing, and a comparison reports each mismatch that it finds, in order.  One that fails has
reported those of the packages and entries before the step that failed. -/
theorem report_agrees (entries : List Entry) (root : Path) (before : RunState σ) :
    reconcile .print (ofEntries entries) before =
        .ok [] { before with
          report := before.report ++ (entries.mergeSort isInOrder).flatMap printed } ∧
      ((reconcile (.generate root) (ofEntries entries)).final before).report = before.report ∧
      (∀ found after, reconcile (.generate root) (ofEntries entries) before = .ok found after →
        found = []) ∧
      (∀ found after, reconcile (.compare root) (ofEntries entries) before = .ok found after →
        after.report = before.report ++ found.flatMap Mismatch.line) ∧
      ∀ failure after,
        reconcile (.compare root) (ofEntries entries) before = .error failure after →
        ∃ compared recorded,
          StopsAt root before (ofEntries entries).packages failure after compared recorded ∧
          after.report = before.report ++ recorded.flatMap Mismatch.line := by
  have together := together_ofEntries entries
  refine ⟨?_, ?_, ?_, ?_, ?_⟩
  · rw [← entries_eq_mergeSort]
    exact reconcileAll_print_eq (ofEntries entries).packages before
  · exact reconcileAll_generate_keepsReport root (ofEntries entries).packages before.report rfl
  · exact fun found after ran => reconcileAll_generate_finds ran
  · exact fun found after ran => reconcileAll_compare_reports together ran
  · intro failure after failed
    obtain ⟨compared, recorded, stops⟩ := reconcileAll_compare_stops together failed
    exact ⟨compared, recorded, stops, stops.report together⟩

/-- The first entry is missing, and there is a directory where the second one should be. -/
theorem report_agrees_sample :
    let entries : List Entry := [⟨"p".toList, "A.java".toList, "a\n".toList⟩,
      ⟨"p".toList, "B.java".toList, "b".toList⟩]
    let before : RunState Unit :=
      ⟨(FileSystem.createDirectories {} "s/p/B.java".toList).2, [], [], ()⟩
    let compare : Action Unit (List Mismatch) := reconcile (.compare "s".toList) (ofEntries entries)
    (∃ after, reconcile .print (ofEntries entries) before = .ok [] after ∧
      after.report = "-- package: p, name: A.java\na\n-- package: p, name: B.java\nb\n".toList) ∧
    ∃ after compared recorded,
      compare before = .error (.system .readFile "s/p/B.java".toList) after ∧
      StopsAt "s".toList before (ofEntries entries).packages
        (.system .readFile "s/p/B.java".toList) after compared recorded ∧
      after.report = recorded.flatMap Mismatch.line ∧
      after.report = "Missing target: p.A.java\n".toList := by
  intro entries before compare
  obtain ⟨shown, -, -, -, stopped⟩ := report_agrees entries "s".toList before
  constructor
  · refine ⟨_, shown, ?_⟩
    rw [← final_of_ok shown]
    decide +kernel
  · obtain ⟨after, failed⟩ : ∃ after,
        compare before = .error (.system .readFile "s/p/B.java".toList) after :=
      answer_eq_error_iff.mp (by decide +kernel)
    obtain ⟨compared, recorded, stops, reported⟩ := stopped _ _ failed
    refine ⟨after, compared, recorded, failed, stops, reported, ?_⟩
    rw [← final_of_error failed]
    decide +kernel

end Snapshot

end ApiSurface
