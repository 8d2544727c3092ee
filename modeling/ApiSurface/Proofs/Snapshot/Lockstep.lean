import ApiSurface.Proofs.Correspondence
import ApiSurface.Proofs.Snapshot.Comparison

/-! Reconciling one map from two states that correspond.  If the operations that reconciling is made
of come out alike on the paths that it uses, so does all of it. -/

namespace ApiSurface

namespace Snapshot

open ApiSurface.Path ApiSurface.Action

variable {σ τ : Type} {states : RunState σ → RunState τ → Prop} {paths : Path → Prop}
  {directory : Path} {package : Text} {entries : List Entry} {state : RunState σ}
  {state' : RunState τ}

/-- The paths that reconciling uses: the directories of packages and the files of entries. -/
def touched (mode : Mode) (groups : List (Text × List Entry)) : List Path :=
  match mode with
  | .print => []
  | .generate root | .compare root => groups.flatMap fun group =>
      packageDirectory root group.1 ::
        group.2.map fun entry => join (packageDirectory root group.1) entry.fileName

theorem touched_cons (mode : Mode) (group : Text × List Entry)
    (groups : List (Text × List Entry)) :
    touched mode (group :: groups) = touched mode [group] ++ touched mode groups := by
  cases mode <;> simp [touched]

/-- Two lists of names that stand for the same source files of a directory, whenever these are
looked at. -/
def NamedAlike (states : RunState σ → RunState τ → Prop) (directory : Path)
    (names names' : List Text) : Prop :=
  ∀ ⦃state state'⦄, states state state' →
    sourceNames state.files directory names = sourceNames state'.files directory names'

theorem NamedAlike.unclaimed {names names' : List Text}
    (alike : NamedAlike states directory names names') :
    NamedAlike states directory (unclaimed entries names) (unclaimed entries names') := by
  intro state state' together
  have swap (files : FileSystem) (names : List Text) :
      sourceNames files directory (Snapshot.unclaimed entries names) =
        Snapshot.unclaimed entries (sourceNames files directory names) := by
    simp only [sourceNames, Snapshot.unclaimed, List.filter_filter, Bool.and_comm]
  rw [swap, swap, alike together]

/-- States on which the operations come out alike, if their paths are among some. -/
structure Lockstep (states : RunState σ → RunState τ → Prop) (paths : Path → Prop) : Prop where
  note : ∀ event, Parallel states Eq (Action.note event) (Action.note event)
  write : ∀ text, Parallel states Eq (Action.write text) (Action.write text)
  file : ∀ ⦃path⦄, paths path → ∀ ⦃state state'⦄, states state state' →
    state.files.file path = state'.files.file path
  list : ∀ ⦃path⦄, paths path → ∀ ⦃state state'⦄, states state state' →
    (state.files.list path = .error .refused ∧ state'.files.list path = .error .refused) ∨
      ∃ listed listed', Answers (state.files.list path) listed ∧
        Answers (state'.files.list path) listed' ∧
        NamedAlike states path (listed.getD []) (listed'.getD [])
  createDirectories : ∀ ⦃path⦄, paths path →
    Parallel states Eq (Action.createDirectories path) (Action.createDirectories path)
  writeFile : ∀ ⦃path⦄, paths path → ∀ failure content,
    Parallel states Eq (Action.writeFile failure path content)
      (Action.writeFile failure path content)

namespace Lockstep

variable (lockstep : Lockstep states paths)

include lockstep

theorem printEntry (entry : Entry) :
    Parallel states Eq (printEntry entry) (printEntry entry) := by
  refine (lockstep.write _).bind fun _ => (lockstep.write _).bind fun _ => ?_
  split_ifs
  · exact lockstep.write _
  · exact .pure ()

theorem generatePackage (known : paths directory)
    (knownFiles : ∀ entry ∈ entries, paths (join directory entry.fileName)) :
    Parallel states Eq (generatePackage directory entries) (generatePackage directory entries) := by
  refine (lockstep.createDirectories known).bind fun _ => ?_
  refine (Parallel.forM fun entry member => ?_).bind fun _ => lockstep.note _
  exact lockstep.writeFile (knownFiles entry member) _ _

theorem record (mismatch : Mismatch) :
    Parallel states Eq (record mismatch) (record mismatch) :=
  (lockstep.note _).bind fun _ => (lockstep.write _).bind fun _ => .pure mismatch

theorem reporting (together : states state state') (mismatches : List Mismatch) :
    states (state.reporting mismatches) (state'.reporting mismatches) := by
  induction mismatches generalizing state state' with
  | nil => simpa using together
  | cons mismatch mismatches induction =>
      have here := (lockstep.record mismatch together).final
      rw [final_of_ok (record_eq_ok_iff.mpr ⟨rfl, rfl⟩),
        final_of_ok (record_eq_ok_iff.mpr ⟨rfl, rfl⟩)] at here
      have later := induction here
      rw [← RunState.reporting_append, ← RunState.reporting_append] at later
      exact later

theorem compareEntry {entry : Entry} (known : paths (join directory entry.fileName)) :
    Parallel states Eq (compareEntry package directory entry)
      (compareEntry package directory entry) := by
  refine Parallel.bind (Parallel.ask? rfl fun _ _ together => lockstep.file known together)
    fun existing => ?_
  cases existing with
  | none => exact (lockstep.record _).bind fun _ => .pure _
  | some data =>
      dsimp only
      split_ifs
      · exact .pure none
      · exact (lockstep.record _).bind fun _ => .pure _

theorem compareEntries (known : ∀ entry ∈ entries, paths (join directory entry.fileName)) :
    Parallel states Eq (compareEntries package directory entries)
      (compareEntries package directory entries) := by
  induction entries with
  | nil => exact .pure []
  | cons entry entries induction =>
      obtain ⟨here, others⟩ := List.forall_mem_cons.mp known
      exact (lockstep.compareEntry here).bind fun _ => (induction others).bind fun _ => .pure _

theorem recordStale {names names' : List Text} (alike : NamedAlike states directory names names') :
    Parallel states Eq (recordStale directory names) (recordStale directory names') := by
  intro state state' together
  rw [recordStale_eq_ok_iff.mpr ⟨rfl, rfl⟩, recordStale_eq_ok_iff.mpr ⟨rfl, rfl⟩, alike together]
  exact .ok _ (lockstep.reporting together _)

theorem comparePackage (known : paths directory)
    (knownFiles : ∀ entry ∈ entries, paths (join directory entry.fileName)) :
    Parallel states Eq (comparePackage package directory entries)
      (comparePackage package directory entries) := by
  refine Parallel.ask?_bind
    (fun listed listed' => NamedAlike states directory (listed.getD []) (listed'.getD []))
    rfl (fun _ _ together => lockstep.list known together) fun listed listed' alike => ?_
  refine (lockstep.createDirectories known).bind fun _ => ?_
  refine (lockstep.compareEntries knownFiles).bind fun found => ?_
  exact (lockstep.recordStale alike.unclaimed).bind fun stale =>
    (lockstep.note _).bind fun _ => .pure _

theorem reconcilePackage {mode : Mode} {group : Text × List Entry}
    (known : ∀ path ∈ touched mode [group], paths path) :
    Parallel states Eq (reconcilePackage mode group.1 group.2)
      (reconcilePackage mode group.1 group.2) := by
  cases mode with
  | print => exact (Parallel.forM fun entry _ => lockstep.printEntry entry).bind fun _ => .pure []
  | generate root =>
      simp only [touched, List.flatMap_singleton, List.forall_mem_cons, List.forall_mem_map]
        at known
      exact (lockstep.generatePackage known.1 known.2).bind fun _ => .pure []
  | compare root =>
      simp only [touched, List.flatMap_singleton, List.forall_mem_cons, List.forall_mem_map]
        at known
      exact lockstep.comparePackage known.1 known.2

theorem reconcileAll {mode : Mode} {groups : List (Text × List Entry)}
    (known : ∀ path ∈ touched mode groups, paths path) :
    Parallel states Eq (reconcileAll mode groups) (reconcileAll mode groups) := by
  induction groups with
  | nil => exact .pure []
  | cons group groups induction =>
      rw [touched_cons] at known
      obtain ⟨here, others⟩ := List.forall_mem_append.mp known
      exact (lockstep.reconcilePackage here).bind fun _ => (induction others).bind fun _ => .pure _

theorem reconcile {mode : Mode} {map : PackageMap}
    (known : ∀ path ∈ touched mode map.packages, paths path) :
    Parallel states Eq (reconcile mode map) (reconcile mode map) :=
  lockstep.reconcileAll known

end Lockstep

theorem lockstep_agree {own : σ → τ → Prop} :
    Lockstep (RunState.Agree own) fun _ => True where
  note := note_agree
  write := write_agree
  file := fun path _ _ _ agree => congrArg (·.file path) agree.files
  list := by
    intro path _ state state' agree
    have alike (names : List Text) : NamedAlike (RunState.Agree own) path names names :=
      fun _ _ later => congrArg (sourceNames · path names) later.files
    rw [agree.files]
    cases state'.files.list path with
    | ok names => exact .inr ⟨some names, some names, rfl, rfl, alike names⟩
    | error fault =>
        cases fault with
        | absent => exact .inr ⟨none, none, rfl, rfl, alike []⟩
        | refused => exact .inl ⟨rfl, rfl⟩
  createDirectories := fun path _ => createDirectories_agree path
  writeFile := fun path _ failure content => writeFile_agree failure path content

end Snapshot

end ApiSurface
