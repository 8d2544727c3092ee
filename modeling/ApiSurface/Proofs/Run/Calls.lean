import ApiSurface.Proofs.Run.Library
import ApiSurface.Proofs.Run.Transcript
import ApiSurface.Proofs.Snapshot.Lockstep

/-! The calls of a disassembler in the course of a run.  A disassembler is watched by writing down
each call next to what the disassembler keeps, which the rest of a run never looks at. -/

namespace ApiSurface

/-- What a disassembler is asked, and the files and the report as it finds them. -/
structure Call where
  jar : Path
  classes : List Text
  files : FileSystem
  report : Text

namespace RunState

variable {σ : Type}

def watching (state : RunState σ) (calls : List Call) : RunState (σ × List Call) :=
  ⟨state.files, state.report, state.log, (state.disassembler, calls)⟩

def unwatched (state : RunState (σ × List Call)) : RunState σ :=
  ⟨state.files, state.report, state.log, state.disassembler.1⟩

/-- States that agree on all but the calls written down. -/
abbrev Watches (state : RunState (σ × List Call)) (state' : RunState σ) : Prop :=
  Agree (fun kept kept' => kept.1 = kept') state state'

theorem Watches.unwatched {state : RunState (σ × List Call)} {state' : RunState σ}
    (watches : state.Watches state') : state.unwatched = state' := by
  rw [RunState.unwatched, watches.files, watches.report, watches.log, watches.kept]

theorem watches_watching (state : RunState σ) (calls : List Call) :
    (state.watching calls).Watches state :=
  ⟨rfl, rfl, rfl, rfl⟩

/-- States that agree on all but that these calls are written down in one of them. -/
abbrev Carries (calls : List Call) (state : RunState (σ × List Call)) (state' : RunState σ) :
    Prop :=
  Agree (fun kept kept' => kept = (kept', calls)) state state'

theorem Carries.eq_watching {calls : List Call} {state : RunState (σ × List Call)}
    {state' : RunState σ} (carries : Carries calls state state') :
    state = state'.watching calls := by
  rw [RunState.watching, ← carries.files, ← carries.report, ← carries.log, ← carries.kept]

theorem carries_watching (state : RunState σ) (calls : List Call) :
    Carries calls (state.watching calls) state :=
  ⟨rfl, rfl, rfl, rfl⟩

end RunState

namespace Extraction

open ApiSurface.Action RunState

variable {σ τ : Type} {own : σ → τ → Prop} {states : RunState σ → RunState τ → Prop}
  {failures : Failure → Failure → Prop} {disassemble : Disassembler σ}
  {disassemble' : Disassembler τ} {jar jar' scratch : Path} {config : RunConfig}

theorem disassembleAll_parallel
    (note : ∀ event, Parallel states failures (note event) (note event))
    (prints : ∀ classes, Parallel states failures (disassemble jar classes)
      (disassemble' jar' classes)) (index : Nat) (all : List (List Text)) :
    Parallel states failures (disassembleAll disassemble jar index all)
      (disassembleAll disassemble' jar' index all) := by
  induction all generalizing index with
  | nil => exact .pure []
  | cons batch rest induction =>
      refine (prints batch).bind fun raw => (note _).bind fun _ => ?_
      exact (induction (index + 1)).bind fun later => .pure _

theorem packageMap_matches [Archive.Reader] {state : RunState σ} {state' : RunState τ}
    (listing : Matches states failures (Library.listClasses jar state)
      (Library.listClasses jar' state'))
    (listed : ∀ count, Parallel states failures (note (.listed jar count))
      (note (.listed jar' count)))
    (note : ∀ event, Parallel states failures (note event) (note event))
    (prints : ∀ classes, Parallel states failures (disassemble jar classes)
      (disassemble' jar' classes)) (batchSize : Nat) :
    Matches states failures (packageMap disassemble jar batchSize state)
      (packageMap disassemble' jar' batchSize state') := by
  refine listing.bind fun {classes _ _} _ _ left => ?_
  refine (listed classes.length).bind (fun _ => ?_) left
  exact (disassembleAll_parallel note prints 0 _).bind fun found => .pure _

theorem packageMap_agree [Archive.Reader]
    (prints : ∀ classes, Parallel (Agree own) Eq (disassemble jar classes)
      (disassemble' jar classes)) (batchSize : Nat) :
    Parallel (Agree own) Eq (packageMap disassemble jar batchSize)
      (packageMap disassemble' jar batchSize) :=
  fun _ _ agree => packageMap_matches (Library.listClasses_agree jar agree)
    (fun _ => note_agree _) note_agree prints batchSize

/-- What is left of a run once it has its entries. -/
def finish (config : RunConfig) (map : PackageMap) : Action σ (List Mismatch) := do
  if map.isEmpty then note (.nothingFound config.source)
  note (.extracted map.packageCount map.entryCount)
  Snapshot.reconcile config.mode map

theorem run_eq [Archive.Reader] (config : RunConfig) (disassemble : Disassembler σ)
    (scratch : Path) :
    run config disassemble scratch =
      Library.withJar config.kind config.source scratch fun jar =>
        packageMap disassemble jar config.batchSize >>= finish config :=
  rfl

theorem finish_parallel {config' : RunConfig} {paths : Path → Prop} {map : PackageMap}
    (lockstep : Snapshot.Lockstep states paths) (mode : config.mode = config'.mode)
    (nothing : Parallel states Eq (note (.nothingFound config.source))
      (note (.nothingFound config'.source)))
    (known : ∀ path ∈ Snapshot.touched config.mode map.packages, paths path) :
    Parallel states Eq (finish config map) (finish config' map) := by
  have reconciled := lockstep.reconcile known
  unfold finish
  rw [← mode]
  split_ifs
  · exact nothing.bind fun _ => (lockstep.note _).bind fun _ => reconciled
  · exact (Parallel.pure _).bind fun _ => (lockstep.note _).bind fun _ => reconciled

theorem disassembler_final_finish (config : RunConfig) (map : PackageMap) (state : RunState σ) :
    ((finish config map).final state).disassembler = state.disassembler := by
  have parallel : Parallel (Agree fun kept (_ : Unit) => kept = state.disassembler) Eq
      (finish config map) (finish config map) :=
    finish_parallel Snapshot.lockstep_agree rfl (note_agree _) fun _ _ => trivial
  have agree : Agree (fun kept (_ : Unit) => kept = state.disassembler) state
      ⟨state.files, state.report, state.log, ()⟩ := ⟨rfl, rfl, rfl, rfl⟩
  exact (parallel agree).final.kept

theorem run_agree [Archive.Reader]
    (prints : ∀ jar classes, Parallel (Agree own) Eq (disassemble jar classes)
      (disassemble' jar classes)) (config : RunConfig) (scratch : Path) :
    Parallel (Agree own) Eq (run config disassemble scratch)
      (run config disassemble' scratch) := by
  refine Library.withJar_agree fun jar => ?_
  refine (packageMap_agree (prints jar) config.batchSize).bind fun map => ?_
  exact finish_parallel Snapshot.lockstep_agree rfl (note_agree _) fun _ _ => trivial

def watched (disassemble : Disassembler σ) : Disassembler (σ × List Call) :=
  fun jar classes state =>
    let calls := state.disassembler.2 ++ [⟨jar, classes, state.files, state.report⟩]
    match disassemble jar classes state.unwatched with
    | .ok text after => .ok text (after.watching calls)
    | .error failure after => .error failure (after.watching calls)

theorem final_watched (disassemble : Disassembler σ) (jar : Path) (classes : List Text)
    (state : RunState (σ × List Call)) :
    (watched disassemble jar classes).final state =
      ((disassemble jar classes).final state.unwatched).watching
        (state.disassembler.2 ++ [⟨jar, classes, state.files, state.report⟩]) := by
  unfold Action.final watched
  cases disassemble jar classes state.unwatched <;> rfl

/-- The calls that a run makes, the one that fails included. -/
def calls [Archive.Reader] (config : RunConfig) (disassemble : Disassembler σ) (scratch : Path)
    (before : RunState σ) : List Call :=
  ((run config (watched disassemble) scratch).final (before.watching [])).disassembler.2

theorem watched_agree (disassemble : Disassembler σ) (jar : Path) (classes : List Text) :
    Parallel Watches Eq (watched disassemble jar classes) (disassemble jar classes) := by
  intro state state' watches
  unfold watched
  rw [watches.unwatched]
  cases disassemble jar classes state' with
  | ok text after => exact .ok text (after.watches_watching _)
  | error failure after => exact .error rfl (after.watches_watching _)

theorem run_watched [Archive.Reader] (config : RunConfig) (disassemble : Disassembler σ)
    (scratch : Path) (before : RunState σ) :
    (run config (watched disassemble) scratch).answer (before.watching []) =
        (run config disassemble scratch).answer before ∧
      ((run config (watched disassemble) scratch).final (before.watching [])).unwatched =
        (run config disassemble scratch).final before := by
  have outcomes := run_agree (watched_agree disassemble) config scratch
    (before.watches_watching [])
  refine ⟨?_, Watches.unwatched outcomes.final⟩
  unfold Action.answer
  rcases matches_iff.mp outcomes with
    ⟨value, _, _, ran, ran', -⟩ | ⟨failure, _, _, _, failed, failed', rfl, -⟩
  · rw [ran, ran']
  · rw [failed, failed']

/-- Whatever does not look at what the disassembler keeps does the same next to any calls. -/
theorem watching_of_carries {α : Type} {action : Action (σ × List Call) α} {action' : Action σ α}
    {calls : List Call} (parallel : Parallel (Carries calls) Eq action action')
    (state : RunState σ) :
    action (state.watching calls) =
      match action' state with
      | .ok value after => .ok value (after.watching calls)
      | .error failure after => .error failure (after.watching calls) := by
  rcases matches_iff.mp (parallel (state.carries_watching calls)) with
    ⟨value, after, after', ran, ran', left⟩ |
    ⟨failure, _, after, after', failed, failed', rfl, left⟩
  · rw [ran, ran', Carries.eq_watching left]
  · rw [failed, failed', Carries.eq_watching left]

end Extraction

end ApiSurface
