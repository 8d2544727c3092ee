import ApiSurface.Proofs.Run.Calls
import ApiSurface.Proofs.Run.ClassFiles

/-! Runs that fail before there is anything to reconcile.  Nothing is left of them, and whatever a
disassembler is asked in any run, it is asked before the run has changed anything. -/

namespace ApiSurface

open FileSystem RunState

namespace Extraction

open ApiSurface.Action

variable {σ : Type} {config : RunConfig} {disassemble : Disassembler σ} {scratch jar : Path}
  {before middle known reached last : RunState σ} {failure : Failure} {batch : List Text}
  {front back asked : List (List Text)} {texts : List Text} {classes : List Text}

def IsQuiet (disassemble : Disassembler σ) : Prop :=
  ∀ jar classes state, ((disassemble jar classes).final state).files = state.files ∧
    ((disassemble jar classes).final state).report = state.report

/-- The jar of a run is at hand: it is the input, or it was unpacked. -/
inductive Prepared [Archive.Reader] (config : RunConfig) (scratch : Path) (before : RunState σ) :
    Path → RunState σ → Prop where
  | jar (kind : config.kind = .jar) : Prepared config scratch before config.source before
  | aar {made : FileSystem} {jar : Path} {unpacked : RunState σ} (kind : config.kind = .aar)
      (created : before.files.createDirectory scratch = .ok made)
      (extracted : Library.extractInnerJar config.source scratch { before with files := made } =
        .ok jar unpacked) :
      Prepared config scratch before jar (unpacked.noting (.unpacked config.source jar))

/-- A run fails before it reconciles anything: for which reason, what its disassembler has been
asked by then, and in which state. -/
inductive BreaksOff [Archive.Reader] (config : RunConfig) (disassemble : Disassembler σ)
    (scratch : Path) (before : RunState σ) : Failure → List (List Text) → RunState σ → Prop where
  | scratch {fault : Fault} (kind : config.kind = .aar)
      (refused : before.files.createDirectory scratch = .error fault) :
      BreaksOff config disassemble scratch before (.system .createScratch scratch) [] before
  | unpacking {made : FileSystem} {failure : Failure} {last : RunState σ}
      (kind : config.kind = .aar) (created : before.files.createDirectory scratch = .ok made)
      (failed : Library.extractInnerJar config.source scratch { before with files := made } =
        .error failure last) :
      BreaksOff config disassemble scratch before failure [] last
  | listing {jar : Path} {middle last : RunState σ} {failure : Failure}
      (prepared : Prepared config scratch before jar middle)
      (failed : Library.listClasses jar middle = .error failure last) :
      BreaksOff config disassemble scratch before failure [] last
  | call {jar : Path} {middle known reached last : RunState σ} {failure : Failure}
      {classes texts batch : List Text} {front back : List (List Text)}
      (prepared : Prepared config scratch before jar middle)
      (listed : Library.listClasses jar middle = .ok classes known)
      (split : batches config.batchSize classes = front ++ batch :: back)
      (printed : transcript disassemble jar 0 front (known.noting (.listed jar classes.length)) =
        .ok texts reached)
      (failed : disassemble jar batch reached = .error failure last) :
      BreaksOff config disassemble scratch before failure (front ++ [batch]) last

theorem disassembleAll_of_failed_call {index : Nat}
    (printed : transcript disassemble jar index front middle = .ok texts reached)
    (failed : disassemble jar batch reached = .error failure last) :
    disassembleAll disassemble jar index (front ++ batch :: back) middle =
      .error failure last := by
  have broken : transcript disassemble jar (index + front.length) (batch :: back) reached =
      .error failure last := bind_of_error _ failed
  rw [disassembleAll_eq_transcript, transcript_append]
  exact bind_of_error _ ((bind_of_ok _ printed).trans (bind_of_error _ broken))

theorem packageMap_of_failed_call [Archive.Reader] {batchSize : Nat}
    (listed : Library.listClasses jar middle = .ok classes known)
    (split : batches batchSize classes = front ++ batch :: back)
    (printed : transcript disassemble jar 0 front (known.noting (.listed jar classes.length)) =
      .ok texts reached)
    (failed : disassemble jar batch reached = .error failure last) :
    packageMap disassemble jar batchSize middle = .error failure last := by
  have ended : entries disassemble jar classes batchSize
      (known.noting (.listed jar classes.length)) = .error failure last := by
    rw [entries, split]
    exact disassembleAll_of_failed_call printed failed
  rw [packageMap, bind_of_ok _ listed]
  exact (bind_of_ok _ rfl).trans (bind_of_error _ ended)

theorem unpacking_leaves [Archive.Reader] (source : Path) {made : FileSystem}
    (created : before.files.createDirectory scratch = .ok made) :
    let after := (Library.extractInnerJar source scratch).final { before with files := made }
    Beside scratch after.files before.files ∧ after.report = before.report ∧
      after.disassembler = before.disassembler :=
  Library.extractInnerJar_leaves source (Beside.of_created created :
    Beside scratch ({ before with files := made } : RunState σ).files before.files)

theorem Prepared.report_eq [Archive.Reader] (prepared : Prepared config scratch before jar middle) :
    middle.report = before.report := by
  cases prepared with
  | jar kind => rfl
  | aar kind created extracted =>
      obtain ⟨-, report, -⟩ := unpacking_leaves config.source created
      rw [final_of_ok extracted] at report
      exact report

theorem run_of_failed_packageMap [Archive.Reader]
    (prepared : Prepared config scratch before jar middle)
    (failed : packageMap disassemble jar config.batchSize middle = .error failure last)
    (same : last.files = middle.files) :
    run config disassemble scratch before =
      .error failure { last with files := before.files } := by
  have ended : (packageMap disassemble jar config.batchSize >>= finish config) middle =
      .error failure last := bind_of_error _ failed
  rw [run_eq]
  cases prepared with
  | jar kind =>
      rw [kind, ← same]
      exact ended
  | aar kind created extracted =>
      obtain ⟨beside, -⟩ := unpacking_leaves config.source created
      rw [final_of_ok extracted] at beside
      rw [kind]
      refine withScratch_of_error created
        ((bind_of_ok _ extracted).trans ((bind_of_ok _ rfl).trans ended)) ?_
      rw [same]
      exact beside.remove

theorem IsQuiet.preserves (quiet : IsQuiet disassemble) (files : FileSystem) (report : Text)
    (jar : Path) (classes : List Text) :
    Preserves (fun state => state.files = files ∧ state.report = report)
      (disassemble jar classes) := by
  rintro state ⟨rfl, rfl⟩
  exact quiet jar classes state

theorem run_of_breaksOff [Archive.Reader] (quiet : IsQuiet disassemble)
    (breaks : BreaksOff config disassemble scratch before failure asked last) :
    run config disassemble scratch before =
        .error failure { last with files := before.files } ∧
      last.report = before.report := by
  cases breaks with
  | scratch kind refused =>
      rw [run_eq, kind]
      exact ⟨withScratch_of_refused _ refused, rfl⟩
  | unpacking kind created failed =>
      obtain ⟨beside, report, -⟩ := unpacking_leaves config.source created
      rw [final_of_error failed] at beside report
      rw [run_eq, kind]
      exact ⟨withScratch_of_error created (bind_of_error _ failed) beside.remove, report⟩
  | @listing jar middle _ _ prepared failed =>
      obtain rfl : last = middle := by
        rw [← Library.final_listClasses jar middle, final_of_error failed]
      exact ⟨run_of_failed_packageMap prepared (bind_of_error _ failed) rfl, prepared.report_eq⟩
  | @call jar middle known _ _ _ classes _ batch front _ prepared listed split printed failed =>
      obtain rfl : known = middle := by
        rw [← Library.final_listClasses jar middle, final_of_ok listed]
      have start : (known.noting (.listed jar classes.length)).files = known.files ∧
          (known.noting (.listed jar classes.length)).report = known.report := ⟨rfl, rfl⟩
      have before := transcript_preserves (fun event _ holds => holds)
        (quiet.preserves known.files known.report jar) 0 front start
      rw [final_of_ok printed] at before
      have after := quiet.preserves known.files known.report jar batch before
      rw [final_of_error failed] at after
      exact ⟨run_of_failed_packageMap prepared
        (packageMap_of_failed_call listed split printed failed) after.1,
        after.2.trans prepared.report_eq⟩

theorem Prepared.watching [Archive.Reader] (prepared : Prepared config scratch before jar middle)
    (calls : List Call) :
    Prepared config scratch (before.watching calls) jar (middle.watching calls) := by
  cases prepared with
  | jar kind => exact .jar kind
  | @aar made _ unpacked kind created extracted =>
      have same := watching_of_carries
        (Library.extractInnerJar_agree config.source scratch : Parallel (Carries calls) Eq _ _)
        { before with files := made }
      rw [extracted] at same
      have there : Prepared config scratch (before.watching calls) jar
          ((unpacked.watching calls).noting (.unpacked config.source jar)) :=
        .aar kind created same
      exact there

theorem transcript_watched {index : Nat} (calls : List Call)
    (printed : transcript disassemble jar index front middle = .ok texts reached) :
    ∃ later, transcript (watched disassemble) jar index front (middle.watching calls) =
        .ok texts (reached.watching (calls ++ later)) ∧
      later.map Call.classes = front := by
  induction front generalizing index middle texts calls with
  | nil =>
      obtain ⟨rfl, rfl⟩ := pure_eq_ok_iff.mp printed
      refine ⟨[], ?_, rfl⟩
      rw [List.append_nil]
      rfl
  | cons first front induction =>
      simp only [transcript, bind_eq_ok_iff, note_eq_ok_iff, pure_eq_ok_iff] at printed
      obtain ⟨raw, after, ran, _, _, ⟨-, rfl⟩, texts, _, printed, rfl, rfl⟩ := printed
      let call : Call := ⟨jar, first, middle.files, middle.report⟩
      have called : watched disassemble jar first (middle.watching calls) =
          .ok raw (after.watching (calls ++ [call])) := by
        unfold watched
        rw [Watches.unwatched (middle.watches_watching calls), ran]
        rfl
      obtain ⟨later, printed, same⟩ := induction (calls ++ [call]) printed
      refine ⟨call :: later, ?_, congrArg (first :: ·) same⟩
      rw [List.append_cons]
      simp only [transcript, bind_eq_ok_iff, note_eq_ok_iff, pure_eq_ok_iff]
      exact ⟨raw, _, called, (), _, ⟨trivial, rfl⟩, texts, _, printed, rfl, rfl⟩

theorem BreaksOff.watched [Archive.Reader]
    (breaks : BreaksOff config disassemble scratch before failure asked last) :
    ∃ calls, BreaksOff config (watched disassemble) scratch (before.watching []) failure asked
        (last.watching calls) ∧ calls.map Call.classes = asked := by
  cases breaks with
  | scratch kind refused => exact ⟨[], .scratch kind refused, rfl⟩
  | @unpacking made _ _ kind created failed =>
      have same := watching_of_carries
        (Library.extractInnerJar_agree config.source scratch : Parallel (Carries []) Eq _ _)
        { before with files := made }
      rw [failed] at same
      exact ⟨[], .unpacking kind created same, rfl⟩
  | @listing jar middle _ _ prepared failed =>
      have same := watching_of_carries
        (Library.listClasses_agree jar : Parallel (Carries []) Eq _ _) middle
      rw [failed] at same
      exact ⟨[], .listing (prepared.watching []) same, rfl⟩
  | @call jar middle known reached _ _ classes _ batch front _ prepared listed split printed
      failed =>
      have same := watching_of_carries
        (Library.listClasses_agree jar : Parallel (Carries []) Eq _ _) middle
      rw [listed] at same
      obtain ⟨later, printed, asked⟩ := transcript_watched [] printed
      let call : Call := ⟨jar, batch, reached.files, reached.report⟩
      refine ⟨later ++ [call], .call (prepared.watching []) same split printed ?_, ?_⟩
      · unfold Extraction.watched
        rw [Watches.unwatched (reached.watches_watching _), failed]
        rfl
      · rw [List.map_append, asked]
        rfl

theorem IsQuiet.watched (quiet : IsQuiet disassemble) : IsQuiet (watched disassemble) := by
  intro jar classes state
  rw [final_watched]
  exact quiet jar classes state.unwatched

theorem calls_of_breaksOff [Archive.Reader] (quiet : IsQuiet disassemble)
    (breaks : BreaksOff config disassemble scratch before failure asked last) :
    (calls config disassemble scratch before).map Call.classes = asked := by
  obtain ⟨found, breaks, same⟩ := breaks.watched
  obtain ⟨ran, -⟩ := run_of_breaksOff quiet.watched breaks
  rw [calls, final_of_error ran]
  exact same

/-- All calls found the files and the report like this. -/
def Found (files : FileSystem) (report : Text) (calls : List Call) : Prop :=
  ∀ call ∈ calls, call.files = files ∧ call.report = report

/-- Nothing has changed so far, nor had it at any call. -/
def Unchanged (files : FileSystem) (report : Text) (state : RunState (σ × List Call)) : Prop :=
  (state.files = files ∧ state.report = report) ∧ Found files report state.disassembler.2

theorem watched_unchanged (quiet : IsQuiet disassemble) (files : FileSystem) (report : Text)
    (jar : Path) (classes : List Text) :
    Preserves (Unchanged files report) (watched disassemble jar classes) := by
  rintro state ⟨same, found⟩
  refine ⟨quiet.watched.preserves files report jar classes same, ?_⟩
  rw [final_watched]
  exact List.forall_mem_append.mpr ⟨found, List.forall_mem_singleton.mpr same⟩

theorem packageMap_unchanged [Archive.Reader] (quiet : IsQuiet disassemble) (files : FileSystem)
    (report : Text) (jar : Path) (batchSize : Nat) :
    Preserves (Unchanged files report) (packageMap (watched disassemble) jar batchSize) := by
  have note (event : Log.Event) : Preserves (Unchanged files report)
      (note event : Action (σ × List Call) Unit) := fun _ holds => holds
  have printed := transcript_preserves note (watched_unchanged quiet files report jar)
  refine (Library.listClasses_preserves jar).bind fun classes => (note _).bind fun _ => ?_
  rw [entries, disassembleAll_eq_transcript]
  exact ((printed 0 _).bind fun texts => .pure _).bind fun entries => .pure _

theorem extraction_found [Archive.Reader] (quiet : IsQuiet disassemble)
    (state : RunState (σ × List Call)) (fresh : state.disassembler.2 = []) (jar : Path) :
    Found state.files state.report
      ((packageMap (watched disassemble) jar config.batchSize >>=
        finish config).final state).disassembler.2 := by
  have none : Found state.files state.report state.disassembler.2 := by
    simp [Found, fresh]
  have found := (packageMap_unchanged quiet state.files state.report jar config.batchSize
    ⟨⟨rfl, rfl⟩, none⟩).2
  rw [final_bind]
  unfold Action.final at found
  cases ran : packageMap (watched disassemble) jar config.batchSize state with
  | ok map middle =>
      rw [ran] at found
      dsimp only at found ⊢
      rw [disassembler_final_finish]
      exact found
  | error failure middle =>
      rw [ran] at found
      exact found

/-- A disassembler finds the report, and the files beside the scratch directory, as they were
before the run. -/
theorem found_of_mem_calls [Archive.Reader] (quiet : IsQuiet disassemble) {call : Call}
    (member : call ∈ calls config disassemble scratch before) :
    call.report = before.report ∧
      (call.files = before.files ∨
        config.kind = .aar ∧ call.files.remove scratch = .ok before.files) := by
  rw [calls, run_eq] at member
  cases kind : config.kind with
  | jar =>
      rw [kind] at member
      have found := @extraction_found _ config _ _ quiet (before.watching []) rfl config.source
        call member
      exact ⟨found.2, .inl found.1⟩
  | aar =>
      rw [kind] at member
      cases created : (before.watching []).files.createDirectory scratch with
      | error fault =>
          rw [Library.withJar, final_withScratch_of_refused _ created] at member
          cases member
      | ok made =>
          obtain ⟨beside, report, fresh⟩ := unpacking_leaves config.source created
          rw [Library.withJar, disassembler_final_withScratch _ created, final_bind] at member
          unfold Action.final at beside report fresh
          cases extracted : Library.extractInnerJar config.source scratch
              { before.watching [] with files := made } with
          | error failure unpacked =>
              rw [extracted] at member fresh
              dsimp only at member fresh
              rw [fresh] at member
              cases member
          | ok jar unpacked =>
              rw [extracted] at member beside report fresh
              have found := @extraction_found _ config _ _ quiet
                (unpacked.noting (.unpacked config.source jar)) (congrArg Prod.snd fresh) jar
                call member
              refine ⟨found.2.trans report, .inr ⟨rfl, ?_⟩⟩
              rw [found.1]
              exact beside.remove

/-- If the archive cannot be opened, unpacked or listed, or if the disassembler fails, then the run
fails in the same way.  It leaves files and report as they were and asks the disassembler nothing
more.  Whatever a disassembler is asked in any run, it is asked before anything but the scratch
directory has changed. -/
theorem run_interrupted [Archive.Reader] (quiet : IsQuiet disassemble) (config : RunConfig)
    (scratch : Path) (before : RunState σ) :
    (∀ failure asked last, BreaksOff config disassemble scratch before failure asked last →
      ∃ after, run config disassemble scratch before = .error failure after ∧
        after.files = before.files ∧ after.report = before.report ∧
        (calls config disassemble scratch before).map Call.classes = asked) ∧
    ∀ call ∈ calls config disassemble scratch before,
      call.report = before.report ∧
        (call.files = before.files ∨
          config.kind = .aar ∧ call.files.remove scratch = .ok before.files) := by
  refine ⟨fun failure asked last breaks => ?_, fun call => found_of_mem_calls quiet⟩
  obtain ⟨ran, report⟩ := run_of_breaksOff quiet breaks
  exact ⟨_, ran, rfl, report, calls_of_breaksOff quiet breaks⟩

/-- Prints nothing, and fails if it is asked for one class. -/
def failingOn (name : Text) : Disassembler Unit := fun _ classes =>
  if classes.contains name then throw (.disassembler name) else pure []

theorem failingOn_isQuiet (name : Text) : IsQuiet (failingOn name) := by
  intro jar classes state
  unfold failingOn
  split_ifs
  · exact ⟨rfl, rfl⟩
  · exact ⟨rfl, rfl⟩

theorem run_interrupted_sample :
    let config : RunConfig := ⟨"a.jar".toList, .jar, .generate "out".toList, 1⟩
    let before := holdingJar {} ["A.class".toList, "B.class".toList, "C.class".toList]
    let disassemble := failingOn "B".toList
    (∃ after, run config disassemble [] before = .error (.disassembler "B".toList) after ∧
        after.files = before.files ∧ after.report = before.report ∧
        (calls config disassemble [] before).map Call.classes =
          [["A".toList], ["B".toList]]) ∧
      ∀ call ∈ calls config disassemble [] before,
        call.report = before.report ∧
          (call.files = before.files ∨
            config.kind = .aar ∧ call.files.remove [] = .ok before.files) := by
  intro config before disassemble
  let archive : Archive :=
    [stored "A.class".toList, stored "B.class".toList, stored "C.class".toList]
  have readable : Archive.read? (emptyMembers ["A.class".toList, "B.class".toList,
      "C.class".toList]) = some archive := by
    decide +kernel
  have accessible : ∀ member ∈ archive, ∃ stored, member.access = .ok stored := by
    simp [archive, stored]
  have listed : Library.listClasses config.source before = .ok archive.classList before :=
    @listClasses_of_accessible _ _ before archive ⟨_, false⟩ _ rfl readable accessible
  have interrupted := run_interrupted (failingOn_isQuiet "B".toList) config [] before
  refine ⟨?_, interrupted.2⟩
  exact interrupted.1 _ _ _ (@BreaksOff.call _ _ config disassemble [] before _ _ _ _ _ _ _ [[]] _
    [["A".toList]] [["C".toList]] (.jar rfl) listed rfl rfl rfl)

end Extraction

end ApiSurface
