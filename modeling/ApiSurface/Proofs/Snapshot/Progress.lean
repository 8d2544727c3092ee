import ApiSurface.Proofs.Effect
import ApiSurface.Proofs.Files.Alteration
import ApiSurface.Proofs.Snapshot.RoundTrip

/-! How far generating a snapshot has come, wherever it stops.  The entries written by then are the
first ones, and nothing but they and the directories of packages is new, except for the file of an
entry that was torn off for want of room. -/

namespace ApiSurface

namespace Snapshot

open ApiSurface.Path FileSystem PackageMap

variable {α β σ : Type} {state middle after : RunState σ} {root directory : Path}
  {room : Location → Prop} {entry : Entry} {entries done more : List Entry}
  {groups : List (Text × List Entry)} {location : Location}

structure Progress (root : Path) (room : Location → Prop) (done : List Entry)
    (state after : RunState σ) : Prop where
  overlay : Overlay root.isAbsolute room (written root done) state.files after.files
  located : ∀ entry ∈ done, after.files.locate (destination root entry) = .ok (target root entry)
  spacious : HasRoomFor after.files root done
  report : after.report = state.report

theorem Progress.of_files (same : after.files = state.files)
    (reported : after.report = state.report) : Progress root room [] state after where
  overlay := by
    rw [same]
    exact .refl state.files
  located := by simp
  spacious := by simp [HasRoomFor]
  report := reported

theorem Progress.append (first : Progress root room done state middle)
    (second : Progress root room more middle after) :
    Progress root room (done ++ more) state after where
  overlay := by
    rw [written_append]
    exact first.overlay.trans second.overlay
  located := List.forall_mem_append.mpr
    ⟨fun entry member => second.overlay.locate (first.located entry member), second.located⟩
  spacious := List.forall_mem_append.mpr
    ⟨(hasRoomFor_iff second.overlay).mpr first.spacious, second.spacious⟩
  report := second.report.trans first.report

/-- The file of an entry holds as much of its source as there was room for, which is not all. -/
structure IsTorn (root : Path) (entry : Entry) (state after : RunState σ) : Prop where
  located : state.files.locate (destination root entry) = .ok (target root entry)
  tight : ¬ state.files.HasRoom root.isAbsolute (target root entry) (Utf8.encode entry.source)
  overlay : Overlay root.isAbsolute (fun _ => False)
    (fun location =>
      if location = target root entry then
        some (state.files.portion root.isAbsolute (target root entry) (Utf8.encode entry.source))
      else none) state.files after.files

/-- What a failure leaves of the entry at which it came. -/
inductive Rest (root : Path) (state : RunState σ) : Option Entry → RunState σ → Prop where
  | untouched : Rest root state none state
  | torn {entry : Entry} {after : RunState σ} (isTorn : IsTorn root entry state after) :
      Rest root state (some entry) after

/-- Wherever it stopped, the first of the entries are written, and all of them if nothing
failed. -/
def Outcome (root : Path) (room : Location → Prop) (entries : List Entry) (state : RunState σ) :
    EStateM.Result Failure (RunState σ) α → Prop
  | .ok _ after => Progress root room entries state after
  | .error failure after => ∃ done torn middle, done ++ torn.toList <+: entries ∧
      Progress root room done state middle ∧ Rest root middle torn after ∧
      ∀ entry ∈ torn, failure = .system .writeFile (destination root entry)

def Advances (root : Path) (room : Location → Prop) (entries : List Entry)
    (action : Action σ α) : Prop :=
  ∀ state, Outcome root room entries state (action state)

theorem Advances.bind {action : Action σ α} {next : α → Action σ β}
    (first : Advances root room entries action)
    (later : ∀ value, Advances root room more (next value)) :
    Advances root room (entries ++ more) (action >>= next) := by
  -- A failure of the second action comes behind all entries of the first.
  intro state
  have here := first state
  change Outcome root room (entries ++ more) state (EStateM.bind action next state)
  rw [EStateM.bind]
  cases ran : action state with
  | error failure middle =>
      rw [ran] at here
      obtain ⟨done, torn, reached, begins, rest⟩ := here
      exact ⟨done, torn, reached, begins.trans (List.prefix_append entries more), rest⟩
  | ok value middle =>
      rw [ran] at here
      have there := later value middle
      change Outcome root room (entries ++ more) state (next value middle)
      cases ended : next value middle with
      | ok answer after =>
          rw [ended] at there
          exact Progress.append here there
      | error failure after =>
          rw [ended] at there
          obtain ⟨done, torn, reached, begins, progress, rest⟩ := there
          refine ⟨entries ++ done, torn, reached, ?_, Progress.append here progress, rest⟩
          rw [List.append_assoc]
          exact (List.prefix_append_right_inj entries).mpr begins

theorem Advances.pure (value : α) : Advances root room [] (pure value : Action σ α) :=
  fun _ => .of_files rfl rfl

theorem Advances.note (event : Log.Event) :
    Advances root room [] (Action.note event : Action σ Unit) :=
  fun _ => .of_files rfl rfl

theorem Advances.forM {step : Entry → Action σ Unit}
    (each : ∀ entry ∈ entries, Advances root room [entry] (step entry)) :
    Advances root room entries (entries.forM step) := by
  induction entries with
  | nil => exact .pure ()
  | cons entry entries induction =>
      obtain ⟨here, others⟩ := List.forall_mem_cons.mp each
      exact here.bind fun _ => induction others

theorem createDirectories_advances (top : directory.isAbsolute = root.isAbsolute)
    (roomy : ∀ location ∈ trail [] directory.steps, room location) :
    Advances root room [] (Action.createDirectories directory : Action σ Unit) := by
  intro state
  have overlay := (createDirectories_overlay state.files directory).mono roomy
  rw [top] at overlay
  unfold Action.createDirectories
  rw [Action.bind_get]
  cases ended : state.files.createDirectories directory with
  | mk result files =>
      rw [ended] at overlay
      have progress : Progress root room [] state { state with files } :=
        ⟨overlay, by simp, by simp [HasRoomFor], rfl⟩
      cases result with
      | ok => exact progress
      | error fault => exact ⟨[], none, _, List.nil_prefix, progress, .untouched, by simp⟩

theorem generateEntry_advances (straight : root.IsStraight) (plain : entry.IsPlain) :
    Advances root room [entry]
      (generateEntry (packageDirectory root entry.package) entry : Action σ Unit) := by
  intro state
  change Outcome root room [entry] state
    (Action.writeFile (fun _ => .system .writeFile (destination root entry))
      (destination root entry) (Utf8.encode entry.source) state)
  unfold Action.writeFile
  rw [Action.bind_get]
  rcases write_cases state.files (destination root entry) (Utf8.encode entry.source) with
    ⟨fault, failed⟩ | ⟨location, files, located, -, overlay, ended⟩
  · rw [failed]
    exact ⟨[], none, state, List.nil_prefix, .of_files rfl rfl, .untouched, by simp⟩
  have reached : location = target root entry :=
    (names_of_locate (isStraight_destination straight plain) located).trans
      (names_destination plain)
  subst reached
  rw [isAbsolute_destination plain] at overlay ended
  by_cases fits : state.files.HasRoom root.isAbsolute (target root entry) (Utf8.encode entry.source)
  · rw [ended, if_pos fits]
    rw [fits.portion_eq] at overlay
    refine ⟨?_, by simpa using overlay.locate located,
      by simpa [HasRoomFor] using overlay.hasRoom_iff.mpr fits, rfl⟩
    rw [written_singleton]
    exact overlay.mono fun _ => False.elim
  · rw [ended, if_neg fits]
    exact ⟨[], some entry, state, List.prefix_rfl, .of_files rfl rfl,
      .torn ⟨located, fits, overlay⟩, by simp⟩

theorem generatePackage_advances {package : Text} (straight : root.IsStraight)
    (group : IsGroup package entries)
    (roomy : ∀ location, location <+: names (packageDirectory root package) → room location) :
    Advances root room entries
      (generatePackage (packageDirectory root package) entries : Action σ Unit) := by
  have created : Advances root room []
      (Action.createDirectories (packageDirectory root package) : Action σ Unit) := by
    refine createDirectories_advances (isAbsolute_packageDirectory root group.clean) ?_
    intro location along
    exact roomy location (trail_steps (isStraight_packageDirectory straight group.clean) along)
  have wrote : Advances root room entries
      (entries.forM (generateEntry (packageDirectory root package)) : Action σ Unit) := by
    refine .forM fun entry member => ?_
    rw [← group.together entry member]
    exact generateEntry_advances straight (group.plain entry member)
  have whole := created.bind fun _ => wrote.bind fun _ =>
    .note (.generated (packageDirectory root package) entries.length)
  rwa [List.nil_append, List.append_nil] at whole

theorem reconcileAll_generate_advances (straight : root.IsStraight)
    (grouped : ∀ group ∈ groups, IsGroup group.1 group.2)
    (roomy : ∀ group ∈ groups, ∀ location,
      location <+: names (packageDirectory root group.1) → room location) :
    Advances root room (groups.flatMap Prod.snd)
      (reconcileAll (.generate root) groups : Action σ (List Mismatch)) := by
  induction groups with
  | nil => exact .pure []
  | cons group groups induction =>
      obtain ⟨here, others⟩ := List.forall_mem_cons.mp grouped
      obtain ⟨roomHere, roomOthers⟩ := List.forall_mem_cons.mp roomy
      have first : Advances root room (group.2 ++ [])
          (reconcilePackage (.generate root) group.1 group.2 : Action σ (List Mismatch)) :=
        (generatePackage_advances straight here roomHere).bind fun _ => .pure []
      have whole := first.bind fun found =>
        (induction others roomOthers).bind fun later => .pure (found ++ later)
      rwa [List.append_nil, List.append_nil] at whole

theorem Advances.final {action : Action σ α} (advances : Advances root room entries action)
    (state : RunState σ) :
    ∃ done torn middle, done ++ torn.toList <+: entries ∧
      Progress root room done state middle ∧ Rest root middle torn (action.final state) ∧
      (∀ answer after, action state = .ok answer after → done = entries) ∧
      ∀ entry ∈ torn, action state =
        .error (.system .writeFile (destination root entry)) (action.final state) := by
  have outcome := advances state
  unfold Action.final
  cases ended : action state with
  | ok answer after =>
      rw [ended] at outcome
      exact ⟨entries, none, after, by simp, outcome, .untouched, fun _ _ _ => rfl, by simp⟩
  | error failure after =>
      rw [ended] at outcome
      obtain ⟨done, torn, middle, begins, progress, rest, failed⟩ := outcome
      exact ⟨done, torn, middle, begins, progress, rest, by simp,
        fun entry member => failed entry member ▸ rfl⟩

theorem Progress.file (progress : Progress root room done state after)
    (plain : ∀ entry ∈ done, entry.IsPlain) (member : entry ∈ done) :
    ∃ last executable, lastAt root done entry = some last ∧
      after.files.file (destination root entry) =
        .ok ⟨Utf8.encode last.source, executable⟩ := by
  have covered := @written_target root entry done plain member
  cases found : lastAt root done entry with
  | none => exact absurd rfl (lastAt_eq_none_iff.mp found entry member)
  | some last =>
      rw [found] at covered
      obtain ⟨executable, stands⟩ := progress.overlay.written covered
      have here := plain entry member
      refine ⟨last, executable, rfl, file_eq_ok_iff.mpr
        ⟨target root entry, progress.located entry member, ?_,
          not_demandsDirectory_destination here⟩⟩
      rw [isAbsolute_destination here, stands]

theorem Rest.overlay {torn : Option Entry} (rest : Rest root state torn after) :
    ∃ content, Overlay root.isAbsolute (fun _ => False) content state.files after.files ∧
      ∀ location, content location ≠ none → ∃ entry ∈ torn, target root entry = location := by
  cases rest with
  | untouched => exact ⟨_, .refl state.files, by simp⟩
  | @torn entry after isTorn =>
      refine ⟨_, isTorn.overlay, fun location covered => ⟨entry, rfl, ?_⟩⟩
      by_contra elsewhere
      exact covered (if_neg (Ne.symm elsewhere))

theorem IsTorn.file (isTorn : IsTorn root entry state after) (plain : entry.IsPlain) :
    ∃ bytes executable, bytes <+: Utf8.encode entry.source ∧ bytes ≠ Utf8.encode entry.source ∧
      after.files.file (destination root entry) = .ok ⟨bytes, executable⟩ := by
  obtain ⟨executable, stands⟩ := isTorn.overlay.written (if_pos rfl)
  refine ⟨_, executable, state.files.portion_prefix root.isAbsolute (target root entry) _,
    fun whole => ?_, ?_⟩
  · exact isTorn.tight (length_portion_eq_iff.mp (congrArg List.length whole))
  · refine file_eq_ok_iff.mpr ⟨target root entry, isTorn.overlay.locate isTorn.located, ?_,
      not_demandsDirectory_destination plain⟩
    rw [isAbsolute_destination plain, stands]

theorem Rest.file {torn : Option Entry} {data : RegularFile} (rest : Rest root state torn after)
    (plain : entry.IsPlain) (plainTorn : ∀ other ∈ torn.toList, other.IsPlain)
    (apart : ∀ other ∈ torn, destination root other ≠ destination root entry)
    (located : state.files.locate (destination root entry) = .ok (target root entry))
    (held : state.files.file (destination root entry) = .ok data) :
    after.files.file (destination root entry) = .ok data := by
  obtain ⟨content, overlay, confined⟩ := rest.overlay
  obtain ⟨location, located', stands, bare⟩ := file_eq_ok_iff.mp held
  obtain rfl := Except.ok.inj (located'.symm.trans located)
  have uncovered : content (target root entry) = none := by
    by_contra covered
    obtain ⟨other, member, same⟩ := confined _ covered
    have plainOther := plainTorn other (Option.mem_toList.mpr member)
    exact apart other member ((destination_eq_iff plainOther plain).mpr same)
  refine file_eq_ok_iff.mpr ⟨_, overlay.locate located, ?_, bare⟩
  rw [isAbsolute_destination plain] at stands ⊢
  rcases overlay.kept uncovered with same | ⟨none, -⟩
  · rw [same, stands]
  · exact none.elim

/-- Files change only where the first entries and the torn one are. -/
theorem Progress.alters {torn : Option Entry} (progress : Progress root room done state middle)
    (rest : Rest root middle torn after) :
    Alters
      (fun side location => side = root.isAbsolute ∧
        ∃ entry ∈ done ++ torn.toList, target root entry = location)
      (fun side location => side = root.isAbsolute ∧ room location) state.files after.files := by
  obtain ⟨content, overlay, confined⟩ := rest.overlay
  refine IsTrans.trans _ middle.files _
    (progress.overlay.alters (fun location covered => ⟨rfl, ?_⟩) fun _ roomy => ⟨rfl, roomy⟩)
    (overlay.alters (fun location covered => ⟨rfl, ?_⟩) fun _ => False.elim)
  · obtain ⟨entry, member, here⟩ := written_ne_none_iff.mp covered
    exact ⟨entry, List.mem_append_left _ member, here⟩
  · obtain ⟨entry, member, here⟩ := confined location covered
    exact ⟨entry, List.mem_append_right _ (Option.mem_toList.mpr member), here⟩

/-- However generating ends, the files of some first entries hold the last of their sources, every
other file and every directory is as it was, and the new directories are those of packages and
those on the way there.  If it succeeds, all entries are written, nothing is found and nothing
reported.  Only the file of the entry at which it fails may be torn: where there is no room for the
source, the file holds the beginning of it. -/
theorem generate_reaches (plain : ∀ entry ∈ entries, entry.IsPlain) (straight : root.IsStraight)
    (before : RunState σ) :
    let map := ofEntries entries
    let run : Action σ (List Mismatch) := reconcile (.generate root) map
    let after := (run.final before).files
    ∃ k ≤ map.entries.length, ∃ torn : Option Entry,
      (∀ found state, run before = .ok found state →
        k = map.entries.length ∧ torn = none ∧ found = [] ∧ state.report = before.report) ∧
      (∀ entry ∈ torn, map.entries[k]? = some entry ∧
        ¬ before.files.HasRoom root.isAbsolute (names (destination root entry))
          (Utf8.encode entry.source) ∧
        (∃ state, run before = .error (.system .writeFile (destination root entry)) state) ∧
        ∃ bytes executable, bytes <+: Utf8.encode entry.source ∧
          bytes ≠ Utf8.encode entry.source ∧
          after.file (destination root entry) = .ok ⟨bytes, executable⟩) ∧
      (∀ entry ∈ map.entries.take k,
        (∀ other ∈ torn, destination root other ≠ destination root entry) →
        ∃ last executable, lastAt root (map.entries.take k) entry = some last ∧
          after.file (destination root entry) = .ok ⟨Utf8.encode last.source, executable⟩) ∧
      (∀ side location,
        (side = root.isAbsolute → ∀ entry ∈ map.entries.take k ++ torn.toList,
          names (destination root entry) ≠ location) →
        ∀ data, after.kind? side location = some (.file data) ↔
          before.files.kind? side location = some (.file data)) ∧
      (∀ side location, before.files.kind? side location ≠ none →
        after.kind? side location ≠ none) ∧
      (∀ side location, before.files.kind? side location = some .directory →
        after.kind? side location = some .directory) ∧
      ∀ side location, after.kind? side location = some .directory →
        before.files.kind? side location ≠ some .directory →
        side = root.isAbsolute ∧
          ∃ group ∈ map.packages, location <+: names (packageDirectory root group.1) := by
  intro map run after
  have grouped := fun group => @isGroup_of_mem entries plain group
  have advances : Advances root
      (fun location => ∃ group ∈ map.packages, location <+: names (packageDirectory root group.1))
      map.entries run :=
    reconcileAll_generate_advances straight grouped fun group member _ above =>
      ⟨group, member, above⟩
  obtain ⟨done, torn, middle, begins, progress, rest, whole, failed⟩ := advances.final before
  have plainBoth : ∀ entry ∈ done ++ torn.toList, entry.IsPlain := fun entry member =>
    plain entry ((entries_ofEntries_perm entries).mem_iff.mp (begins.subset member))
  obtain ⟨plainDone, plainTorn⟩ := List.forall_mem_append.mp plainBoth
  have beginsDone : done <+: map.entries := (List.prefix_append _ _).trans begins
  have alters := progress.alters rest
  refine ⟨done.length, beginsDone.length_le, torn, ?_, ?_, ?_⟩
  · intro found state ran
    have none : torn = none := by
      by_contra some
      obtain ⟨entry, rfl⟩ := Option.ne_none_iff_exists'.mp some
      cases ran.symm.trans (failed entry rfl)
    refine ⟨congrArg List.length (whole found state ran), none, reconcileAll_generate_finds ran, ?_⟩
    subst none
    cases rest
    rw [← Action.final_of_ok ran]
    exact progress.report
  · rintro entry rfl
    have here := plainTorn entry List.mem_cons_self
    cases rest with
    | torn isTorn =>
        refine ⟨?_, ?_, ⟨_, failed entry rfl⟩, isTorn.file here⟩
        · obtain ⟨behind, same⟩ := begins
          simp [← same]
        · rw [names_destination here, ← progress.overlay.hasRoom_iff]
          exact isTorn.tight
  rw [← List.prefix_iff_eq_take.mp beginsDone]
  refine ⟨fun entry member apart => ?_, fun side location elsewhere => ?_,
    fun _ _ => alters.ne_none, fun _ _ => alters.directory, fun side location stands new => ?_⟩
  · obtain ⟨last, executable, found, held⟩ := progress.file plainDone member
    exact ⟨last, executable, found, rest.file (plainDone entry member) plainTorn apart
      (progress.located entry member) held⟩
  · refine alters.file_iff ?_
    rintro ⟨here, entry, member, reached⟩
    exact elsewhere here entry member ((names_destination (plainBoth entry member)).trans reached)
  · rcases alters.of_directory stands with old | ⟨-, roomy⟩
    · exact absurd old new
    · exact roomy

theorem generate_reaches_sample :
    let entries : List Entry := [⟨"p".toList, "A.java".toList, "a\n".toList⟩,
      ⟨"q".toList, "B.java".toList, "long\n".toList⟩]
    let before : RunState Unit :=
      ⟨{ limits := { fileBytes := fun _ _ => some 3 } }, [], [], ()⟩
    let run := reconcile (.generate "s".toList) (ofEntries entries)
    let after := (run.final before).files
    (∃ state, run before = .error (.system .writeFile "s/q/B.java".toList) state) ∧
      ∃ k ≤ 2, ∃ torn : Option Entry,
        (∀ entry ∈ torn, entries[k]? = some entry ∧ ∃ bytes executable,
          bytes <+: Utf8.encode entry.source ∧
            after.file (destination "s".toList entry) = .ok ⟨bytes, executable⟩) ∧
        ∀ entry ∈ entries.take k,
          (∀ other ∈ torn, destination "s".toList other ≠ destination "s".toList entry) →
          ∃ data, after.file (destination "s".toList entry) = .ok data := by
  intro entries before run after
  obtain ⟨k, bounded, torn, -, tears, reached, -⟩ := generate_reaches
    (by decide : ∀ entry ∈ entries, entry.IsPlain) (by decide : IsStraight "s".toList) before
  have listed : (ofEntries entries).entries = entries := by decide
  rw [listed] at bounded tears reached
  refine ⟨Action.answer_eq_error_iff.mp (by decide +kernel), k, bounded, torn,
    fun entry member => ?_, fun entry member apart => ?_⟩
  · obtain ⟨here, -, -, bytes, executable, begins, -, held⟩ := tears entry member
    exact ⟨here, bytes, executable, begins, held⟩
  · obtain ⟨last, executable, -, held⟩ := reached entry member apart
    exact ⟨_, held⟩

/-- A torn file is neither as it was nor written, so without the exception there is no number of
entries that a run has reached. -/
theorem torn_file_fits_no_beginning :
    let entry : Entry := ⟨"a".toList, "B.java".toList, "class\n".toList⟩
    let before : RunState Unit :=
      ⟨{ limits := { fileBytes := fun _ _ => some 3 } }, [], [], ()⟩
    let after := ((reconcile (.generate "out".toList) (ofEntries [entry])).final before).files
    entry.IsPlain ∧ IsStraight "out".toList ∧ (ofEntries [entry]).entries = [entry] ∧
      ¬ ∃ k ≤ 1,
        (∀ held ∈ [entry].take k, ∃ last executable,
          lastAt "out".toList ([entry].take k) held = some last ∧
            after.file (destination "out".toList held) =
              .ok ⟨Utf8.encode last.source, executable⟩) ∧
        ∀ side location,
          (side = isAbsolute "out".toList → ∀ held ∈ [entry].take k,
            names (destination "out".toList held) ≠ location) →
          ∀ data, after.kind? side location = some (.file data) ↔
            before.files.kind? side location = some (.file data) := by
  intro entry before after
  have torn : after.file (destination "out".toList entry) =
      .ok ⟨Utf8.encode "cla".toList, false⟩ := by
    decide
  refine ⟨by decide, by decide, by decide, ?_⟩
  rintro ⟨k, bounded, written, kept⟩
  rcases Nat.le_one_iff_eq_zero_or_eq_one.mp bounded with rfl | rfl
  · have stood := (kept false ["out".toList, "a".toList, "B.java".toList] (by simp)
      ⟨Utf8.encode "cla".toList, false⟩).mp (by decide)
    exact absurd stood (by decide)
  · obtain ⟨last, executable, found, held⟩ := written entry List.mem_cons_self
    obtain rfl : entry = last := Option.some.inj ((by decide : _ = some entry).symm.trans found)
    have same := congrArg RegularFile.content (Except.ok.inj (torn.symm.trans held))
    exact absurd same (by change ¬ Utf8.encode "cla".toList = Utf8.encode entry.source; decide)

end Snapshot

end ApiSurface
