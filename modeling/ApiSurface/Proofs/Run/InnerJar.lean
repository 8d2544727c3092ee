import ApiSurface.Archive.Layout
import ApiSurface.Disassembly.Recorded
import ApiSurface.Proofs.Run.Calls
import ApiSurface.Proofs.Run.ClassFiles

/-! A run over an aar and the run over its inner jar.  But for the scratch directory, the two go
side by side from the unpacking to the end. -/

namespace ApiSurface

open ApiSurface.Path FileSystem RunState ApiSurface.Action

/-- Failures that differ at most in what they name. -/
def Failure.SameKind (failure failure' : Failure) : Prop :=
  failure.category = failure'.category

theorem Failure.sameKind_of_eq (failure failure' : Failure) (same : failure = failure') :
    failure.SameKind failure' :=
  congrArg Failure.category same

/-- States that agree, but for a scratch directory that only one of them has, for the log, and for
what the disassemblers keep. -/
structure RunState.SideBySide {σ : Type} (scratch : Path) (own : σ → σ → Prop)
    (state state' : RunState σ) : Prop where
  files : Beside scratch state.files state'.files
  proper : state.files.IsProper
  report : state.report = state'.report
  kept : own state.disassembler state'.disassembler

/-- The scratch directory holds an inner jar, and a jar elsewhere is the same byte by byte. -/
structure RunState.SameJars {σ : Type} (scratch jar : Path) (content : Bytes)
    (own : σ → σ → Prop) (state state' : RunState σ) : Prop
    extends SideBySide scratch own state state' where
  inner : ∃ executable,
    state.files.file (join scratch innerJarName) = .ok ⟨content, executable⟩
  outer : ∃ executable, state'.files.file jar = .ok ⟨content, executable⟩

namespace Extraction

variable {σ : Type} {scratch jar aar source : Path} {own : σ → σ → Prop}
  {state state' before : RunState σ} {disassemble : Disassembler σ} {mode : Mode}
  {batchSize : Nat} {content : Bytes}

theorem note_sideBySide (event event' : Log.Event) :
    Parallel (SideBySide scratch own) Eq (note event) (note event') :=
  fun _ _ together => .ok () ⟨together.files, together.proper, together.report, together.kept⟩

theorem write_sideBySide (text : Text) :
    Parallel (SideBySide scratch own) Eq (write text) (write text) :=
  fun _ _ together =>
    .ok () ⟨together.files, together.proper, congrArg (· ++ _) together.report, together.kept⟩

theorem createDirectories_sideBySide {path : Path} (avoids : path.Avoids scratch) :
    Parallel (SideBySide scratch own) Eq (Action.createDirectories path)
      (Action.createDirectories path) := by
  intro state state' together
  obtain ⟨same, beside⟩ := together.files.createDirectories avoids
  have proper := together.proper.createDirectories path
  unfold Action.createDirectories
  rw [bind_get, bind_get]
  generalize state.files.createDirectories path = created at same beside proper ⊢
  generalize state'.files.createDirectories path = created' at same beside ⊢
  obtain ⟨result, files⟩ := created
  obtain ⟨result', files'⟩ := created'
  change result' = result at same
  subst same
  cases result' with
  | ok => exact .ok () ⟨beside, proper, together.report, together.kept⟩
  | error fault => exact .error rfl ⟨beside, proper, together.report, together.kept⟩

theorem writeFile_sideBySide {path : Path} (avoids : path.Avoids scratch)
    (failure : WriteFault → Failure) (content : Bytes) :
    Parallel (SideBySide scratch own) Eq (writeFile failure path content)
      (writeFile failure path content) := by
  intro state state' together
  obtain ⟨same, beside⟩ := together.files.write avoids content
  have proper := together.proper.write path content
  unfold writeFile
  rw [bind_get, bind_get]
  generalize state.files.write path content = wrote at same beside proper ⊢
  generalize state'.files.write path content = wrote' at same beside ⊢
  obtain ⟨result, files⟩ := wrote
  obtain ⟨result', files'⟩ := wrote'
  change result' = result at same
  subst same
  cases result' with
  | ok => exact .ok () ⟨beside, proper, together.report, together.kept⟩
  | error fault => exact .error rfl ⟨beside, proper, together.report, together.kept⟩

theorem list_sideBySide {path : Path} (avoids : path.Avoids scratch)
    (together : SideBySide scratch own state state') :
    (state.files.list path = .error .refused ∧ state'.files.list path = .error .refused) ∨
      ∃ listed listed', Answers (state.files.list path) listed ∧
        Answers (state'.files.list path) listed' ∧
        Snapshot.NamedAlike (SideBySide scratch own) path (listed.getD []) (listed'.getD []) := by
  rcases together.files.list_cases avoids with
    ⟨fault, failed, failed'⟩ |
    ⟨names, names', listed, listed', ascending, ascending', stands, mem_iff⟩
  · cases fault with
    | absent => exact .inr ⟨none, none, failed, failed', fun _ _ _ => rfl⟩
    | refused => exact .inl ⟨failed, failed'⟩
  · refine .inr ⟨some names, some names', listed, listed', fun later later' left => ?_⟩
    refine (ascending.filter _).eq_of_mem_iff (ascending'.filter _) fun name => ?_
    simp only [Option.getD_some, Snapshot.sourceNames, List.mem_filter, Bool.and_eq_true, mem_iff]
    by_cases member : name ∈ names
    · have isName : IsName name := together.proper _ _ (stands name member) name (by simp)
      rw [left.files.isFile_join avoids isName]
      tauto
    · simp [member]

theorem lockstep_sideBySide :
    Snapshot.Lockstep (SideBySide scratch own) fun path => path.Avoids scratch where
  note := fun event => note_sideBySide event event
  write := write_sideBySide
  file := fun _ avoids _ _ together => (together.files.file_eq avoids).symm
  list := fun _ avoids _ _ together => list_sideBySide avoids together
  createDirectories := fun _ avoids => createDirectories_sideBySide avoids
  writeFile := fun _ avoids => writeFile_sideBySide avoids

theorem note_sameJars (event event' : Log.Event) :
    Parallel (SameJars scratch jar content own) Failure.SameKind (note event) (note event') :=
  fun _ _ ⟨⟨files, proper, report, kept⟩, inner, outer⟩ =>
    .ok () ⟨⟨files, proper, report, kept⟩, inner, outer⟩

theorem listClasses_sameJars [Archive.Reader] :
    Parallel (SameJars scratch jar content own) Failure.SameKind
      (Library.listClasses (join scratch innerJarName)) (Library.listClasses jar) := by
  intro state state' together
  obtain ⟨executable, inner⟩ := together.inner
  obtain ⟨executable', outer⟩ := together.outer
  rw [Library.listClasses_of_file inner, Library.listClasses_of_file outer]
  cases Archive.read? content with
  | none => exact .error rfl together
  | some archive =>
      dsimp only
      cases archive.classNames with
      | ok names => exact .ok names together
      | error fault => exact .error rfl together

/-- A disassembler whose answers do not depend on which of two equal jars it is given, nor on
anything else that is in the scratch directory.  `own` tells what it may keep in the two cases. -/
def Indifferent (disassemble : Disassembler σ) (scratch jar : Path) (content : Bytes)
    (own : σ → σ → Prop) : Prop :=
  ∀ classes, Parallel (SameJars scratch jar content own) Failure.SameKind
    (disassemble (join scratch innerJarName) classes) (disassemble jar classes)

/-- What two runs have left, one of them in a scratch directory that is gone. -/
structure Left (scratch : Path) (own : σ → σ → Prop) (after after' : RunState σ) : Prop where
  files : after.files = after'.files
  gone : after.files.isPresent scratch = false
  report : after.report = after'.report
  kept : own after.disassembler after'.disassembler

/-- An action in a scratch directory comes to what an action without one does. -/
theorem withScratch_matches {α : Type} {alike : Failure → Failure → Prop}
    {action action' : Action σ α} {made : FileSystem}
    (created : before.files.createDirectory scratch = .ok made)
    (outcomes : Matches (SideBySide scratch own) alike (action { before with files := made })
      (action' before)) :
    Matches (Left scratch own) alike (withScratch scratch action before) (action' before) := by
  have left {after after' : RunState σ} (ended : SideBySide scratch own after after') :
      Left scratch own { after with files := after'.files } after' :=
    ⟨rfl, ended.files.not_isPresent, ended.report, ended.kept⟩
  rcases matches_iff.mp outcomes with
    ⟨value, after, after', ran, ran', ended⟩ |
    ⟨failure, failure', after, after', failed, failed', alike, ended⟩
  · rw [withScratch_of_ok created ran ended.files.remove, ran']
    exact .ok value (left ended)
  · rw [withScratch_of_error created failed ended.files.remove, failed']
    exact .error alike (left ended)

theorem packageMap_sameJars [Archive.Reader]
    (together : SameJars scratch jar content own state state')
    (indifferent : Indifferent disassemble scratch jar content own) (batchSize : Nat) :
    Matches (SideBySide scratch own) Failure.SameKind
      (packageMap disassemble (join scratch innerJarName) batchSize state)
      (packageMap disassemble jar batchSize state') :=
  (packageMap_matches (listClasses_sameJars together) (fun _ => note_sameJars _ _)
    (fun _ => note_sameJars _ _) indifferent batchSize).imp SameJars.toSideBySide

theorem run_aar_matches [Archive.Reader] {alike : Failure → Failure → Prop} {executable : Bool}
    {made : FileSystem}
    (reflexive : ∀ failure failure', failure = failure' → alike failure failure')
    (proper : before.files.IsProper) (inner : Library.HoldsInnerJar before.files aar content)
    (held : before.files.file jar = .ok ⟨content, executable⟩)
    (created : before.files.createDirectory scratch = .ok made)
    (fits : before.files.Admits (join scratch innerJarName))
    (room : before.files.HasRoom scratch.isAbsolute (scratch.goal ++ [innerJarName]) content)
    (mapped : ∀ state, SameJars scratch jar content own state before →
      Matches (SideBySide scratch own) alike
        (packageMap disassemble (join scratch innerJarName) batchSize state)
        (packageMap disassemble jar batchSize before))
    (apart : ∀ map after, packageMap disassemble jar batchSize before = .ok map after →
      ∀ path ∈ Snapshot.touched mode map.packages, path.Avoids scratch)
    (kept : own before.disassembler before.disassembler) :
    Matches (Left scratch own) alike
      (run ⟨aar, .aar, mode, batchSize⟩ disassemble scratch before)
      (run ⟨jar, .jar, mode, batchSize⟩ disassemble scratch before) := by
  have beside := Beside.of_created created
  obtain ⟨files, executable', extracted, wrote, heldInside⟩ :=
    @Library.extractInnerJar_succeeds σ { before with files := made } aar scratch content _ _ beside
      inner (beside.admits_iff.mp fits) (beside.hasRoom_iff.mp room)
      (kind?_of_created created innerJarName)
  have properInside : Beside scratch files before.files ∧ files.IsProper := by
    have inside := beside.write_inside Library.isName_innerJarName content
    have properLater := (proper.createDirectory created).write (join scratch innerJarName) content
    rw [wrote] at inside properLater
    exact ⟨inside, properLater⟩
  let unpacked : RunState σ :=
    ({ before with files } : RunState σ).noting (.unpacked aar (join scratch innerJarName))
  have together : SameJars scratch jar content own unpacked before :=
    ⟨⟨properInside.1, properInside.2, rfl, kept⟩, ⟨executable', heldInside⟩, ⟨executable, held⟩⟩
  have outcomes : Matches (SideBySide scratch own) alike
      ((packageMap disassemble (join scratch innerJarName) batchSize >>=
        finish ⟨aar, .aar, mode, batchSize⟩) unpacked)
      ((packageMap disassemble jar batchSize >>= finish ⟨jar, .jar, mode, batchSize⟩) before) := by
    refine (mapped unpacked together).bind fun {map _ _} _ mapped left => ?_
    have finished : Parallel (SideBySide scratch own) Eq
        (finish ⟨aar, .aar, mode, batchSize⟩ map) (finish ⟨jar, .jar, mode, batchSize⟩ map) :=
      finish_parallel lockstep_sideBySide rfl (note_sideBySide _ _) (apart map _ mapped)
    exact finished.weaken reflexive left
  -- In front of this state the run over the aar does nothing but unpack.
  have prepared (action : Path → Action σ (List Mismatch)) :
      (Library.extractInnerJar aar scratch >>= fun jar =>
          note (.unpacked aar jar) >>= fun _ => action jar) { before with files := made } =
        action (join scratch innerJarName) unpacked :=
    (bind_of_ok _ extracted).trans (bind_of_ok _ rfl)
  rw [run_eq, run_eq]
  refine withScratch_matches created ?_
  rw [prepared]
  exact outcomes

theorem answer_of_matches {α β : Type} {states : RunState σ → RunState σ → Prop}
    {action action' : Action σ α} {shown : Failure → β}
    (outcomes : Matches states (fun failure failure' => shown failure = shown failure')
      (action state) (action' state')) :
    (action.answer state).mapError shown = (action'.answer state').mapError shown := by
  unfold Action.answer
  rcases matches_iff.mp outcomes with
    ⟨value, _, _, ran, ran', -⟩ | ⟨_, _, _, _, failed, failed', alike, -⟩
  · rw [ran, ran']
  · rw [failed, failed']
    exact congrArg Except.error alike

/-- Next to what is kept, the same classes have been asked for. -/
def AskedAlike (own : σ → σ → Prop) (kept kept' : σ × List Call) : Prop :=
  own kept.1 kept'.1 ∧ kept.2.map Call.classes = kept'.2.map Call.classes

theorem Indifferent.watched (indifferent : Indifferent disassemble scratch jar content own) :
    Indifferent (watched disassemble) scratch jar content (AskedAlike own) := by
  intro classes state state' together
  have unwatched : SameJars scratch jar content own state.unwatched state'.unwatched :=
    ⟨⟨together.files, together.proper, together.report, together.kept.1⟩, together.inner,
      together.outer⟩
  have watching {after after' : RunState σ} (left : SameJars scratch jar content own after after')
      (call call' : Call) (same : call.classes = call'.classes) :
      SameJars scratch jar content (AskedAlike own)
        (after.watching (state.disassembler.2 ++ [call]))
        (after'.watching (state'.disassembler.2 ++ [call'])) := by
    refine ⟨⟨left.files, left.proper, left.report, left.kept, ?_⟩, left.inner, left.outer⟩
    simp only [RunState.watching, List.map_append, List.map_singleton, together.kept.2, same]
  unfold Extraction.watched
  rcases matches_iff.mp (indifferent classes unwatched) with
    ⟨text, after, after', ran, ran', left⟩ |
    ⟨failure, failure', after, after', failed, failed', alike, left⟩
  · rw [ran, ran']
    exact .ok text (watching left _ _ rfl)
  · rw [failed, failed']
    exact .error alike (watching left _ _ rfl)

theorem packageMap_of_watched [Archive.Reader] {map : PackageMap} {after : RunState (σ × List Call)}
    (mapped : packageMap (watched disassemble) jar batchSize (before.watching []) =
      .ok map after) :
    packageMap disassemble jar batchSize before = .ok map after.unwatched := by
  have outcomes := packageMap_agree (watched_agree disassemble jar) batchSize
    (before.watches_watching [])
  rcases matches_iff.mp outcomes with
    ⟨map', after', last, ran, ran', left⟩ | ⟨_, _, _, _, failed, -⟩
  · rw [mapped] at ran
    cases ran
    rw [ran', Watches.unwatched left]
  · rw [mapped] at failed
    cases failed

/-- A run over an aar and the run over its inner jar make the same calls but for the path of the
jar, come to the same answer or fail alike, write the same report, and leave the same files.  Once
the classes are listed and read, they fail for the same reason if at all.  Nothing is left of the
scratch directory.  It has to be possible to create it and to write the whole inner jar there.
Nothing that the runs read or write may lie in it, and the disassembler may not look there. -/
theorem run_aar_eq_run_jar [Archive.Reader] {executable : Bool} {made : FileSystem} (mode : Mode)
    (batchSize : Nat) (proper : before.files.IsProper)
    (inner : Library.HoldsInnerJar before.files aar content)
    (held : before.files.file jar = .ok ⟨content, executable⟩)
    (created : before.files.createDirectory scratch = .ok made)
    (fits : before.files.Admits (join scratch innerJarName))
    (room : before.files.HasRoom scratch.isAbsolute (scratch.goal ++ [innerJarName]) content)
    (indifferent : Indifferent disassemble scratch jar content own)
    (kept : own before.disassembler before.disassembler)
    (apart : ∀ map after, packageMap disassemble jar batchSize before = .ok map after →
      ∀ path ∈ Snapshot.touched mode map.packages, path.Avoids scratch) :
    let onAar : RunConfig := ⟨aar, .aar, mode, batchSize⟩
    let onJar : RunConfig := ⟨jar, .jar, mode, batchSize⟩
    let afterAar := (run onAar disassemble scratch).final before
    let afterJar := (run onJar disassemble scratch).final before
    (calls onAar disassemble scratch before).map Call.classes =
        (calls onJar disassemble scratch before).map Call.classes ∧
      ((run onAar disassemble scratch).answer before).mapError Failure.category =
        ((run onJar disassemble scratch).answer before).mapError Failure.category ∧
      (∀ map after, packageMap disassemble jar batchSize before = .ok map after →
        (run onAar disassemble scratch).answer before =
          (run onJar disassemble scratch).answer before) ∧
      afterAar.report = afterJar.report ∧ afterAar.files = afterJar.files ∧
      afterAar.files.isPresent scratch = false := by
  intro onAar onJar afterAar afterJar
  have outcomes := run_aar_matches Failure.sameKind_of_eq proper inner held created fits room
    (fun _ together => packageMap_sameJars together indifferent batchSize) apart kept
  have left := outcomes.final
  have watched : Matches (Left scratch (AskedAlike own)) Failure.SameKind
      (run onAar (Extraction.watched disassemble) scratch (before.watching []))
      (run onJar (Extraction.watched disassemble) scratch (before.watching [])) :=
    run_aar_matches Failure.sameKind_of_eq proper inner held created fits room
      (fun _ together => packageMap_sameJars together indifferent.watched batchSize)
      (fun _ _ mapped => apart _ _ (packageMap_of_watched mapped)) ⟨kept, rfl⟩
  refine ⟨watched.final.kept.2, answer_of_matches outcomes, fun map after mapped => ?_,
    left.report, left.files, left.gone⟩
  have equally := run_aar_matches (fun _ _ => id) proper inner held created fits room
    (fun state together => by
      rcases matches_iff.mp (packageMap_sameJars together indifferent batchSize) with
        ⟨value, last, last', ran, ran', ended⟩ | ⟨_, _, _, _, -, failed, -⟩
      · rw [ran, ran']
        exact .ok value ended
      · cases mapped.symm.trans failed) apart kept
  have unchanged (answer : Except Failure (List Mismatch)) :
      answer.mapError (fun failure => failure) = answer := by
    cases answer <;> rfl
  simpa only [unchanged] using answer_of_matches equally

theorem recorded_indifferent (listing : Recorded.Listing) (scratch jar : Path) (content : Bytes) :
    Indifferent (Recorded.disassemble listing) scratch jar content
      fun kept kept' => kept.map Prod.snd = kept'.map Prod.snd := by
  intro classes state state' together
  have left : SameJars scratch jar content
      (fun kept kept' => kept.map Prod.snd = kept'.map Prod.snd)
      { state with
        disassembler := state.disassembler ++ [(join scratch innerJarName, classes)] }
      { state' with disassembler := state'.disassembler ++ [(jar, classes)] } := by
    refine ⟨⟨together.files, together.proper, together.report, ?_⟩, together.inner,
      together.outer⟩
    rw [List.map_append, List.map_append, together.kept]
    rfl
  unfold Recorded.disassemble
  cases listing.textsOf classes with
  | ok text => exact .ok text left
  | error failure => exact .error rfl left

/-- The bytes of an archive with one member, which is not packed. -/
def storedArchive (name : Text) (checksum : Nat) (content : Bytes) : Bytes :=
  let described := littleEndian 4 checksum ++ littleEndian 4 content.length
    ++ littleEndian 4 content.length ++ littleEndian 2 (Utf8.encode name).length
  let member := littleEndian 4 Archive.memberMark ++ padding 10 ++ described ++ padding 2
    ++ Utf8.encode name ++ content
  let directory := littleEndian 4 Archive.directoryMark ++ padding 12 ++ described ++ padding 16
    ++ Utf8.encode name
  member ++ directory ++ littleEndian 4 Archive.endMark ++ padding 4 ++ littleEndian 2 1
    ++ littleEndian 2 1 ++ littleEndian 4 directory.length ++ littleEndian 4 member.length
    ++ padding 2

def sampleJar : Bytes :=
  emptyMembers ["a/B.class".toList]

def sampleAar : Bytes :=
  storedArchive innerJarName 348653411 sampleJar

theorem checksum_sampleJar : Crc32.checksum sampleJar = 348653411 := by
  have first : (sampleJar.take 58).foldl Crc32.absorb 0xFFFFFFFF = 2896590590 := by
    decide +kernel
  have second : (sampleJar.drop 58).foldl Crc32.absorb 2896590590 = 3946313884 := by
    decide +kernel
  rw [Crc32.checksum, ← List.take_append_drop 58 sampleJar, List.foldl_append, first, second]
  rfl

theorem read?_sampleAar :
    Archive.read? sampleAar = some [⟨innerJarName, .ok ⟨sampleJar, false, 348653411⟩⟩] := by
  decide +kernel

/-- A jar, and an aar around one that is the same. -/
def holdingBoth : RunState (List Recorded.Call) :=
  let files := (FileSystem.plant {} "l.jar".toList sampleJar).2
  ⟨(files.plant "l.aar".toList sampleAar).2, [], [], []⟩

theorem isProper_holdingBoth : holdingBoth.files.IsProper :=
  (isProper_empty.plant _ _).plant _ _

theorem holdsInnerJar_holdingBoth :
    Library.HoldsInnerJar holdingBoth.files "l.aar".toList sampleJar := by
  refine ⟨⟨sampleAar, false⟩, _, _, _, rfl, read?_sampleAar, rfl, rfl, ?_⟩
  simp [Archive.Stored.unpack, Archive.Reader.unpack, Archive.Stored.inflate, checksum_sampleJar]

def sampleListing : Recorded.Listing :=
  ⟨none, [], some "public class \x7bname\x7d \x7b\n\x7d\n".toList⟩

theorem packageMap_holdingBoth :
    (packageMap (Recorded.disassemble sampleListing) "l.jar".toList 1).answer holdingBoth =
      .ok ⟨[("a".toList,
        [⟨"a".toList, "B.java".toList, "public class a.B \x7b\n\x7d\n".toList⟩])]⟩ := by
  decide +kernel

theorem run_aar_eq_run_jar_sample :
    let onAar : RunConfig := ⟨"l.aar".toList, .aar, .generate "out".toList, 1⟩
    let onJar : RunConfig := ⟨"l.jar".toList, .jar, .generate "out".toList, 1⟩
    let disassemble := Recorded.disassemble sampleListing
    let afterAar := (run onAar disassemble "tmp".toList).final holdingBoth
    let afterJar := (run onJar disassemble "tmp".toList).final holdingBoth
    (calls onAar disassemble "tmp".toList holdingBoth).map Call.classes =
        (calls onJar disassemble "tmp".toList holdingBoth).map Call.classes ∧
      ((run onAar disassemble "tmp".toList).answer holdingBoth).mapError Failure.category =
        ((run onJar disassemble "tmp".toList).answer holdingBoth).mapError Failure.category ∧
      (∀ map after, packageMap disassemble "l.jar".toList 1 holdingBoth = .ok map after →
        (run onAar disassemble "tmp".toList).answer holdingBoth =
          (run onJar disassemble "tmp".toList).answer holdingBoth) ∧
      afterAar.report = afterJar.report ∧ afterAar.files = afterJar.files ∧
      afterAar.files.isPresent "tmp".toList = false := by
  refine run_aar_eq_run_jar (.generate "out".toList) 1 isProper_holdingBoth
    holdsInnerJar_holdingBoth rfl rfl (by decide) (by decide)
    (recorded_indifferent sampleListing _ _ _) rfl ?_
  intro map after mapped
  have same := packageMap_holdingBoth
  rw [Action.answer, mapped] at same
  obtain rfl := Except.ok.inj same
  decide

/-- Without room for the scratch directory or for the inner jar in it, a run over an aar fails where
the run over its inner jar succeeds. -/
theorem aar_fails_without_scratch :
    let scratch := "nope/tmp".toList
    let disassemble := Recorded.disassemble sampleListing
    let onAar : RunConfig := ⟨"l.aar".toList, .aar, .print, 1⟩
    let onJar : RunConfig := ⟨"l.jar".toList, .jar, .print, 1⟩
    let cramped : RunState (List Recorded.Call) :=
      { holdingBoth with
        files := { holdingBoth.files with limits := { fileBytes := fun _ _ => some 1 } } }
    Library.HoldsInnerJar holdingBoth.files "l.aar".toList sampleJar ∧
      holdingBoth.files.file "l.jar".toList = .ok ⟨sampleJar, false⟩ ∧
      Indifferent disassemble scratch "l.jar".toList sampleJar
        (fun kept kept' => kept.map Prod.snd = kept'.map Prod.snd) ∧
      (run onAar disassemble scratch).answer holdingBoth =
        .error (.system .createScratch scratch) ∧
      (run onJar disassemble scratch).answer holdingBoth = .ok [] ∧
      (run onAar disassemble "tmp".toList).answer cramped =
        .error (.system .unpackInnerJar "l.aar".toList) ∧
      (run onJar disassemble "tmp".toList).answer cramped = .ok [] := by
  intro scratch disassemble onAar onJar cramped
  exact ⟨holdsInnerJar_holdingBoth, rfl, recorded_indifferent sampleListing _ _ _, rfl,
    by decide +kernel, by decide +kernel, by decide +kernel⟩

end Extraction

end ApiSurface
