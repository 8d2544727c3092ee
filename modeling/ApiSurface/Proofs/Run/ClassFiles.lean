import ApiSurface.Archive.Layout
import ApiSurface.Proofs.Archive.Listing
import ApiSurface.Proofs.Run.Transcript
import ApiSurface.Proofs.Snapshot.Drift
import Mathlib

namespace ApiSurface

open ApiSurface.Path FileSystem

/-- A class of an archive that has an entry. -/
structure QualifiedName.IsEntryOf (archive : Archive) (name : QualifiedName) : Prop where
  ordinary : name.IsOrdinary
  listed : name.memberName ∈ archive.map Archive.Member.name
  authored : isSynthetic name.simple = false

namespace Extraction

variable {σ : Type} {disassemble : Disassembler σ} {source root : Path} {batchSize : Nat}
  {before middle : RunState σ} {archive : Archive} {data : RegularFile} {classes texts : List Text}
  {names : List QualifiedName} {printed : Text → ClassText}

theorem listClasses_of_accessible [Archive.Reader] (held : before.files.file source = .ok data)
    (readable : Archive.read? data.content = some archive)
    (accessible : ∀ member ∈ archive, ∃ stored, member.access = .ok stored) :
    Library.listClasses source before =
      .ok archive.classList before := by
  rw [Library.listClasses_of_file held, readable]
  dsimp only
  rw [Archive.classNames_of_accessible accessible]

/-- The state in which the classes of a jar have been listed. -/
def listed (source : Path) (classes : List Text) (before : RunState σ) : RunState σ :=
  { before with log := before.log ++ [.listed source classes.length] }

theorem run_eq_reconcile [Archive.Reader]
    (listing : Library.listClasses source before = .ok classes before)
    (finished : transcript disassemble source 0 (batches batchSize classes)
      (listed source classes before) = .ok texts middle) :
    ∃ log, ∀ mode scratch,
      run ⟨source, .jar, mode, batchSize⟩ disassemble scratch before =
        Snapshot.reconcile mode (PackageMap.ofEntries (texts.flatMap Entry.parseAll))
          { middle with log } := by
  have mapped : packageMap disassemble source batchSize before =
      .ok (PackageMap.ofEntries (texts.flatMap Entry.parseAll)) middle := by
    simp only [packageMap, Action.bind_eq_ok_iff, Action.note_eq_ok_iff, Action.pure_eq_ok_iff]
    exact ⟨classes, before, listing, (), _, ⟨trivial, rfl⟩, _, middle,
      disassembleAll_of_transcript finished, rfl, rfl⟩
  have ran (mode : Mode) (scratch : Path) :
      run ⟨source, .jar, mode, batchSize⟩ disassemble scratch before = _ :=
    Action.bind_of_ok _ mapped
  simp only [ran]
  cases (PackageMap.ofEntries (texts.flatMap Entry.parseAll)).isEmpty with
  | true => exact ⟨_, fun _ _ => rfl⟩
  | false => exact ⟨_, fun _ _ => rfl⟩

def entriesOf (printed : Text → ClassText) (names : List QualifiedName) : List Entry :=
  (names.filter fun name => !isSynthetic name.simple).map fun name =>
    name.entry ((printed name.dotted).source name.dotted)

theorem entriesOf_eq_flatMap (printed : Text → ClassText) (names : List QualifiedName) :
    entriesOf printed names = names.flatMap fun name =>
      if isSynthetic name.simple then []
      else [name.entry ((printed name.dotted).source name.dotted)] := by
  unfold entriesOf
  induction names with
  | nil => rfl
  | cons name names induction =>
      rw [List.flatMap_cons, ← induction, List.filter_cons]
      cases isSynthetic name.simple <;> rfl

theorem parse_transcript (ordinary : ∀ name ∈ names, name.IsOrdinary) {all : List (List Text)}
    (whole : all.flatten = names.map QualifiedName.dotted) :
    (all.map (batchText printed)).flatMap Entry.parseAll = entriesOf printed names := by
  have separate : ∀ name ∈ all.flatten, Chunk.IsSeparate ((printed name).text name) := by
    rw [whole, List.forall_mem_map]
    exact fun name member => ClassText.isSeparate_text _ (ordinary name member)
  have single : ∀ name ∈ names, Entry.parseAll ((printed name.dotted).text name.dotted) =
      if isSynthetic name.simple then []
      else [name.entry ((printed name.dotted).source name.dotted)] :=
    fun name member => ClassText.parseAll_text _ (ordinary name member)
  calc (all.map (batchText printed)).flatMap Entry.parseAll
      = all.flatMap fun batch =>
          batch.flatMap fun name => Entry.parseAll ((printed name).text name) := by
        rw [List.flatMap_map]
        refine List.flatMap_congr fun batch inside => Entry.parseAll_flatMap fun name member => ?_
        exact separate name (List.mem_flatten_of_mem inside member)
    _ = all.flatten.flatMap fun name => Entry.parseAll ((printed name).text name) := by
        rw [← List.flatMap_id, List.flatMap_assoc]
        rfl
    _ = names.flatMap fun name => if isSynthetic name.simple then []
          else [name.entry ((printed name.dotted).source name.dotted)] := by
        rw [whole, List.flatMap_map]
        exact List.flatMap_congr single
    _ = entriesOf printed names := (entriesOf_eq_flatMap printed names).symm

theorem mem_entriesOf {entry : Entry} :
    entry ∈ entriesOf printed names ↔
      ∃ name ∈ names, isSynthetic name.simple = false ∧
        name.entry ((printed name.dotted).source name.dotted) = entry := by
  simp [entriesOf, and_assoc]

theorem nodup_entriesOf (ordinary : ∀ name ∈ names, name.IsOrdinary) (distinct : names.Nodup) :
    ((entriesOf printed names).map Entry.key).Nodup := by
  rw [entriesOf, List.map_map]
  refine (distinct.filter _).map_on fun name member other member' same => ?_
  exact (QualifiedName.key_entry_inj (ordinary name (List.mem_of_mem_filter member))
    (ordinary other (List.mem_of_mem_filter member'))).mp same

/-- A run over a jar reconciles the entries of its classes with the texts that were printed of
them. -/
theorem run_reconciles_entries [Archive.Reader]
    (held : before.files.file source = .ok data)
    (readable : Archive.read? data.content = some archive)
    (accessible : ∀ member ∈ archive, ∃ stored, member.access = .ok stored)
    (lists : QualifiedName.Lists names archive) (distinct : names.Nodup)
    (prints : PrintsClasses disassemble source archive.classList) (batchSize : Nat) :
    ∃ printed middle log,
      transcript disassemble source 0 (batches batchSize archive.classList)
          (listed source archive.classList before) =
        .ok ((batches batchSize archive.classList).map (batchText printed)) middle ∧
      middle.files = before.files ∧
      ∀ mode scratch, run ⟨source, .jar, mode, batchSize⟩ disassemble scratch before =
        Snapshot.reconcile mode (PackageMap.ofEntries (entriesOf printed names))
          { middle with log } := by
  have whole := flatten_batches batchSize archive.classList
  have distinctClasses : (batches batchSize archive.classList).flatten.Nodup := by
    rw [whole, lists.dotted]
    refine distinct.map_on fun name member other member' same => ?_
    exact (QualifiedName.dotted_inj (lists.ordinary name member)
      (lists.ordinary other member')).mp same
  obtain ⟨printed, middle, finished, same⟩ := transcript_succeeds prints
    (by rw [whole]; exact List.Subset.refl _) distinctClasses 0
    (listed source archive.classList before)
  have listing := listClasses_of_accessible held readable accessible
  obtain ⟨log, ran⟩ := run_eq_reconcile listing finished
  rw [parse_transcript lists.ordinary (whole.trans lists.dotted)] at ran
  exact ⟨printed, middle, log, finished, same, ran⟩

theorem isRegular_of_mem_entriesOf (ordinary : ∀ name ∈ names, name.IsOrdinary) {entry : Entry}
    (member : entry ∈ entriesOf printed names) : entry.IsRegular := by
  obtain ⟨name, listed, -, rfl⟩ := mem_entriesOf.mp member
  exact QualifiedName.isRegular_entry (ordinary name listed) _

theorem stored_iff_of_records {files : FileSystem} {location : Location} {content : Bytes}
    (ordinary : ∀ name ∈ names, name.IsOrdinary)
    (records : Snapshot.Records root (entriesOf printed names) files)
    (below : Path.names root <+: location) :
    (∃ executable, files.kind? root.isAbsolute location = some (.file ⟨content, executable⟩)) ↔
      ∃ name ∈ names, isSynthetic name.simple = false ∧
        location = Path.names root ++ name.folders ++ [name.fileName] ∧
        content = Utf8.encode ((printed name.dotted).source name.dotted) := by
  have place (name : QualifiedName) (member : name ∈ names) :=
    QualifiedName.target_entry root (ordinary name member)
      ((printed name.dotted).source name.dotted)
  constructor
  · rintro ⟨executable, stands⟩
    obtain ⟨entry, member, here⟩ := records.only below stands
    obtain ⟨executable', recorded⟩ := records.stands entry member
    obtain ⟨name, listed, authored, rfl⟩ := mem_entriesOf.mp member
    rw [here, stands] at recorded
    have same := Node.Kind.file.inj (Option.some.inj recorded)
    rw [place name listed] at here
    exact ⟨name, listed, authored, here.symm, (RegularFile.mk.inj same).1⟩
  · rintro ⟨name, listed, authored, rfl, rfl⟩
    obtain ⟨executable, stands⟩ := records.stands _
      (mem_entriesOf.mpr ⟨name, listed, authored, rfl⟩)
    rw [place name listed] at stands
    exact ⟨executable, stands⟩

/-- Where nothing stands, a run over a jar generates one file for each of its classes that is
neither anonymous nor generated, at the place of the class and with the text that was printed of
it, and no other.  The root must not end in a step that stays if its own directory would have to be
created, and no path may be too long and no text too large for the system. -/
theorem run_generates_class_files [Archive.Reader] (scratch : Path)
    (held : before.files.file source = .ok data)
    (readable : Archive.read? data.content = some archive)
    (accessible : ∀ member ∈ archive, ∃ stored, member.access = .ok stored)
    (distinct : (archive.map Archive.Member.name).Nodup)
    (ordinary : ∀ member ∈ archive, Archive.classEnding <:+ member.name →
      ∃ name : QualifiedName, name.IsOrdinary ∧ member.name = name.memberName)
    (prints : PrintsClasses disassemble source archive.classList)
    (filled : root ≠ []) (straight : root.IsStraight)
    (absent : before.files.node root = .error .absent) (proper : before.files.IsProper)
    (fits : ∀ name : QualifiedName, name.IsEntryOf archive →
      before.files.Admits (Snapshot.destination root (name.entry [])))
    (room : ∀ printed middle, transcript disassemble source 0 (batches batchSize archive.classList)
        (listed source archive.classList before) =
          .ok ((batches batchSize archive.classList).map (batchText printed)) middle →
      ∀ name : QualifiedName, name.IsEntryOf archive →
        before.files.HasRoom root.isAbsolute (Path.names root ++ name.folders ++ [name.fileName])
          (Utf8.encode ((printed name.dotted).source name.dotted)))
    (moving : (steps root).getLast? = some .stay →
      ∀ name : QualifiedName, name.IsEntryOf archive → name.folders ≠ []) :
    ∃ printed middle after,
      transcript disassemble source 0 (batches batchSize archive.classList)
          (listed source archive.classList before) =
        .ok ((batches batchSize archive.classList).map (batchText printed)) middle ∧
      run ⟨source, .jar, .generate root, batchSize⟩ disassemble scratch before = .ok [] after ∧
      ∀ location content, Path.names root <+: location →
        ((∃ executable, after.files.kind? root.isAbsolute location =
            some (.file ⟨content, executable⟩)) ↔
          ∃ name : QualifiedName, name.IsEntryOf archive ∧
            location = Path.names root ++ name.folders ++ [name.fileName] ∧
            content = Utf8.encode ((printed name.dotted).source name.dotted)) := by
  obtain ⟨names, lists⟩ := QualifiedName.exists_lists ordinary
  have isEntryOf (name : QualifiedName) :
      name.IsEntryOf archive ↔ name ∈ names ∧ isSynthetic name.simple = false := by
    rw [lists.mem_iff, and_assoc]
    exact ⟨fun isEntry => ⟨isEntry.ordinary, isEntry.listed, isEntry.authored⟩,
      fun ⟨ordinary, listed, authored⟩ => ⟨ordinary, listed, authored⟩⟩
  have distinctNames := lists.nodup distinct
  obtain ⟨printed, middle, log, finished, same, ran⟩ :=
    run_reconciles_entries held readable accessible lists distinctNames prints batchSize
  have fitsEntries : ∀ entry ∈ entriesOf printed names,
      before.files.Admits (Snapshot.destination root entry) := by
    intro entry member
    obtain ⟨name, listed, authored, rfl⟩ := mem_entriesOf.mp member
    exact fits name ((isEntryOf name).mpr ⟨listed, authored⟩)
  have roomEntries : Snapshot.HasRoomFor before.files root (entriesOf printed names) := by
    intro entry member
    obtain ⟨name, listed, authored, rfl⟩ := mem_entriesOf.mp member
    rw [QualifiedName.target_entry root (lists.ordinary name listed)]
    exact room printed middle finished name ((isEntryOf name).mpr ⟨listed, authored⟩)
  have movingEntries : (steps root).getLast? = some .stay →
      ∀ entry ∈ entriesOf printed names, entry.package ≠ [] := by
    intro stays entry member bare
    obtain ⟨name, listed, authored, rfl⟩ := mem_entriesOf.mp member
    apply moving stays name ((isEntryOf name).mpr ⟨listed, authored⟩)
    rw [← QualifiedName.segments_package (lists.ordinary name listed)]
    exact congrArg Snapshot.segments bare
  obtain ⟨after, generated, records⟩ := @Snapshot.generate_records _ { middle with log } root _
    (fun _ => isRegular_of_mem_entriesOf lists.ordinary)
    (nodup_entriesOf lists.ordinary distinctNames) ⟨filled, straight⟩ (same ▸ absent)
    (same ▸ proper) (same ▸ fitsEntries) (same ▸ roomEntries) movingEntries
  refine ⟨printed, middle, after, finished, (ran _ scratch).trans generated, ?_⟩
  intro location content below
  simp only [isEntryOf, and_assoc]
  exact stored_iff_of_records lists.ordinary records below

def littleEndian : Nat → Nat → Bytes
  | 0, _ => []
  | width + 1, number => UInt8.ofNat number :: littleEndian width (number / 256)

def padding (width : Nat) : Bytes :=
  List.replicate width 0

def emptyMember (name : Text) : Bytes :=
  littleEndian 4 Archive.memberMark ++ padding 22 ++ littleEndian 2 (Utf8.encode name).length
    ++ padding 2 ++ Utf8.encode name

def directoryRecords : Nat → List Text → Bytes
  | _, [] => []
  | offset, name :: rest =>
      littleEndian 4 Archive.directoryMark ++ padding 24
        ++ littleEndian 2 (Utf8.encode name).length ++ padding 12 ++ littleEndian 4 offset
        ++ Utf8.encode name ++ directoryRecords (offset + (emptyMember name).length) rest

/-- The bytes of an archive with empty members of these names. -/
def emptyMembers (names : List Text) : Bytes :=
  let members := names.flatMap emptyMember
  let directory := directoryRecords 0 names
  members ++ directory ++ littleEndian 4 Archive.endMark ++ padding 4
    ++ littleEndian 2 names.length ++ littleEndian 2 names.length
    ++ littleEndian 4 directory.length ++ littleEndian 4 members.length ++ padding 2

def stored (name : Text) : Archive.Member :=
  ⟨name, .ok ⟨[], false, 0⟩⟩

def holdingJar (limits : Limits) (names : List Text) : RunState Unit :=
  ⟨(FileSystem.plant { limits := limits } "a.jar".toList (emptyMembers names)).2, [], [], ()⟩

def printing (text : ClassText) : Disassembler Unit :=
  fun _ batch => pure (batchText (fun _ => text) batch)

theorem printing_printsClasses (text : ClassText) (jar : Path) (classes : List Text) :
    PrintsClasses (printing text) jar classes :=
  fun _ _ _ state => ⟨fun _ => text, state, rfl, rfl⟩

def bareText : ClassText :=
  ⟨none, [], by simp, by simp, by simp⟩

def sampleText : ClassText where
  header := some "\"B.java\"".toList
  members := ["  int x;".toList]
  header_isRow := by
    rintro _ ⟨⟩
    exact ⟨by decide, by decide⟩
  members_areRows := by
    rw [List.forall_mem_singleton]
    exact ⟨by decide, by decide⟩
  indented := by
    rw [List.forall_mem_singleton]
    rintro _ ⟨⟩
    decide

def sampleName : QualifiedName :=
  ⟨["a".toList], "B".toList⟩

def numberedName : QualifiedName :=
  ⟨[], "C$1".toList⟩

/-- A class in a folder, and an anonymous one. -/
def sampleArchive : Archive :=
  [stored "a/B.class".toList, stored "C$1.class".toList]

theorem isOrdinary_sampleName : sampleName.IsOrdinary := by
  decide

theorem isOrdinary_numberedName : numberedName.IsOrdinary := by
  decide

theorem exists_name_of_sampleArchive {member : Archive.Member} (inside : member ∈ sampleArchive) :
    ∃ name : QualifiedName, name.IsOrdinary ∧ member.name = name.memberName := by
  simp only [sampleArchive, List.mem_cons, List.not_mem_nil, or_false] at inside
  rcases inside with rfl | rfl
  · exact ⟨sampleName, isOrdinary_sampleName, by decide⟩
  · exact ⟨numberedName, isOrdinary_numberedName, by decide⟩

theorem isEntryOf_sampleArchive (name : QualifiedName) :
    name.IsEntryOf sampleArchive ↔ name = sampleName := by
  constructor
  · intro isEntry
    have listed := isEntry.listed
    simp only [sampleArchive, List.map_cons, List.map_nil, List.mem_cons, List.not_mem_nil,
      or_false] at listed
    rcases listed with same | same
    · exact (QualifiedName.memberName_inj isEntry.ordinary isOrdinary_sampleName).mp same
    · obtain rfl := (QualifiedName.memberName_inj isEntry.ordinary isOrdinary_numberedName).mp same
      exact absurd isEntry.authored (by decide)
  · rintro rfl
    exact ⟨isOrdinary_sampleName, by decide, by decide⟩

theorem run_generates_class_files_sample :
    ∃ after,
      run ⟨"a.jar".toList, .jar, .generate "out".toList, 1⟩ (printing sampleText) []
          (holdingJar {} ["a/B.class".toList, "C$1.class".toList]) = .ok [] after ∧
        ∀ location content, ["out".toList] <+: location →
          ((∃ executable, after.files.kind? false location =
              some (.file ⟨content, executable⟩)) ↔
            location = ["out".toList, "a".toList, "B.java".toList] ∧
              content = Utf8.encode "public class a.B \x7b\n  int x;\n\x7d\n".toList) := by
  have readable : Archive.read? (emptyMembers ["a/B.class".toList, "C$1.class".toList]) =
      some sampleArchive := by
    decide +kernel
  have accessible : ∀ member ∈ sampleArchive, ∃ stored, member.access = .ok stored := by
    simp [sampleArchive, stored]
  obtain ⟨printed, middle, after, finished, ran, exact⟩ :=
    @run_generates_class_files _ (printing sampleText) "a.jar".toList "out".toList 1
      (holdingJar {} ["a/B.class".toList, "C$1.class".toList]) sampleArchive ⟨_, false⟩ _ [] rfl
      readable accessible (by decide) (fun _ inside _ => exists_name_of_sampleArchive inside)
      (printing_printsClasses sampleText _ _) (by decide) (by decide) rfl
      (isProper_empty.plant _ _) (by simp only [isEntryOf_sampleArchive, forall_eq]; decide)
      (fun _ _ _ _ _ => hasRoom_of_unbounded rfl _) (fun stays => absurd stays (by decide))
  refine ⟨after, ran, fun location content below => ?_⟩
  have classes : sampleArchive.classList = [sampleName.dotted, numberedName.dotted] := by decide
  rw [classes] at finished
  have texts : batchText (fun _ => sampleText) [sampleName.dotted] =
      batchText printed [sampleName.dotted] :=
    (List.cons.inj (EStateM.Result.ok.inj finished).1).1
  have source : (printed sampleName.dotted).source sampleName.dotted =
      "public class a.B \x7b\n  int x;\n\x7d\n".toList := by
    simp only [batchText, List.flatMap_singleton] at texts
    exact ClassText.source_eq_of_text isOrdinary_sampleName texts.symm
  refine (exact location content below).trans ?_
  simp only [isEntryOf_sampleArchive, exists_eq_left, source]
  rfl

/-- The conditions on the root, on the lengths of paths and on the room cannot be done without. -/
theorem run_fails_without_room :
    let name : QualifiedName := ⟨[], "Serializer".toList⟩
    let run (root : Path) (limits : Limits) :=
      run ⟨"a.jar".toList, .jar, .generate root, 1⟩ (printing bareText) []
        (holdingJar limits [name.memberName])
    let files (limits : Limits) := (holdingJar limits [name.memberName]).files
    let cramped : Limits :=
      { fileBytes := fun _ location => if location.head? = some "x".toList then some 1 else none }
    name.IsOrdinary ∧
      Archive.read? (emptyMembers [name.memberName]) = some [stored name.memberName] ∧
      (∀ jar classes, PrintsClasses (printing bareText) jar classes) ∧
      (IsStraight "x/.".toList ∧ (files {}).node "x/.".toList = .error .absent ∧
        ∀ found after, run "x/.".toList {} ≠ .ok found after) ∧
      IsStraight "x".toList ∧
      ((files cramped).node "x".toList = .error .absent ∧
        ∀ found after, run "x".toList cramped ≠ .ok found after) ∧
      (files { nameBytes := some 14 }).node "x".toList = .error .absent ∧
        ∀ found after, run "x".toList { nameBytes := some 14 } ≠ .ok found after := by
  intro name run files cramped
  refine ⟨by decide, by decide +kernel, printing_printsClasses bareText,
    ⟨by decide, rfl, ?_⟩, by decide, ⟨rfl, ?_⟩, rfl, ?_⟩
  · intro found after ran
    have failed : (Extraction.run ⟨"a.jar".toList, .jar, .generate "x/.".toList, 1⟩
        (printing bareText) []).run' (holdingJar {} [name.memberName]) = none := by
      decide +kernel
    exact Action.ne_ok_of_run_eq_none failed found after ran
  · intro found after ran
    have failed : (Extraction.run ⟨"a.jar".toList, .jar, .generate "x".toList, 1⟩
        (printing bareText) []).run' (holdingJar cramped [name.memberName]) = none := by
      decide +kernel
    exact Action.ne_ok_of_run_eq_none failed found after ran
  · intro found after ran
    have failed : (Extraction.run ⟨"a.jar".toList, .jar, .generate "x".toList, 1⟩
        (printing bareText) []).run' (holdingJar { nameBytes := some 14 } [name.memberName]) =
          none := by
      decide +kernel
    exact Action.ne_ok_of_run_eq_none failed found after ran

end Extraction

end ApiSurface
