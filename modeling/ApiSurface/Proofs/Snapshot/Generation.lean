import ApiSurface.Proofs.Action
import ApiSurface.Proofs.Snapshot.Openness

/-! What generating a snapshot leaves behind.  Of the entries that share a file the last one is
in it. -/

namespace ApiSurface

namespace Snapshot

open ApiSurface.Path FileSystem

variable {σ : Type} {state after : RunState σ} {root : Path} {package : Text} {entry : Entry}
  {entries later : List Entry} {groups : List (Text × List Entry)} {location : Location}

def written (root : Path) (entries : List Entry) (location : Location) : Option Bytes :=
  (entries.filter fun entry => target root entry = location).getLast?.map fun entry =>
    Utf8.encode entry.source

theorem written_append :
    written root (entries ++ later) =
      fun location => (written root later location).or (written root entries location) := by
  funext location
  simp [written, List.getLast?_append, Option.map_or]

theorem written_singleton :
    written root [entry] =
      fun location => if location = target root entry then some (Utf8.encode entry.source)
        else none := by
  funext location
  by_cases same : target root entry = location <;> simp [written, same, @eq_comm _ location]

theorem written_ne_none_iff :
    written root entries location ≠ none ↔ ∃ entry ∈ entries, target root entry = location := by
  simp [written]

theorem written_of_ground (plain : ∀ entry ∈ entries, entry.IsPlain)
    (ground : Ground root location) : written root entries location = none := by
  by_contra covered
  obtain ⟨entry, member, rfl⟩ := written_ne_none_iff.mp covered
  exact not_ground_target (plain entry member) ground

theorem generateEntry_eq_ok_iff {answer : Unit} :
    generateEntry (packageDirectory root entry.package) entry state = .ok answer after ↔
      ∃ files, state.files.write (destination root entry) (Utf8.encode entry.source) =
        (.ok (), files) ∧ after = { state with files } :=
  Action.writeFile_eq_ok_iff

theorem built_of_write (isRoot : IsRoot root) {start files : FileSystem} (plain : entry.IsPlain)
    (wrote : start.write (destination root entry) (Utf8.encode entry.source) = (.ok (), files)) :
    Built root (written root [entry]) start files ∧ start.Admits (destination root entry) ∧
      start.HasRoom root.isAbsolute (target root entry) (Utf8.encode entry.source) := by
  obtain ⟨location, located, room, overlay⟩ := write_inversion wrote
  have reached : location = target root entry :=
    (names_of_locate (isStraight_destination isRoot.straight plain) located).trans
      (names_destination plain)
  subst reached
  rw [isAbsolute_destination plain] at overlay room
  rw [written_singleton]
  exact ⟨overlay.mono fun _ => False.elim, (locate_eq_ok_iff.mp located).2.2.1, room⟩

theorem generateEntries_inversion {answer : Unit} (isRoot : IsRoot root)
    (group : IsGroup package entries) (proper : state.files.IsProper)
    (ran : entries.forM (generateEntry (packageDirectory root package)) state =
      .ok answer after) :
    Built root (written root entries) state.files after.files ∧ after.files.IsProper ∧
      (∀ entry ∈ entries, state.files.Admits (destination root entry)) ∧
      HasRoomFor state.files root entries ∧ after.report = state.report := by
  induction entries generalizing state with
  | nil =>
      obtain ⟨-, rfl⟩ := Action.pure_eq_ok_iff.mp ran
      exact ⟨.refl _, proper, by simp, by simp [HasRoomFor], rfl⟩
  | cons entry entries induction =>
      obtain ⟨plainHere, plain⟩ := List.forall_mem_cons.mp group.plain
      obtain ⟨rfl, together⟩ := List.forall_mem_cons.mp group.together
      obtain ⟨middle, first, rest⟩ := Action.forM_cons_eq_ok_iff.mp ran
      obtain ⟨files, wrote, rfl⟩ := generateEntry_eq_ok_iff.mp first
      obtain ⟨built, admitted, room⟩ := built_of_write isRoot plainHere wrote
      have properHere : files.IsProper := by
        have := proper.write (destination root entry) (Utf8.encode entry.source)
        rwa [wrote] at this
      obtain ⟨builtLater, properLater, admittedLater, roomLater, reported⟩ :=
        induction ⟨group.clean, plain, together⟩ properHere rest
      refine ⟨?_, properLater, ?_, ?_, reported⟩
      · rw [← List.singleton_append, written_append]
        exact built.trans builtLater
      · refine List.forall_mem_cons.mpr ⟨admitted, fun entry member => ?_⟩
        exact built.admits_iff.mp (admittedLater entry member)
      · exact List.forall_mem_cons.mpr ⟨room, (hasRoomFor_iff built).mp roomLater⟩

structure Generates (root : Path) (groups : List (Text × List Entry))
    (state after : RunState σ) : Prop where
  built : Built root (written root (groups.flatMap Prod.snd)) state.files after.files
  proper : after.files.IsProper
  homes : ∀ group ∈ groups, IsHome after.files root group.1
  fits : ∀ group ∈ groups, ∀ entry ∈ group.2, after.files.Admits (destination root entry)
  room : ∀ group ∈ groups, HasRoomFor after.files root group.2
  report : after.report = state.report

theorem Generates.nil (proper : state.files.IsProper) : Generates root [] state state where
  built := .refl _
  proper
  homes := by simp
  fits := by simp
  room := by simp
  report := rfl

theorem Generates.append {middle : RunState σ} {more : List (Text × List Entry)}
    (first : Generates root groups state middle) (second : Generates root more middle after) :
    Generates root (groups ++ more) state after where
  built := by
    rw [List.flatMap_append, written_append]
    exact first.built.trans second.built
  proper := second.proper
  homes := List.forall_mem_append.mpr
    ⟨fun group member => (first.homes group member).built second.built, second.homes⟩
  fits := List.forall_mem_append.mpr
    ⟨fun group member entry inside =>
      second.built.admits_iff.mpr (first.fits group member entry inside), second.fits⟩
  room := List.forall_mem_append.mpr
    ⟨fun group member => (hasRoomFor_iff second.built).mpr (first.room group member), second.room⟩
  report := second.report.trans first.report

theorem generatePackage_inversion {answer : Unit} (isRoot : IsRoot root)
    (group : IsGroup package entries) (proper : state.files.IsProper)
    (ran : generatePackage (packageDirectory root package) entries state =
      .ok answer after) :
    Generates root [(package, entries)] state after := by
  simp only [generatePackage, Action.bind_eq_ok_iff, Action.createDirectories_eq_ok_iff,
    Action.note_eq_ok_iff] at ran
  obtain ⟨_, _, ⟨files, created, rfl⟩, _, middle, wrote, -, rfl⟩ := ran
  obtain ⟨grown, isHome⟩ := built_of_created isRoot group.clean created
  have properGrown : files.IsProper := by
    have := proper.createDirectories (packageDirectory root package)
    rwa [created] at this
  obtain ⟨built, properLater, admitted, room, reported⟩ :=
    generateEntries_inversion isRoot group properGrown wrote
  have whole : Built root (written root entries) state.files middle.files := by
    simpa using grown.trans built
  exact {
    built := by simpa using whole
    proper := properLater
    homes := by simpa using isHome.built built
    fits := by simpa using fun entry member => built.admits_iff.mpr (admitted entry member)
    room := by simpa using (hasRoomFor_iff built).mpr room
    report := reported }

theorem reconcileAll_generate_finds {found : List Mismatch}
    (ran : reconcileAll (.generate root) groups state = .ok found after) : found = [] := by
  induction groups generalizing state after found with
  | nil => exact (Action.pure_eq_ok_iff.mp ran).1
  | cons group groups induction =>
      simp only [reconcileAll, reconcilePackage, Action.bind_eq_ok_iff,
        Action.pure_eq_ok_iff] at ran
      obtain ⟨_, _, ⟨_, _, -, rfl, -⟩, _, _, rest, rfl, -⟩ := ran
      exact induction rest

/-- Generating a snapshot lays the entries over the files, and leaves every package with its
directory. -/
theorem reconcileAll_generate_inversion {found : List Mismatch} (isRoot : IsRoot root)
    (grouped : ∀ group ∈ groups, IsGroup group.1 group.2) (proper : state.files.IsProper)
    (ran : reconcileAll (.generate root) groups state = .ok found after) :
    found = [] ∧ Generates root groups state after := by
  induction groups generalizing state found with
  | nil =>
      obtain ⟨rfl, rfl⟩ := Action.pure_eq_ok_iff.mp ran
      exact ⟨rfl, .nil proper⟩
  | cons group groups induction =>
      obtain ⟨package, entries⟩ := group
      obtain ⟨here, others⟩ := List.forall_mem_cons.mp grouped
      simp only [reconcileAll, reconcilePackage, Action.bind_eq_ok_iff,
        Action.pure_eq_ok_iff] at ran
      obtain ⟨_, _, ⟨_, _, first, rfl, rfl⟩, _, _, rest, rfl, rfl⟩ := ran
      have generated := generatePackage_inversion isRoot here proper first
      obtain ⟨rfl, generatedLater⟩ := induction others generated.proper rest
      exact ⟨rfl, generated.append generatedLater⟩

theorem generateEntries_succeeds (isRoot : IsRoot root) (group : IsGroup package entries)
    (isHome : IsHome state.files root package)
    (fits : ∀ entry ∈ entries, state.files.Admits (destination root entry))
    (free : ∀ entry ∈ entries,
      state.files.kind? root.isAbsolute (target root entry) ≠ some .directory)
    (room : HasRoomFor state.files root entries) :
    ∃ after, entries.forM (generateEntry (packageDirectory root package)) state =
      .ok () after := by
  induction entries generalizing state with
  | nil => exact ⟨state, rfl⟩
  | cons entry entries induction =>
      obtain ⟨plainHere, plain⟩ := List.forall_mem_cons.mp group.plain
      obtain ⟨rfl, together⟩ := List.forall_mem_cons.mp group.together
      obtain ⟨fitsHere, fits⟩ := List.forall_mem_cons.mp fits
      obtain ⟨freeHere, free⟩ := List.forall_mem_cons.mp free
      obtain ⟨roomHere, roomLater⟩ := List.forall_mem_cons.mp room
      have others : IsGroup entry.package entries := ⟨group.clean, plain, together⟩
      have top := isAbsolute_packageDirectory root group.clean
      have located : state.files.locate (destination root entry) = .ok (target root entry) := by
        refine (locate_join_iff (packageDirectory_ne_nil isRoot.filled group.clean)
          plainHere.fileName).mpr ⟨fitsHere, _, isHome.located, top ▸ isHome.stands, ?_⟩
        rw [names_packageDirectory root group.clean]
        rfl
      rw [← isAbsolute_destination plainHere] at freeHere roomHere
      obtain ⟨files, wrote⟩ := write_succeeds located freeHere
        (not_demandsDirectory_destination plainHere) roomHere
      have built := (built_of_write isRoot plainHere wrote).1
      have isOpen := (isHome.isOpen isRoot group.clean fits free).built isRoot others built
        fun _ => written_of_ground (by simpa using plainHere)
      obtain ⟨after, rest⟩ := @induction { state with files } others (isHome.built built)
        isOpen.fits isOpen.free ((hasRoomFor_iff built).mpr roomLater)
      refine ⟨after, Action.forM_cons_eq_ok_iff.mpr ⟨{ state with files }, ?_, rest⟩⟩
      exact generateEntry_eq_ok_iff.mpr ⟨files, wrote, rfl⟩

theorem generatePackage_succeeds (isRoot : IsRoot root) (group : IsGroup package entries)
    (isOpen : IsOpen state.files root package entries)
    (room : HasRoomFor state.files root entries) :
    ∃ after, generatePackage (packageDirectory root package) entries state = .ok () after := by
  obtain ⟨files, created⟩ := isOpen.creates isRoot group.clean
  obtain ⟨grown, isHome⟩ := built_of_created isRoot group.clean created
  have later := isOpen.built isRoot group grown fun _ _ => rfl
  obtain ⟨after, wrote⟩ := @generateEntries_succeeds _ { state with files } _ _ _ isRoot group
    isHome later.fits later.free ((hasRoomFor_iff grown).mpr room)
  simp only [generatePackage, Action.bind_eq_ok_iff, Action.createDirectories_eq_ok_iff,
    Action.note_eq_ok_iff]
  exact ⟨_, (), _, ⟨files, created, rfl⟩, (), after, wrote, trivial, rfl⟩

theorem reconcileAll_generate_succeeds (isRoot : IsRoot root)
    (grouped : ∀ group ∈ groups, IsGroup group.1 group.2)
    (isOpen : ∀ group ∈ groups, IsOpen state.files root group.1 group.2)
    (room : ∀ group ∈ groups, HasRoomFor state.files root group.2)
    (proper : state.files.IsProper) :
    ∃ after, reconcileAll (.generate root) groups state = .ok [] after := by
  induction groups generalizing state with
  | nil => exact ⟨_, Action.pure_eq_ok_iff.mpr ⟨rfl, rfl⟩⟩
  | cons group groups induction =>
      obtain ⟨package, entries⟩ := group
      obtain ⟨here, others⟩ := List.forall_mem_cons.mp grouped
      obtain ⟨openHere, openOthers⟩ := List.forall_mem_cons.mp isOpen
      obtain ⟨roomHere, roomOthers⟩ := List.forall_mem_cons.mp room
      obtain ⟨middle, first⟩ := generatePackage_succeeds isRoot here openHere roomHere
      have generated := generatePackage_inversion isRoot here proper first
      have aside (location : Location) (ground : Ground root location) :
          written root ([(package, entries)].flatMap Prod.snd) location = none :=
        written_of_ground (by simpa using here.plain) ground
      obtain ⟨after, rest⟩ := induction others
        (fun group member =>
          (openOthers group member).built isRoot (others group member) generated.built aside)
        (fun group member => (hasRoomFor_iff generated.built).mpr (roomOthers group member))
        generated.proper
      refine ⟨after, ?_⟩
      simp only [reconcileAll, reconcilePackage, Action.bind_eq_ok_iff, Action.pure_eq_ok_iff]
      exact ⟨[], middle, ⟨(), middle, first, rfl, rfl⟩, [], after, rest, rfl, rfl⟩

end Snapshot

end ApiSurface
