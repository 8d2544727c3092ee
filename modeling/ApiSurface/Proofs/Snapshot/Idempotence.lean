import ApiSurface.Proofs.Files.Restoring
import ApiSurface.Proofs.Snapshot.Progress

/-! Generating a snapshot once more.  All directories and files are there by then, so each file is
stored over itself, and of those that share a file the last one is stored again at the end. -/

namespace ApiSurface

namespace FileSystem

open ApiSurface.Path

variable {before after files : FileSystem} {path : Path} {absolute : Bool}
  {room : Location → Prop} {content : Location → Option Bytes}

/-- Creating the directory changes nothing, because it is there or is the working directory. -/
def HasDirectory (files : FileSystem) (path : Path) : Prop :=
  path = [] ∨ ∃ location, files.locate path = .ok location ∧
    files.kind? path.isAbsolute location = some .directory

theorem hasDirectory_of_created (created : before.createDirectories path = (.ok (), after)) :
    after.HasDirectory path := by
  by_cases empty : path = []
  · exact .inl empty
  · obtain ⟨located, directories⟩ := createDirectories_inversion empty created
    exact .inr ⟨_, located, directories _ (reach_mem_trail [] path.steps)⟩

theorem HasDirectory.createDirectories (has : files.HasDirectory path) :
    files.createDirectories path = (.ok (), files) := by
  rcases has with rfl | ⟨location, located, stands⟩
  · rfl
  · exact createDirectories_settled located stands

theorem HasDirectory.overlay (has : before.HasDirectory path)
    (overlay : Overlay absolute room content before after) : after.HasDirectory path := by
  apply has.imp_right
  rintro ⟨location, located, stands⟩
  exact ⟨location, overlay.locate located, overlay.directory stands⟩

end FileSystem

namespace Snapshot

open ApiSurface.Path FileSystem PackageMap

variable {σ : Type} {before state middle after : RunState σ} {root : Path} {package : Text}
  {entry : Entry} {entries later : List Entry} {groups : List (Text × List Entry)}
  {start files : FileSystem} {found : List Mismatch}

/-- The file of the entry is there and can be reached, and has room for the source. -/
structure IsStored (files : FileSystem) (root : Path) (entry : Entry) : Prop where
  located : files.locate (destination root entry) = .ok (target root entry)
  room : files.HasRoom root.isAbsolute (target root entry) (Utf8.encode entry.source)
  stands : ∃ data, files.kind? root.isAbsolute (target root entry) = some (.file data)

theorem IsStored.overlay {content : Location → Option Bytes} (stored : IsStored start root entry)
    (overlay : Overlay root.isAbsolute (fun _ => False) content start files) :
    IsStored files root entry where
  located := overlay.locate stored.located
  room := overlay.hasRoom_iff.mpr stored.room
  stands := by
    cases covered : content (target root entry) with
    | some bytes =>
        obtain ⟨executable, stands⟩ := overlay.written covered
        exact ⟨_, stands⟩
    | none =>
        rcases overlay.kept covered with same | ⟨nowhere, -⟩
        · rw [same]
          exact stored.stands
        · exact nowhere.elim

/-- The files with the sources of the entries stored over what they held. -/
def restored (root : Path) (files : FileSystem) (entries : List Entry) : FileSystem :=
  entries.foldl (fun files entry =>
    files.restore root.isAbsolute (target root entry) (Utf8.encode entry.source)) files

@[simp] theorem restored_cons (root : Path) (files : FileSystem) (entry : Entry)
    (entries : List Entry) :
    restored root files (entry :: entries) =
      restored root
        (files.restore root.isAbsolute (target root entry) (Utf8.encode entry.source))
        entries := rfl

theorem restored_append (root : Path) (files : FileSystem) (entries later : List Entry) :
    restored root files (entries ++ later) =
      restored root (restored root files entries) later :=
  List.foldl_append

theorem IsStored.restores (stored : IsStored files root entry) :
    Overlay root.isAbsolute (fun _ => False) (written root [entry]) files
      (files.restore root.isAbsolute (target root entry) (Utf8.encode entry.source)) := by
  obtain ⟨data, stands⟩ := stored.stands
  rw [written_singleton]
  exact overlay_restore stands _

theorem restored_overlay (stored : ∀ entry ∈ entries, IsStored files root entry) :
    Overlay root.isAbsolute (fun _ => False) (written root entries) files
      (restored root files entries) := by
  induction entries generalizing files with
  | nil => exact .refl files
  | cons entry entries induction =>
      obtain ⟨here, others⟩ := List.forall_mem_cons.mp stored
      rw [restored_cons, ← List.singleton_append, written_append]
      apply here.restores.trans
      exact induction fun other member => (others other member).overlay here.restores

theorem restored_of_overwritten (stored : ∀ entry ∈ entries, IsStored files root entry)
    (stored' : IsStored files root entry)
    (again : ∃ other ∈ entries, target root other = target root entry) :
    restored root
        (files.restore root.isAbsolute (target root entry) (Utf8.encode entry.source)) entries =
      restored root files entries := by
  induction entries generalizing files with
  | nil => simp at again
  | cons first entries induction =>
      obtain ⟨here, others⟩ := List.forall_mem_cons.mp stored
      obtain ⟨data, stands⟩ := stored'.stands
      rw [restored_cons, restored_cons]
      by_cases same : target root first = target root entry
      · rw [same, restore_restore stands]
      · obtain ⟨other, member, shared⟩ := again
        have later : other ∈ entries := by
          rcases List.mem_cons.mp member with rfl | later
          · exact absurd shared same
          · exact later
        obtain ⟨data', stands'⟩ := here.stands
        rw [restore_comm (Ne.symm same) stands stands']
        apply induction
        · exact fun other member => (others other member).overlay here.restores
        · exact stored'.overlay here.restores
        · exact ⟨other, later, shared⟩

theorem restored_eq_self (stored : ∀ entry ∈ entries, IsStored files root entry)
    (settled : ∀ location bytes, written root entries location = some bytes →
      ∃ executable, files.kind? root.isAbsolute location = some (.file ⟨bytes, executable⟩)) :
    restored root files entries = files := by
  induction entries with
  | nil => rfl
  | cons entry entries induction =>
      obtain ⟨here, others⟩ := List.forall_mem_cons.mp stored
      rw [← List.singleton_append, written_append] at settled
      have rest : restored root files entries = files := by
        apply induction others
        intro location bytes covered
        exact settled location bytes (by simp [covered])
      rw [restored_cons]
      by_cases again : ∃ other ∈ entries, target root other = target root entry
      · rw [restored_of_overwritten others here again, rest]
      · have last : written root entries (target root entry) = none := by
          by_contra covered
          exact again (written_ne_none_iff.mp covered)
        obtain ⟨executable, stands⟩ := settled (target root entry) (Utf8.encode entry.source)
          (by simp [last, written_singleton])
        rw [restore_self stands, rest]

theorem generateEntry_of_stored (plain : entry.IsPlain)
    (stored : IsStored state.files root entry) :
    generateEntry (packageDirectory root entry.package) entry state =
      .ok () { state with files := restored root state.files [entry] } := by
  obtain ⟨data, stands⟩ := stored.stands
  rw [generateEntry_eq_ok_iff]
  refine ⟨_, ?_, rfl⟩
  rw [write_eq _ stored.located, isAbsolute_destination plain, stands,
    not_demandsDirectory_destination plain, if_pos stored.room, stored.room.portion_eq,
    restored_cons, restore, stands]
  rfl

theorem generateEntries_of_stored (group : IsGroup package entries)
    (stored : ∀ entry ∈ entries, IsStored state.files root entry) :
    entries.forM (generateEntry (packageDirectory root package)) state =
      .ok () { state with files := restored root state.files entries } := by
  induction entries generalizing state with
  | nil => rfl
  | cons entry entries induction =>
      obtain ⟨plainHere, plain⟩ := List.forall_mem_cons.mp group.plain
      obtain ⟨rfl, together⟩ := List.forall_mem_cons.mp group.together
      obtain ⟨here, others⟩ := List.forall_mem_cons.mp stored
      rw [Action.forM_cons_eq_ok_iff]
      refine ⟨_, generateEntry_of_stored plainHere here, ?_⟩
      apply @induction { state with files := restored root state.files [entry] }
        ⟨group.clean, plain, together⟩
      exact fun other member => (others other member).overlay here.restores

theorem generatePackage_of_stored (group : IsGroup package entries)
    (has : state.files.HasDirectory (packageDirectory root package))
    (stored : ∀ entry ∈ entries, IsStored state.files root entry) :
    ∃ log, generatePackage (packageDirectory root package) entries state =
      .ok () { state with files := restored root state.files entries, log } := by
  simp only [generatePackage, Action.bind_eq_ok_iff, Action.createDirectories_eq_ok_iff,
    Action.note_eq_ok_iff]
  exact ⟨_, (), state, ⟨state.files, has.createDirectories, rfl⟩, (), _,
    generateEntries_of_stored group stored, trivial, rfl⟩

theorem reconcileAll_generate_of_stored
    (grouped : ∀ group ∈ groups, IsGroup group.1 group.2)
    (has : ∀ group ∈ groups, state.files.HasDirectory (packageDirectory root group.1))
    (stored : ∀ entry ∈ groups.flatMap Prod.snd, IsStored state.files root entry) :
    ∃ log, reconcileAll (.generate root) groups state =
      .ok [] { state with files := restored root state.files (groups.flatMap Prod.snd), log } := by
  induction groups generalizing state with
  | nil => exact ⟨state.log, rfl⟩
  | cons group groups induction =>
      obtain ⟨package, entries⟩ := group
      obtain ⟨here, others⟩ := List.forall_mem_cons.mp grouped
      obtain ⟨hasHere, hasOthers⟩ := List.forall_mem_cons.mp has
      rw [List.flatMap_cons] at stored ⊢
      obtain ⟨storedHere, storedOthers⟩ := List.forall_mem_append.mp stored
      obtain ⟨log, first⟩ := generatePackage_of_stored here hasHere storedHere
      have overlay := restored_overlay storedHere
      obtain ⟨log', rest⟩ :=
        @induction { state with files := restored root state.files entries, log } others
          (fun group member => (hasOthers group member).overlay overlay)
          (fun entry member => (storedOthers entry member).overlay overlay)
      refine ⟨log', ?_⟩
      simp only [reconcileAll, reconcilePackage, Action.bind_eq_ok_iff, Action.pure_eq_ok_iff]
      refine ⟨[], _, ⟨(), _, first, rfl, rfl⟩, [], _, rest, rfl, ?_⟩
      rw [restored_append]

theorem Progress.isStored {room : Location → Prop}
    (progress : Progress root room entries state after) (member : entry ∈ entries) :
    IsStored after.files root entry where
  located := progress.located entry member
  room := progress.spacious entry member
  stands := by
    obtain ⟨bytes, covered⟩ :=
      Option.ne_none_iff_exists'.mp (written_ne_none_iff.mpr ⟨entry, member, rfl⟩)
    obtain ⟨executable, stands⟩ := progress.overlay.written covered
    exact ⟨_, stands⟩

theorem reconcileAll_generate_progress (straight : root.IsStraight)
    (grouped : ∀ group ∈ groups, IsGroup group.1 group.2)
    (ran : reconcileAll (.generate root) groups state = .ok found after) :
    Progress root (fun _ => True) (groups.flatMap Prod.snd) state after := by
  have advances : Advances root (fun _ => True) (groups.flatMap Prod.snd)
      (reconcileAll (.generate root) groups : Action σ (List Mismatch)) :=
    reconcileAll_generate_advances straight grouped fun _ _ _ _ => trivial
  have progress := advances state
  rwa [ran] at progress

theorem generatePackage_hasDirectory (straight : root.IsStraight)
    (group : IsGroup package entries)
    (ran : generatePackage (packageDirectory root package) entries state = .ok () after) :
    after.files.HasDirectory (packageDirectory root package) := by
  simp only [generatePackage, Action.bind_eq_ok_iff, Action.createDirectories_eq_ok_iff,
    Action.note_eq_ok_iff] at ran
  obtain ⟨_, _, ⟨files, created, rfl⟩, _, middle, wrote, -, rfl⟩ := ran
  have advances : Advances root (fun _ => True) entries
      (entries.forM (generateEntry (packageDirectory root package)) : Action σ Unit) := by
    refine .forM fun entry member => ?_
    rw [← group.together entry member]
    exact generateEntry_advances straight (group.plain entry member)
  have progress := advances { state with files }
  rw [wrote] at progress
  exact (hasDirectory_of_created created).overlay progress.overlay

theorem reconcileAll_generate_hasDirectory (straight : root.IsStraight)
    (grouped : ∀ group ∈ groups, IsGroup group.1 group.2)
    (ran : reconcileAll (.generate root) groups state = .ok found after) :
    ∀ group ∈ groups, after.files.HasDirectory (packageDirectory root group.1) := by
  induction groups generalizing state found with
  | nil => simp
  | cons group groups induction =>
      obtain ⟨package, entries⟩ := group
      obtain ⟨here, others⟩ := List.forall_mem_cons.mp grouped
      simp only [reconcileAll, reconcilePackage, Action.bind_eq_ok_iff,
        Action.pure_eq_ok_iff] at ran
      obtain ⟨_, middle, ⟨_, _, first, -, rfl⟩, _, _, rest, -, rfl⟩ := ran
      have progress := reconcileAll_generate_progress straight others rest
      have directory := generatePackage_hasDirectory straight here first
      exact List.forall_mem_cons.mpr
        ⟨directory.overlay progress.overlay, induction others rest⟩

/-- Where a snapshot was generated, generating it once more goes through and changes nothing, even
if entries of different sources share a file. -/
theorem generate_again (plain : ∀ entry ∈ entries, entry.IsPlain) (straight : root.IsStraight)
    (generated : reconcile (.generate root) (ofEntries entries) before = .ok found middle)
    (same : state.files = middle.files) :
    ∃ after, reconcile (.generate root) (ofEntries entries) state = .ok [] after ∧
      after.files = middle.files ∧ after.report = state.report := by
  have grouped := fun group => @isGroup_of_mem entries plain group
  have has := reconcileAll_generate_hasDirectory straight grouped generated
  have progress : Progress root (fun _ => True) (ofEntries entries).entries before middle :=
    reconcileAll_generate_progress straight grouped generated
  have stored : ∀ entry ∈ (ofEntries entries).entries, IsStored state.files root entry :=
    fun entry member => same ▸ progress.isStored member
  obtain ⟨log, ran⟩ := reconcileAll_generate_of_stored grouped (same ▸ has) stored
  refine ⟨_, ran, ?_, rfl⟩
  rw [← same]
  apply restored_eq_self stored
  intro location bytes covered
  rw [same]
  exact progress.overlay.written covered

theorem generate_again_sample :
    let entries : List Entry := [⟨"a.b".toList, "A.java".toList, "one\n".toList⟩,
      ⟨"a..b".toList, "A.java".toList, "two\n".toList⟩]
    let generate : Action Unit (List Mismatch) := reconcile (.generate []) (ofEntries entries)
    ∃ middle after,
      generate ⟨{}, [], [], ()⟩ = .ok [] middle ∧
      middle.files.file "a/b/A.java".toList = .ok ⟨Utf8.encode "one\n".toList, false⟩ ∧
      generate middle = .ok [] after ∧ after.files = middle.files := by
  intro entries generate
  obtain ⟨middle, generated⟩ : ∃ middle, generate ⟨{}, [], [], ()⟩ = .ok [] middle :=
    Action.answer_eq_ok_iff.mp (by decide +kernel)
  have held : (generate.final ⟨{}, [], [], ()⟩).files.file "a/b/A.java".toList =
      .ok ⟨Utf8.encode "one\n".toList, false⟩ := by decide +kernel
  rw [Action.final_of_ok generated] at held
  obtain ⟨after, ran, same, -⟩ := generate_again (by decide : ∀ entry ∈ entries, entry.IsPlain)
    (by decide) generated rfl
  exact ⟨middle, after, generated, held, ran, same⟩

end Snapshot

end ApiSurface
