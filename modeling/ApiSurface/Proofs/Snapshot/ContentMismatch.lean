import ApiSurface.Proofs.Files.Alteration
import ApiSurface.Proofs.Snapshot.Report
import ApiSurface.Proofs.Text.Decoding

/-! What the mismatches of a comparison say about the files.  A comparison creates directories while
it goes on, but a file that it has read is still the same when it is over. -/

namespace ApiSurface

namespace Snapshot

open ApiSurface.Path FileSystem PackageMap ApiSurface.Action Utf8

variable {σ : Type} {state before after : RunState σ} {root : Path} {package : Text}
  {entries compared more : List Entry} {groups : List (Text × List Entry)}
  {first middle last : FileSystem} {found recorded later : List Mismatch}
  {failure : Failure}

/-- The mismatches recorded for the entries compared.  One of content is about a file that differs,
and whatever is not missing has a file that tells whether there is one. -/
structure Accounts (root : Path) (first last : FileSystem) (compared : List Entry)
    (recorded : List Mismatch) : Prop where
  kept : KeepsFiles first last
  sound : ∀ {path expected actual}, .content path expected actual ∈ recorded →
    ∃ entry ∈ compared, destination root entry = path ∧ entry.source = expected ∧
      ∃ data, last.file path = .ok data ∧ data.content ≠ encode expected ∧
        actual = decodeLossy data.content
  complete : ∀ entry ∈ compared,
    .missing entry.package entry.fileName (destination root entry) ∈ recorded ∨
      ∃ data, last.file (destination root entry) = .ok data ∧
        (data.content ≠ encode entry.source →
          .content (destination root entry) entry.source (decodeLossy data.content) ∈ recorded)
  present : ∀ {package fileName path data}, first.file path = .ok data →
    .missing package fileName path ∉ recorded

theorem Accounts.of_kept (kept : KeepsFiles first last) : Accounts root first last [] [] where
  kept := kept
  sound := by simp
  complete := by simp
  present := by simp

theorem Accounts.append (earlier : Accounts root first middle compared recorded)
    (rest : Accounts root middle last more later) :
    Accounts root first last (compared ++ more) (recorded ++ later) where
  kept := fun held => rest.kept (earlier.kept held)
  sound := by
    intro path expected actual member
    rcases List.mem_append.mp member with here | there
    · obtain ⟨entry, among, leads, holds, data, held, outcome⟩ := earlier.sound here
      exact ⟨entry, List.mem_append_left _ among, leads, holds, data, rest.kept held, outcome⟩
    · obtain ⟨entry, among, outcome⟩ := rest.sound there
      exact ⟨entry, List.mem_append_right _ among, outcome⟩
  complete := by
    intro entry member
    rcases List.mem_append.mp member with here | there
    · rcases earlier.complete entry here with missing | ⟨data, held, differs⟩
      · exact .inl (List.mem_append_left _ missing)
      · exact .inr ⟨data, rest.kept held, List.mem_append_left _ ∘ differs⟩
    · rcases rest.complete entry there with missing | ⟨data, held, differs⟩
      · exact .inl (List.mem_append_right _ missing)
      · exact .inr ⟨data, held, List.mem_append_right _ ∘ differs⟩
  present := by
    intro package fileName path data held member
    rcases List.mem_append.mp member with here | there
    · exact earlier.present held here
    · exact rest.present (earlier.kept held) there

theorem accounts_differences (files : FileSystem) (root : Path) (entries : List Entry) :
    Accounts root files files entries (entries.filterMap (difference? files root)) where
  kept := id
  sound := by
    intro path expected actual member
    obtain ⟨entry, among, differs⟩ := List.mem_filterMap.mp member
    rw [difference?] at differs
    cases held : files.file (destination root entry) with
    | error fault => simp [held] at differs
    | ok data =>
        simp only [held] at differs
        split_ifs at differs with same
        cases differs
        exact ⟨entry, among, rfl, rfl, data, held, same, rfl⟩
  complete := by
    intro entry member
    cases held : files.file (destination root entry) with
    | error fault =>
        refine .inl (List.mem_filterMap.mpr ⟨entry, member, ?_⟩)
        rw [difference?, held]
    | ok data =>
        refine .inr ⟨data, rfl, fun differs => List.mem_filterMap.mpr ⟨entry, member, ?_⟩⟩
        rw [difference?, held]
        exact if_neg differs
  present := by
    intro package fileName path data held member
    obtain ⟨entry, -, differs⟩ := List.mem_filterMap.mp member
    rw [difference?] at differs
    cases found : files.file (destination root entry) with
    | error fault =>
        simp only [found] at differs
        cases differs
        cases found.symm.trans held
    | ok data =>
        simp only [found] at differs
        split_ifs at differs
        cases differs

theorem accounts_stale (files : FileSystem) (root directory : Path) (names : List Text) :
    Accounts root files files [] (names.map (staleAt directory)) where
  kept := id
  sound := by simp [staleAt]
  complete := by simp
  present := by simp [staleAt]

theorem accounts_created (root path : Path) (files : FileSystem) :
    Accounts root files (files.createDirectories path).2 [] [] :=
  .of_kept (keepsFiles_of_created files path)

theorem comparePackage_accounts (together : ∀ entry ∈ entries, entry.package = package)
    (ran : comparePackage package (packageDirectory root package) entries state =
      .ok found after) : Accounts root state.files after.files entries found := by
  obtain ⟨listed, files, -, created, -, rfl, rfl⟩ :=
    (comparePackage_eq_ok_iff together).mp ran
  have made := accounts_created root (packageDirectory root package) state.files
  rw [created] at made
  have whole := made.append ((accounts_differences files root entries).append
    (accounts_stale files root (packageDirectory root package)
      (sourceNames files (packageDirectory root package) (unclaimed entries (listed.getD [])))))
  rwa [List.append_nil] at whole

theorem reconcileAll_compare_accounts (together : Together groups)
    (ran : reconcileAll (.compare root) groups state = .ok found after) :
    Accounts root state.files after.files (groups.flatMap Prod.snd) found := by
  induction groups generalizing state found with
  | nil =>
      obtain ⟨rfl, rfl⟩ := pure_eq_ok_iff.mp ran
      exact .of_kept id
  | cons group groups induction =>
      obtain ⟨here, others⟩ := List.forall_mem_cons.mp together
      simp only [reconcileAll_compare_cons, bind_eq_ok_iff, pure_eq_ok_iff] at ran
      obtain ⟨found, middle, compared, later, last, rest, rfl, rfl⟩ := ran
      exact (comparePackage_accounts here compared).append (induction others rest)

theorem StopsIn.accounts
    (stops : StopsIn root package entries state failure after compared recorded) :
    Accounts root state.files after.files compared recorded := by
  cases stops with
  | listing => exact .of_kept id
  | creating _ refused =>
      have made := accounts_created root (packageDirectory root package) state.files
      rwa [refused] at made
  | @reading files _ _ _ _ _ created _ _ =>
      have made := accounts_created root (packageDirectory root package) state.files
      rw [created] at made
      exact made.append (accounts_differences files root compared)

theorem Compares.accounts (together : Together groups)
    (compares : Compares root before groups compared recorded) :
    Accounts root before.files ((reconcileAll (.compare root) groups).final before).files
      compared recorded := by
  cases compares with
  | through ran =>
      rw [final_of_ok ran]
      exact reconcileAll_compare_accounts together ran
  | stopped failed stops =>
      rw [final_of_error failed]
      cases stops with
      | within ran stops =>
          have through := reconcileAll_compare_accounts
            (fun group member => together group (List.mem_append_left _ member)) ran
          exact through.append stops.accounts

/-- A mismatch of content tells the text of the file from that of the entry, or else shows that the
file is no text.  There is one whenever the bytes of the file are not those of the entry, and only
then. -/
theorem content_mismatch_tells_apart (entries : List Entry) (root : Path) (before : RunState σ) :
    let compare : Action σ (List Mismatch) := reconcile (.compare root) (ofEntries entries)
    let after : RunState σ := compare.final before
    (∃ compared recorded,
      Compares root before (ofEntries entries).packages compared recorded) ∧
    ∀ compared recorded, Compares root before (ofEntries entries).packages compared recorded →
      after.report = before.report ++ recorded.flatMap Mismatch.line ∧
      (∀ path expected actual, .content path expected actual ∈ recorded →
        ∃ entry ∈ compared, destination root entry = path ∧ entry.source = expected ∧
          ∃ data, after.files.file path = .ok data ∧
            TellsApart data.content expected actual) ∧
      ∀ entry ∈ compared,
        (.missing entry.package entry.fileName (destination root entry) ∉ recorded →
          ∃ data, after.files.file (destination root entry) = .ok data ∧
            ((∃ actual, .content (destination root entry) entry.source actual ∈ recorded) ↔
              data.content ≠ encode entry.source)) ∧
        ∀ data, before.files.file (destination root entry) = .ok data →
          after.files.file (destination root entry) = .ok data ∧
            .missing entry.package entry.fileName (destination root entry) ∉ recorded := by
  intro compare after
  have together := together_ofEntries entries
  refine ⟨exists_compares together, ?_⟩
  intro compared recorded compares
  have accounts : Accounts root before.files after.files compared recorded :=
    compares.accounts together
  refine ⟨compares.report together, ?_, fun entry member => ⟨?_, ?_⟩⟩
  · intro path expected actual shown
    obtain ⟨entry, among, leads, holds, data, held, differs, rfl⟩ := accounts.sound shown
    exact ⟨entry, among, leads, holds, data, held, (reads_decodeLossy _).tellsApart differs⟩
  · intro present
    obtain ⟨data, held, differs⟩ := (accounts.complete entry member).resolve_left present
    refine ⟨data, held, ?_, fun differ => ⟨_, differs differ⟩⟩
    rintro ⟨actual, shown⟩
    obtain ⟨_, -, -, -, other, held', differ, -⟩ := accounts.sound shown
    cases held.symm.trans held'
    exact differ
  · intro data held
    exact ⟨accounts.kept held, accounts.present held⟩

theorem content_mismatch_tells_apart_sample :
    let source : Text := [replacement]
    let entries : List Entry := [⟨"p".toList, "A.java".toList, source⟩]
    let before : RunState Unit :=
      ⟨(FileSystem.plant {} "s/p/A.java".toList [0xFF]).2, [], [], ()⟩
    let compare : Action Unit (List Mismatch) := reconcile (.compare "s".toList) (ofEntries entries)
    (∃ after, compare before = .ok [.content "s/p/A.java".toList source source] after) ∧
      TellsApart [0xFF] source source := by
  intro source entries before compare
  obtain ⟨after, ran⟩ : ∃ after,
      compare before = .ok [.content "s/p/A.java".toList source source] after :=
    answer_eq_ok_iff.mp (by decide +kernel)
  obtain ⟨-, sound, decided⟩ :=
    (content_mismatch_tells_apart entries "s".toList before).2 _ _ (.through ran)
  obtain ⟨-, -, -, -, data, held, tells⟩ := sound _ _ _ List.mem_cons_self
  have planted : before.files.file "s/p/A.java".toList = .ok ⟨[0xFF], false⟩ := rfl
  obtain ⟨kept, -⟩ := (decided _ List.mem_cons_self).2 _ planted
  cases held.symm.trans kept
  exact ⟨⟨after, ran⟩, tells⟩

end Snapshot

end ApiSurface
