import ApiSurface.Proofs.Snapshot.Alteration
import ApiSurface.Proofs.Snapshot.CompareRun
import ApiSurface.Proofs.Snapshot.Vacancy

/-! A comparison made once more.  The first one has created directories, and the second finds
nothing in them. -/

namespace ApiSurface

namespace FileSystem

open ApiSurface.Path

variable {files before after : FileSystem} {path : Path} {room : Location → Prop}

theorem exists_file_of_list_refused (admitted : files.Admits path)
    (refused : files.list path = .error .refused) :
    ∃ location ∈ trail [] path.steps, ∃ data,
      files.kind? path.isAbsolute location = some (.file data) := by
  cases located : files.locate path with
  | error fault =>
      by_contra clear
      push Not at clear
      cases fault with
      | absent => simp [list, node, located] at refused
      | refused =>
          refine locate_ne_refused admitted (fun start member data => ?_) located
          exact clear start (mem_trail.mpr (.inl member)) data
  | ok location =>
      have reached : location = reach [] path.steps := (locate_eq_ok_iff.mp located).2.1
      cases found : files.kind? path.isAbsolute location with
      | none => simp [list, node_eq_absent_iff.mpr (.inr ⟨location, located, found⟩)] at refused
      | some kind =>
          cases kind with
          | file data => exact ⟨location, reached ▸ reach_mem_trail _ _, data, found⟩
          | directory =>
              obtain ⟨names, listed⟩ := list_of_directory located found
              simp [listed] at refused

theorem list_refused_of_file {location : Location} {data : RegularFile} (filled : path ≠ [])
    (straight : path.IsStraight) (along : location ∈ trail [] path.steps)
    (stands : files.kind? path.isAbsolute location = some (.file data)) :
    files.list path = .error .refused := by
  cases located : files.locate path with
  | ok reached =>
      obtain ⟨-, rfl, -, directories⟩ := locate_eq_ok_iff.mp located
      rcases mem_trail.mp along with start | rfl
      · simp [directories location start] at stands
      · exact list_of_file located stands
  | error fault =>
      cases fault with
      | refused => exact list_of_refused located
      | absent =>
          -- What is missing lies behind the file, so the path leads through the file.
          obtain ⟨handed, start, member, missing⟩ := absent_of_locate filled located
          have startAbove := trail_steps straight (mem_trail.mpr (.inl member))
          rcases List.prefix_or_prefix_of_prefix startAbove (trail_steps straight along) with
            above | below
          · by_cases same : start = location
            · simp [same, stands] at missing
            · rw [kind?_above above same (by simp [stands])] at missing
              cases missing
          · have inner : location ≠ path.names := by
              rintro rfl
              rw [startAbove.eq_of_length_le below.length_le] at missing
              simp [stands] at missing
            rw [← reach_steps straight] at inner startAbove
            refine list_of_refused ?_
            rw [locate_eq_follow filled handed]
            exact follow_of_file straight location.nil_prefix (below.trans startAbove) inner stands

theorem Overlay.list_ne_refused
    (overlay : Overlay path.isAbsolute room (fun _ => none) before after) (filled : path ≠ [])
    (straight : path.IsStraight) (admitted : before.Admits path)
    (answered : before.list path ≠ .error .refused) : after.list path ≠ .error .refused := by
  intro refused
  obtain ⟨location, along, data, stands⟩ :=
    exists_file_of_list_refused (overlay.admits_iff.mpr admitted) refused
  exact answered (list_refused_of_file filled straight along (overlay.file_inversion rfl stands))

end FileSystem

namespace Snapshot

open ApiSurface.Path FileSystem PackageMap ApiSurface.Action

variable {σ : Type} {state after before : RunState σ} {root : Path} {package : Text}
  {entries : List Entry} {groups : List (Text × List Entry)} {files : FileSystem}
  {found : List Mismatch} {failure : Failure}

theorem comparePackage_repeats (isRoot : IsRoot root) (group : IsGroup package entries)
    (proper : state.files.IsProper)
    (ran : comparePackage package (packageDirectory root package) entries state =
      .ok found after)
    (later : Grown root after.files files) (properLater : files.IsProper) :
    comparePackage package (packageDirectory root package) entries { state with files } =
      .ok found { after with files } := by
  have isOpen := (comparePackage_opens isRoot group ran).built isRoot group later fun _ _ => rfl
  have isHome := (isHome_of_compared isRoot group ran).built later
  obtain ⟨rfl, -, -, grown, -⟩ :=
    comparePackage_inversion isRoot group proper (.refl state.files) ran
  obtain ⟨again, last, ran'⟩ := @comparePackage_succeeds _ { state with files } _ _ _ isRoot
    group isOpen
  have properAgain : ({ state with files } : RunState σ).files.IsProper := properLater
  obtain ⟨rfl, -⟩ :=
    comparePackage_inversion isRoot group properAgain (grown.trans later) ran'
  obtain ⟨_, _, -, -, -, -, rfl⟩ := (comparePackage_eq_ok_iff group.together).mp ran
  obtain ⟨_, made, -, created, -, -, rfl⟩ := (comparePackage_eq_ok_iff group.together).mp ran'
  have top := isAbsolute_packageDirectory root group.clean
  rw [createDirectories_settled isHome.located (top ▸ isHome.stands)] at created
  obtain rfl : files = made := congrArg Prod.snd created
  exact ran'

/-- The one way in which a comparison does not come to the same end again: it could not create a
directory because of a name that is too long, and when what lies above that is there, the directory
cannot even be listed. -/
def FailsElsewhere (root package : Text) (compare : Action σ (List Mismatch))
    (state again : RunState σ) : Prop :=
  ∃ after, (∃ name, .into name ∈ steps (packageDirectory root package) ∧
      state.files.admitsName name = false) ∧
    compare state = .error (.system .createDirectory (packageDirectory root package)) after ∧
    compare again = .error (.system .listDirectory (packageDirectory root package)) after

theorem comparePackage_fails_again (isRoot : IsRoot root) (group : IsGroup package entries)
    (failed : comparePackage package (packageDirectory root package) entries state =
      .error failure after) :
    comparePackage package (packageDirectory root package) entries
        { state with files := after.files } = .error failure after ∨
      FailsElsewhere root package
        (comparePackage package (packageDirectory root package) entries) state
        { state with files := after.files } := by
  have straight := isStraight_packageDirectory isRoot.straight group.clean
  have filled := packageDirectory_ne_nil isRoot.filled group.clean
  have top := isAbsolute_packageDirectory root group.clean
  rcases comparePackage_eq_error_iff.mp failed with
    ⟨-, -, rfl⟩ | ⟨answered, files, ⟨⟨fault, halted⟩, rfl, rfl⟩ | ⟨created, differed⟩⟩
  · exact .inl failed
  · -- Some directories may be there now, so the listing may stop further down.
    have overlay := createDirectories_overlay state.files (packageDirectory root package)
    have settled := createDirectories_repeats state.files (packageDirectory root package)
    rw [halted] at overlay settled
    by_cases refused : files.list (packageDirectory root package) = .error .refused
    · refine .inr ⟨_, ?_, failed, comparePackage_eq_error_iff.mpr (.inl ⟨refused, rfl, rfl⟩)⟩
      by_contra short
      push Not at short
      refine overlay.list_ne_refused filled straight ⟨?_, ?_⟩ answered refused
      · by_contra handed
        refine answered (list_of_refused ?_)
        rw [locate, if_neg (by simpa using filled), if_neg handed]
      · intro step member
        cases step with
        | into name => simpa [admitsStep] using short name member
        | stay => rfl
        | up => rfl
    · exact .inl (comparePackage_eq_error_iff.mpr
        (.inr ⟨refused, files, .inl ⟨⟨fault, settled⟩, rfl, rfl⟩⟩))
  · obtain ⟨-, isHome⟩ := built_of_created isRoot group.clean created
    have leaves : Leaves (· = ·)
        (compareEntries package (packageDirectory root package) entries : Action σ _) :=
      compareEntries_leaves package (packageDirectory root package) entries
    have kept : after.files = files := by
      have same := leaves { state with files }
      rw [final_of_error differed] at same
      exact same.symm
    obtain ⟨names, listed⟩ := list_of_directory isHome.located (top ▸ isHome.stands)
    rw [kept]
    exact .inl (comparePackage_eq_error_iff.mpr (.inr ⟨by simp [listed], files, .inr
      ⟨createDirectories_settled isHome.located (top ▸ isHome.stands), differed⟩⟩))

/-- What is proper stays proper, and nothing is new but directories of packages. -/
structure GrowsProperly (root : Path) (before after : FileSystem) : Prop where
  grown : Grown root before after
  proper : before.IsProper → after.IsProper

instance : Std.Refl (GrowsProperly root) :=
  ⟨fun files => ⟨.refl files, id⟩⟩

instance : IsTrans FileSystem (GrowsProperly root) :=
  ⟨fun _ _ _ first second =>
    ⟨first.grown.trans second.grown, second.proper ∘ first.proper⟩⟩

theorem growsProperly_of_created (isRoot : IsRoot root) (clean : Text.IsClean package)
    (files : FileSystem) :
    GrowsProperly root files (files.createDirectories (packageDirectory root package)).2 where
  grown := by
    have overlay := createDirectories_overlay files (packageDirectory root package)
    rw [isAbsolute_packageDirectory root clean] at overlay
    exact overlay.mono fun _ => ground_of_trail isRoot.straight clean
  proper := fun proper => proper.createDirectories _

theorem reconcileAll_compare_grows (isRoot : IsRoot root)
    (grouped : ∀ group ∈ groups, IsGroup group.1 group.2) :
    Leaves (GrowsProperly root)
      (reconcileAll (.compare root) groups : Action σ (List Mismatch)) :=
  reconcileAll_leaves fun group member =>
    comparePackage_leaves_created (growsProperly_of_created isRoot (grouped group member).clean)

theorem FailsElsewhere.bind {compare : Action σ (List Mismatch)} {again : RunState σ}
    (fails : FailsElsewhere root package compare state again)
    (next : List Mismatch → Action σ (List Mismatch)) :
    FailsElsewhere root package (compare >>= next) state again := by
  obtain ⟨after, long, creating, listing⟩ := fails
  exact ⟨after, long, bind_of_error next creating, bind_of_error next listing⟩

theorem reconcileAll_compare_repeats (isRoot : IsRoot root)
    (grouped : ∀ group ∈ groups, IsGroup group.1 group.2) (proper : state.files.IsProper)
    (left : ((reconcileAll (.compare root) groups).final state).files = files) :
    reconcileAll (.compare root) groups { state with files } =
        reconcileAll (.compare root) groups state ∨
      ∃ group ∈ groups, FailsElsewhere root group.1 (reconcileAll (.compare root) groups)
        state { state with files } := by
  -- What the whole comparison leaves is kept fixed, and each package is compared on it again.
  induction groups generalizing state with
  | nil =>
      obtain rfl : state.files = files := left
      exact .inl rfl
  | cons group groups induction =>
      obtain ⟨here, others⟩ := List.forall_mem_cons.mp grouped
      rw [reconcileAll_compare_cons] at left ⊢
      rw [final_bind] at left
      cases first : comparePackage group.1 (packageDirectory root group.1) group.2 state with
      | error failure middle =>
          rw [first] at left
          obtain rfl : middle.files = files := left
          rcases comparePackage_fails_again isRoot here first with same | elsewhere
          · exact .inl (bind_congr _ (same.trans first.symm))
          · exact .inr ⟨group, List.mem_cons_self, elsewhere.bind _⟩
      | ok found middle =>
          simp only [first] at left
          have rest : ((reconcileAll (.compare root) groups).final middle).files = files := by
            rw [final_bind] at left
            rw [← left, final]
            cases reconcileAll (.compare root) groups middle <;> rfl
          obtain ⟨-, -, properMiddle, grown, -⟩ :=
            comparePackage_inversion isRoot here proper (.refl state.files) first
          have grows := reconcileAll_compare_grows isRoot others middle
          rw [rest] at grows
          have second := comparePackage_repeats isRoot here proper first grows.grown
            (grows.proper properMiddle)
          rw [bind_of_ok _ first, bind_of_ok _ second]
          rcases induction others properMiddle rest with same | ⟨other, member, elsewhere⟩
          · exact .inl (bind_congr _ same)
          · obtain ⟨after, ⟨name, along, long⟩, creating, listing⟩ := elsewhere.bind
              fun later => pure (found ++ later)
            have sameLimit : middle.files.admitsName name = state.files.admitsName name :=
              grown.admitsStep_eq (.into name)
            exact .inr ⟨other, .tail group member, after, ⟨name, along, sameLimit ▸ long⟩,
              (bind_of_ok _ first).trans creating, (bind_of_ok _ second).trans listing⟩

/-- A comparison that is made once more, on the files that the first one has left, comes to the
same end: it gives the same mismatches or fails for the same reason, with the same report, and it
leaves the files alone.  Only where the first one could not create the directory of a package
because of a name that is too long may the second one fail to list it instead. -/
theorem compare_repeats (plain : ∀ entry ∈ entries, entry.IsPlain) (filled : root ≠ [])
    (straight : root.IsStraight) (proper : before.files.IsProper) :
    let compare : Action σ (List Mismatch) := reconcile (.compare root) (ofEntries entries)
    let again : RunState σ := { before with files := (compare.final before).files }
    compare.final again = compare.final before ∧
      (compare again = compare before ∨
        ∃ group ∈ (ofEntries entries).packages,
          FailsElsewhere root group.1 compare before again) := by
  intro compare again
  have repeats : compare again = compare before ∨ ∃ group ∈ (ofEntries entries).packages,
      FailsElsewhere root group.1 compare before again :=
    reconcileAll_compare_repeats ⟨filled, straight⟩
      (fun group => @isGroup_of_mem entries plain group) proper rfl
  refine ⟨?_, repeats⟩
  rcases repeats with same | ⟨_, _, after, _, creating, listing⟩
  · exact final_congr same
  · rw [final_of_error creating, final_of_error listing]

theorem compare_repeats_sample :
    let entries : List Entry := [⟨"p".toList, "A.java".toList, "a\n".toList⟩,
      ⟨"p.q".toList, "B.java".toList, "b\n".toList⟩]
    let compare : Action Unit (List Mismatch) := reconcile (.compare "s".toList) (ofEntries entries)
    let again : RunState Unit := ⟨(compare.final ⟨{}, [], [], ()⟩).files, [], [], ()⟩
    again.files.kind? false ["s".toList, "p".toList, "q".toList] = some .directory ∧
      compare again = compare ⟨{}, [], [], ()⟩ ∧
      ∃ after, compare again = .ok [.missing "p".toList "A.java".toList "s/p/A.java".toList,
        .missing "p.q".toList "B.java".toList "s/p/q/B.java".toList] after := by
  intro entries compare again
  obtain ⟨after, ran⟩ : ∃ after, compare ⟨{}, [], [], ()⟩ =
      .ok [.missing "p".toList "A.java".toList "s/p/A.java".toList,
        .missing "p.q".toList "B.java".toList "s/p/q/B.java".toList] after := ⟨_, rfl⟩
  rcases (@compare_repeats Unit ⟨{}, [], [], ()⟩ "s".toList entries (by decide) (by decide)
    (by decide) isProper_empty).2 with same | ⟨_, _, _, _, failed, _⟩
  · exact ⟨by decide, same, after, same.trans ran⟩
  · cases ran.symm.trans failed

/-- A name that is too long is not looked at while the directory above it is missing, so the first
comparison fails to create what the second one fails to list. -/
theorem long_name_fails_elsewhere :
    let package := "a.".toList ++ List.replicate 256 'b'
    let entries : List Entry := [⟨package, "A.java".toList, "a\n".toList⟩]
    let limited : FileSystem := { limits := { nameBytes := some 255 } }
    let compare : Action Unit (List Mismatch) := reconcile (.compare "x".toList) (ofEntries entries)
    let directory := packageDirectory "x".toList package
    let again : RunState Unit := ⟨(compare.final ⟨limited, [], [], ()⟩).files, [], [], ()⟩
    (∀ entry ∈ entries, entry.IsPlain) ∧ IsStraight "x".toList ∧ limited.IsProper ∧
      compare.answer ⟨limited, [], [], ()⟩ = .error (.system .createDirectory directory) ∧
      compare.answer again = .error (.system .listDirectory directory) := by
  intro package entries limited compare directory again
  have proper : limited.IsProper := isProper_empty
  exact ⟨by decide +kernel, by decide, proper, by decide +kernel, by decide +kernel⟩

end Snapshot

end ApiSurface
