import ApiSurface.Proofs.Files.Overlay

/-! The operations of a file system as overlays, when they succeed, and that none of them gives
anything a name that no path leads to. -/

namespace ApiSurface

namespace FileSystem

open ApiSurface.Path

theorem createDirectories_overlay (files : FileSystem) (path : Path) :
    Overlay path.isAbsolute (· ∈ trail [] path.steps) (fun _ => none) files
      (files.createDirectories path).2 := by
  unfold createDirectories
  split_ifs
  · exact .refl files
  · exact createAlong_overlay path.steps (kind?_top files _)
  · exact .refl files

theorem createDirectories_inversion {files after : FileSystem} {path : Path}
    (filled : path ≠ []) (created : files.createDirectories path = (.ok (), after)) :
    after.locate path = .ok (reach [] path.steps) ∧
      ∀ location ∈ trail [] path.steps,
        after.kind? path.isAbsolute location = some .directory := by
  have overlay := createDirectories_overlay files path
  rw [created] at overlay
  rw [createDirectories, if_neg (by simpa using filled)] at created
  split_ifs at created with handed
  · obtain ⟨admitted, directories⟩ := createAlong_inversion (kind?_top files _) created
    refine ⟨?_, directories⟩
    rw [locate_eq_ok_iff]
    exact ⟨filled, rfl, overlay.admits_iff.mpr ⟨handed, admitted⟩,
      fun start member => directories start (mem_trail.mpr (.inl member))⟩
  · cases created

theorem createDirectories_succeeds {files : FileSystem} {path : Path}
    (admitted : files.Admits path)
    (clear : ∀ location ∈ trail [] path.steps, ∀ data,
      files.kind? path.isAbsolute location ≠ some (.file data))
    (ending : path.steps.getLast? ≠ some .stay) :
    ∃ after, files.createDirectories path = (.ok (), after) := by
  unfold createDirectories
  split_ifs
  · exact ⟨files, rfl⟩
  · exact ⟨_, Prod.ext
      (createAlong_succeeds (kind?_top files _) admitted.2 clear ending) rfl⟩
  · exact absurd admitted.1 ‹_›

theorem createDirectories_settled {files : FileSystem} {path : Path} {location : Location}
    (located : files.locate path = .ok location)
    (stands : files.kind? path.isAbsolute location = some .directory) :
    files.createDirectories path = (.ok (), files) := by
  obtain ⟨filled, rfl, admitted, directories⟩ := locate_eq_ok_iff.mp located
  rw [createDirectories, if_neg (by simpa using filled), if_pos admitted.1]
  apply createAlong_settled admitted.2
  intro location member
  rcases mem_trail.mp member with start | rfl
  · exact directories location start
  · exact stands

theorem createDirectories_staying {files : FileSystem} {path : Path} (filled : path ≠ [])
    (straight : path.IsStraight) (stays : path.steps.getLast? = some .stay)
    (vacant : files.kind? path.isAbsolute path.names = none) :
    (files.createDirectories path).1 ≠ .ok () := by
  rw [createDirectories, if_neg (by simpa using filled)]
  split_ifs
  · rw [← reach_steps straight] at vacant
    exact createAlong_staying (kind?_top files _) straight stays vacant
  · simp

theorem createDirectories_repeats (files : FileSystem) (path : Path) :
    (files.createDirectories path).2.createDirectories path = files.createDirectories path := by
  have overlay := createDirectories_overlay files path
  unfold createDirectories at overlay ⊢
  have handed : ∀ after : FileSystem, after.limits = files.limits →
      after.admitsPath path = files.admitsPath path := by
    intro after same
    rw [admitsPath, admitsPath, same]
  rw [handed _ overlay.limits]
  split_ifs
  · rfl
  · exact createAlong_repeats path.steps (kind?_top files _)
  · rfl

private theorem follow_dropLast {files : FileSystem} {absolute : Bool}
    {here location : Location} {steps : List Step}
    (above : files.kind? absolute here.dropLast = some .directory)
    (followed : files.follow absolute here steps = .ok location) :
    files.kind? absolute location.dropLast = some .directory := by
  induction steps generalizing here with
  | nil =>
      obtain rfl : here = location := by simpa [follow] using followed
      exact above
  | cons step rest induction =>
      rw [follow_cons] at followed
      split at followed
      · cases followed
      · cases followed
      · next stands =>
        split_ifs at followed
        · refine induction ?_ followed
          cases step with
          | stay => exact above
          | up => exact kind?_dropLast (kind?_dropLast stands)
          | into name => simpa [Step.lead] using stands

theorem parent_of_locate {files : FileSystem} {path : Path} {location : Location}
    (located : files.locate path = .ok location)
    (vacant : files.kind? path.isAbsolute location ≠ some .directory) :
    ∃ parent name, location = parent ++ [name] ∧
      files.kind? path.isAbsolute parent = some .directory := by
  obtain ⟨filled, -, admitted, -⟩ := locate_eq_ok_iff.mp located
  rw [locate_eq_follow filled admitted.1] at located
  have above := follow_dropLast (kind?_top files _) located
  cases location using List.reverseRecOn with
  | nil => exact absurd (kind?_top files _) vacant
  | append_singleton parent name =>
      rw [List.dropLast_concat] at above
      exact ⟨parent, name, rfl, above⟩

/-- Whether a file that is written where such a node stands is executable. -/
def keepsExecutable : Option Node.Kind → Bool
  | some (.file data) => data.executable
  | _ => false

theorem write_eq {files : FileSystem} {path : Path} {location : Location} (content : Bytes)
    (located : files.locate path = .ok location) :
    files.write path content =
      match files.kind? path.isAbsolute location with
      | some .directory => (.error (.unopened .refused), files)
      | kind =>
          if path.demandsDirectory then (.error (.unopened .refused), files)
          else
            (if files.HasRoom path.isAbsolute location content then .ok () else .error .full,
              files.place path.isAbsolute
                (.file ⟨files.portion path.isAbsolute location content, keepsExecutable kind⟩)
                location) := by
  rw [write, located]
  simp only [kind?, Folder.kind?, place]
  cases (files.tree path.isAbsolute).get? location with
  | none => rfl
  | some node => cases node <;> rfl

/-- A file that cannot be opened is left alone.  One that can be holds as much as there is room
for. -/
theorem write_cases (files : FileSystem) (path : Path) (content : Bytes) :
    (∃ fault, files.write path content = (.error (.unopened fault), files)) ∨
      ∃ location after, files.locate path = .ok location ∧
        after = files.place path.isAbsolute
          (.file ⟨files.portion path.isAbsolute location content,
            keepsExecutable (files.kind? path.isAbsolute location)⟩) location ∧
        Overlay path.isAbsolute (fun _ => False)
          (fun other =>
            if other = location then some (files.portion path.isAbsolute location content)
            else none) files after ∧
        files.write path content =
          (if files.HasRoom path.isAbsolute location content then .ok () else .error .full,
            after) := by
  cases located : files.locate path with
  | error fault => exact .inl ⟨fault, by rw [write, located]⟩
  | ok location =>
      rw [write_eq content located]
      split
      · exact .inl ⟨.refused, rfl⟩
      · next vacant =>
        by_cases ending : path.demandsDirectory = true
        · exact .inl ⟨.refused, if_pos ending⟩
        · obtain ⟨parent, name, rfl, above⟩ := parent_of_locate located vacant
          exact .inr ⟨_, _, rfl, rfl, overlay_place_file above vacant _ _, if_neg ending⟩

theorem write_inversion {files after : FileSystem} {path : Path} {content : Bytes}
    (wrote : files.write path content = (.ok (), after)) :
    ∃ location, files.locate path = .ok location ∧
      files.HasRoom path.isAbsolute location content ∧
      Overlay path.isAbsolute (fun _ => False)
        (fun other => if other = location then some content else none) files after := by
  rcases write_cases files path content with
    ⟨fault, failed⟩ | ⟨location, reached, located, -, overlay, ended⟩
  · cases failed.symm.trans wrote
  · rw [ended] at wrote
    split_ifs at wrote with room
    · obtain rfl := congrArg Prod.snd wrote
      rw [room.portion_eq] at overlay
      exact ⟨location, located, room, overlay⟩
    · cases congrArg Prod.fst wrote

theorem write_succeeds {files : FileSystem} {path : Path} {location : Location}
    {content : Bytes} (located : files.locate path = .ok location)
    (vacant : files.kind? path.isAbsolute location ≠ some .directory)
    (ending : path.demandsDirectory = false)
    (room : files.HasRoom path.isAbsolute location content) :
    ∃ after, files.write path content = (.ok (), after) := by
  rw [write_eq content located]
  split
  · next stands => exact absurd stands vacant
  · rw [if_neg (by simp [ending]), if_pos room]
    exact ⟨_, rfl⟩

/-- Everything in the file system has a name that some path leads to.  No other names are ever
given. -/
def IsProper (files : FileSystem) : Prop :=
  ∀ absolute location, files.kind? absolute location ≠ none →
    ∀ name ∈ location, IsName name

theorem isProper_empty : IsProper {} := by
  intro absolute location stands name member
  cases location with
  | nil => simp at member
  | cons first rest => cases absolute <;> exact absurd rfl stands

theorem IsProper.overlay {files after : FileSystem} {absolute : Bool}
    {room : Location → Prop} {content : Location → Option Bytes} (proper : files.IsProper)
    (overlay : Overlay absolute room content files after)
    (roomNames : ∀ location, room location → ∀ name ∈ location, IsName name)
    (contentNames : ∀ location, content location ≠ none → ∀ name ∈ location, IsName name) :
    after.IsProper := by
  intro side location stands
  by_cases same : side = absolute
  · subst same
    by_cases covered : content location = none
    · rcases overlay.kept covered with kept | ⟨roomy, -⟩
      · exact proper side location (kept ▸ stands)
      · exact roomNames location roomy
    · exact contentNames location covered
  · obtain rfl : side = !absolute := Bool.eq_not.mpr same
    exact proper _ location (overlay.apart location ▸ stands)

theorem IsProper.before {files earlier : FileSystem} {absolute : Bool}
    {room : Location → Prop} {content : Location → Option Bytes} (proper : files.IsProper)
    (overlay : Overlay absolute room content earlier files) : earlier.IsProper := by
  intro side location stands
  by_cases same : side = absolute
  · subst same
    exact proper side location fun missing => stands (overlay.vacant missing)
  · obtain rfl : side = !absolute := Bool.eq_not.mpr same
    exact proper _ location (overlay.apart location ▸ stands)

theorem terminator_not_mem {files : FileSystem} {path : Path}
    (handed : files.admitsPath path = true) : terminator ∉ path := by
  simp only [admitsPath, Bool.and_eq_true, Bool.not_eq_true'] at handed
  simpa [terminator] using handed.1

theorem IsProper.createAlong {files : FileSystem} (proper : files.IsProper) {path : Path}
    (handed : files.admitsPath path = true) {steps : List Step}
    (part : ∀ step ∈ steps, step ∈ path.steps) :
    (files.createAlong path.isAbsolute [] steps).2.IsProper :=
  proper.overlay (createAlong_overlay steps (kind?_top files _))
    (fun _ member _ named =>
      isName_of_mem_steps (terminator_not_mem handed)
        (part _ (mem_steps_of_mem_trail member named)))
    (by simp)

theorem IsProper.createDirectories {files : FileSystem} (proper : files.IsProper)
    (path : Path) : (files.createDirectories path).2.IsProper := by
  unfold FileSystem.createDirectories
  split_ifs with empty handed
  · exact proper
  · exact proper.createAlong handed fun _ => id
  · exact proper

theorem IsProper.write {files : FileSystem} (proper : files.IsProper) (path : Path)
    (content : Bytes) : (files.write path content).2.IsProper := by
  rcases write_cases files path content with
    ⟨fault, failed⟩ | ⟨location, after, located, -, overlay, ended⟩
  · rw [failed]
    exact proper
  rw [ended]
  obtain ⟨-, rfl, admitted, -⟩ := locate_eq_ok_iff.mp located
  refine proper.overlay overlay (by simp) fun other covered name member => ?_
  obtain rfl : other = reach [] path.steps := by simpa using covered
  exact isName_of_mem_steps (terminator_not_mem admitted.1)
    (mem_steps_of_mem_trail (reach_mem_trail _ _) member)

theorem IsProper.plant {files : FileSystem} (proper : files.IsProper) (path : Path)
    (content : Bytes) : (files.plant path content).2.IsProper := by
  unfold FileSystem.plant
  split_ifs with handed
  · have above := proper.createAlong handed fun _ member => List.dropLast_subset _ member
    dsimp only
    split
    · next created =>
      rw [created] at above
      exact above
    · next created =>
      rw [created] at above
      have wrote := IsProper.write above path content
      split
      all_goals
        next ended =>
        rw [ended] at wrote
        exact wrote
  · exact proper

end FileSystem

end ApiSurface
