import ApiSurface.Proofs.Files.Removal

/-! A file system with one directory more than another.  Operations on paths that keep out of that
directory have the same outcome in both. -/

namespace ApiSurface

namespace Path

/-- A path that never comes into what another one leads to. -/
def Avoids (path scratch : Path) : Prop :=
  path.isAbsolute = scratch.isAbsolute →
    ∀ location ∈ trail [] path.steps, ¬ scratch.goal <+: location

instance (path scratch : Path) : Decidable (path.Avoids scratch) :=
  inferInstanceAs (Decidable (_ = _ → ∀ location ∈ _, ¬ _))

theorem Avoids.join {path scratch : Path} {name : Text} (avoids : path.Avoids scratch)
    (isName : IsName name)
    (distinct : path.isAbsolute = scratch.isAbsolute → path.goal ++ [name] ≠ scratch.goal) :
    (join path name).Avoids scratch := by
  intro same location member
  rw [isAbsolute_join path isName.no_slash] at same
  rw [steps_join_name path isName, mem_trail, starts_append, List.mem_append, starts_cons,
    starts_nil, List.mem_singleton, reach_append, reach_cons, reach_nil, Step.lead] at member
  rcases member with (inside | rfl) | rfl
  · exact avoids same _ (mem_trail.mpr (.inl inside))
  · exact avoids same _ (reach_mem_trail _ _)
  · intro begins
    rcases List.prefix_concat_iff.mp begins with ends | above
    · exact distinct same ends.symm
    · exact avoids same _ (reach_mem_trail _ _) above

end Path

namespace FileSystem

open ApiSurface.Path

variable {scratch path directory : Path} {full bare after files made : FileSystem} {name : Text}

theorem follow_congr {absolute : Bool} {here : Location} {steps : List Step}
    (limits : full.limits = bare.limits)
    (same : ∀ start ∈ starts here steps, full.kind? absolute start = bare.kind? absolute start) :
    full.follow absolute here steps = bare.follow absolute here steps := by
  induction steps generalizing here with
  | nil => rfl
  | cons step rest induction =>
      rw [starts_cons, List.forall_mem_cons] at same
      have admits : full.admitsStep step = bare.admitsStep step := by
        cases step <;> simp [admitsStep, admitsName, limits]
      rw [follow_cons, follow_cons, same.1, admits, induction same.2]

theorem file_eq (files : FileSystem) (path : Path) :
    files.file path =
      match files.locate path with
      | .error fault => .error fault
      | .ok location =>
          match files.kind? path.isAbsolute location with
          | none => .error .absent
          | some .directory => .error .refused
          | some (.file data) =>
              if path.demandsDirectory then .error .refused else .ok data := by
  rw [file, node]
  cases files.locate path with
  | error fault => rfl
  | ok location =>
      simp only [kind?, Folder.kind?]
      cases (files.tree path.isAbsolute).get? location with
      | none => rfl
      | some node =>
          cases node with
          | file data => cases path.demandsDirectory <;> rfl
          | directory entries => rfl

theorem createAlong_without {absolute side : Bool} {place here : Location} {steps : List Step}
    (filled : place ≠ []) (stands : files.kind? side place = some .directory)
    (avoids : absolute = side → ∀ location ∈ trail here steps, ¬ place <+: location)
    (above : files.kind? absolute here = some .directory) :
    (files.without side place).createAlong absolute here steps =
      ((files.createAlong absolute here steps).1,
        (files.createAlong absolute here steps).2.without side place) := by
  induction steps generalizing files here with
  | nil => rfl
  | cons step rest induction =>
      have later : absolute = side → ∀ location ∈ trail (step.lead here) rest,
          ¬ place <+: location :=
        fun same location member => avoids same location (.tail here member)
      cases step with
      | stay => exact induction stands later above
      | up => exact induction stands later (kind?_dropLast above)
      | into name =>
          have outside : absolute = side → ¬ place <+: here ++ [name] :=
            fun same => later same _ (here_mem_trail _ _)
          have admits : (files.without side place).admitsStep (.into name) =
              files.admitsStep (.into name) := by
            simp [admitsStep, admitsName]
          have kind : (files.without side place).kind? absolute (here ++ [name]) =
              files.kind? absolute (here ++ [name]) := by
            rw [kind?_without filled, if_neg (not_and.mpr outside)]
          rw [createAlong_into, createAlong_into, admits, kind]
          by_cases admitted : files.admitsStep (.into name) = true
          · rw [if_pos admitted, if_pos admitted]
            cases found : files.kind? absolute (here ++ [name]) with
            | some kind =>
                cases kind with
                | file data => rfl
                | directory => exact induction stands later found
            | none =>
                dsimp only
                split_ifs
                · rfl
                · -- Nothing stands at a new directory, so that it is not above the place either.
                  have apart : absolute = side →
                      ¬ place <+: here ++ [name] ∧ ¬ here ++ [name] <+: place := by
                    rintro rfl
                    refine ⟨outside rfl, fun begins => ?_⟩
                    have distinct : here ++ [name] ≠ place :=
                      fun same => outside rfl (same ▸ List.prefix_rfl)
                    have there := kind?_above begins distinct (stands.trans_ne (by simp))
                    simp [there] at found
                  have overlay := overlay_place_directory above found
                  rw [← without_place_apart apart]
                  exact induction (overlay.directory stands) later
                    (kind?_place_self above (by simp [found]) (by simp))
          · rw [if_neg admitted, if_neg admitted]

theorem createDirectory_inversion (created : files.createDirectory scratch = .ok made) :
    ∃ parent name, scratch.goal = parent ++ [name] ∧ files.locate scratch = .ok scratch.goal ∧
      files.kind? scratch.isAbsolute parent = some .directory ∧
      files.kind? scratch.isAbsolute scratch.goal = none ∧
      files.place scratch.isAbsolute (.directory []) scratch.goal = made := by
  rw [createDirectory] at created
  cases located : files.locate scratch with
  | error fault => simp [located] at created
  | ok location =>
      obtain ⟨-, rfl, -⟩ := locate_eq_ok_iff.mp located
      simp only [located] at created
      split at created
      · next missing =>
        have vacant : files.kind? scratch.isAbsolute scratch.goal = none := by
          rw [kind?, Folder.kind?, missing, Option.map_none]
        obtain ⟨parent, name, ends, above⟩ := parent_of_locate located (by simp [vacant])
        exact ⟨parent, name, ends, rfl, above, vacant, Except.ok.inj created⟩
      · cases created

theorem kind?_of_created (created : files.createDirectory scratch = .ok made) (name : Text) :
    made.kind? scratch.isAbsolute (scratch.goal ++ [name]) = none := by
  obtain ⟨parent, last, ends, -, above, vacant, rfl⟩ := createDirectory_inversion created
  have missing : files.kind? scratch.isAbsolute (scratch.goal ++ [name]) = none := by
    by_contra stands
    simp [kind?_of_below stands] at vacant
  rw [ends] at vacant missing ⊢
  rw [kind?_place above (by simp [vacant]) (by simp), if_neg (by simp), missing]

theorem IsProper.createDirectory (proper : files.IsProper)
    (created : files.createDirectory scratch = .ok made) : made.IsProper := by
  obtain ⟨parent, last, ends, located, above, vacant, rfl⟩ := createDirectory_inversion created
  obtain ⟨-, -, admitted, -⟩ := locate_eq_ok_iff.mp located
  have named (name : Text) (member : name ∈ scratch.goal) : IsName name :=
    isName_of_mem_steps (terminator_not_mem admitted.1)
      (mem_steps_of_mem_trail (reach_mem_trail _ _) member)
  rw [ends] at vacant named ⊢
  exact proper.overlay (overlay_place_directory above vacant) (fun _ same => same ▸ named)
    (by simp)

/-- `full` is like `bare` and has a directory besides, to which a path leads. -/
structure Beside (scratch : Path) (full bare : FileSystem) : Prop where
  located : full.locate scratch = .ok scratch.goal
  stands : full.kind? scratch.isAbsolute scratch.goal = some .directory
  inside : scratch.goal ≠ []
  rest : full.without scratch.isAbsolute scratch.goal = bare

namespace Beside

theorem of_created (created : files.createDirectory scratch = .ok made) :
    Beside scratch made files := by
  obtain ⟨parent, name, ends, located, above, vacant, rfl⟩ := createDirectory_inversion created
  have filled : scratch.goal ≠ [] := by simp [ends]
  rw [ends] at located vacant
  refine ⟨?_, ?_, filled, ?_⟩
  · rw [ends]
    exact (overlay_place_directory above vacant).locate located
  · rw [ends]
    exact kind?_place_self above (by simp [vacant]) (by simp)
  · rw [without_place_below filled List.prefix_rfl, without_of_vacant (ends ▸ vacant)]

variable (beside : Beside scratch full bare)

include beside

theorem limits : bare.limits = full.limits := by
  rw [← beside.rest, limits_without]

theorem portion_eq (absolute : Bool) (location : Location) (content : Bytes) :
    bare.portion absolute location content = full.portion absolute location content := by
  rw [portion, portion, beside.limits]

theorem hasRoom_iff {absolute : Bool} {location : Location} {content : Bytes} :
    bare.HasRoom absolute location content ↔ full.HasRoom absolute location content := by
  rw [HasRoom, HasRoom, beside.limits]

theorem admitsPath_eq (path : Path) : bare.admitsPath path = full.admitsPath path := by
  rw [admitsPath, admitsPath, beside.limits]

theorem admits_iff : bare.Admits path ↔ full.Admits path := by
  have step (step : Step) : bare.admitsStep step = full.admitsStep step := by
    cases step <;> simp [admitsStep, admitsName, beside.limits]
  simp only [Admits, beside.admitsPath_eq, step]

theorem kind?_bare (side : Bool) (location : Location) :
    bare.kind? side location =
      if side = scratch.isAbsolute ∧ scratch.goal <+: location then none
      else full.kind? side location := by
  rw [← beside.rest, kind?_without beside.inside]

theorem remove : full.remove scratch = .ok bare := by
  obtain ⟨node, found⟩ : ∃ node, full.node scratch = .ok node := by
    have stands := beside.stands
    rw [kind?, Folder.kind?] at stands
    rw [FileSystem.node, beside.located]
    cases held : (full.tree scratch.isAbsolute).get? scratch.goal with
    | none => simp [held] at stands
    | some node =>
        cases node with
        | file data => simp [held] at stands
        | directory entries => exact ⟨.directory entries, by simp [held]⟩
  rw [FileSystem.remove, found, beside.located]
  exact congrArg Except.ok beside.rest

theorem not_isPresent : bare.isPresent scratch = false := by
  have missing : bare.kind? scratch.isAbsolute scratch.goal = none := by
    rw [beside.kind?_bare, if_pos ⟨rfl, List.prefix_rfl⟩]
  have failed (node : Node) : bare.node scratch ≠ .ok node := by
    intro found
    rw [FileSystem.node] at found
    cases located : bare.locate scratch with
    | error fault => simp [located] at found
    | ok location =>
        obtain ⟨-, rfl, -⟩ := locate_eq_ok_iff.mp located
        rw [kind?, Folder.kind?, Option.map_eq_none_iff] at missing
        simp [located, missing] at found
  rw [isPresent]
  cases found : bare.node scratch with
  | ok node => exact absurd found (failed node)
  | error fault => rfl

theorem write_inside (isName : IsName name) (content : Bytes) :
    Beside scratch (full.write (join scratch name) content).2 bare := by
  rcases write_cases full (join scratch name) content with
    ⟨fault, failed⟩ | ⟨location, after, located, rfl, overlay, ended⟩
  · rw [failed]
    exact beside
  have filled := (locate_eq_ok_iff.mp beside.located).1
  obtain ⟨-, parent, above, -, rfl⟩ := (locate_join_iff filled isName).mp located
  obtain rfl : parent = scratch.goal := Except.ok.inj (above.symm.trans beside.located)
  rw [ended]
  rw [isAbsolute_join scratch isName.no_slash] at overlay ⊢
  refine ⟨overlay.locate beside.located, overlay.directory beside.stands, beside.inside, ?_⟩
  rw [without_place_below beside.inside (List.prefix_append _ _), beside.rest]

theorem kind?_eq (avoids : path.Avoids scratch) {location : Location}
    (along : location ∈ trail [] path.steps) :
    bare.kind? path.isAbsolute location = full.kind? path.isAbsolute location := by
  rw [beside.kind?_bare, if_neg fun ⟨same, begins⟩ => avoids same location along begins]

theorem locate_eq (avoids : path.Avoids scratch) : bare.locate path = full.locate path := by
  rw [locate, locate, beside.admitsPath_eq, follow_congr beside.limits fun start member =>
    beside.kind?_eq avoids (mem_trail.mpr (.inl member))]

theorem file_eq (avoids : path.Avoids scratch) : bare.file path = full.file path := by
  rw [FileSystem.file_eq, FileSystem.file_eq, beside.locate_eq avoids]
  cases located : full.locate path with
  | error fault => rfl
  | ok location =>
      obtain ⟨-, rfl, -⟩ := locate_eq_ok_iff.mp located
      dsimp only
      rw [beside.kind?_eq avoids (reach_mem_trail _ _)]

theorem file_of_bare {data : RegularFile} (held : bare.file path = .ok data) :
    full.file path = .ok data := by
  rw [← beside.file_eq ?_, held]
  obtain ⟨location, located, stands, -⟩ := file_eq_ok_iff.mp held
  obtain ⟨-, rfl, -, directories⟩ := locate_eq_ok_iff.mp located
  intro same location member begins
  have missing : bare.kind? path.isAbsolute location = none := by
    rw [beside.kind?_bare, if_pos ⟨same, begins⟩]
  rcases mem_trail.mp member with start | rfl
  · simp [directories location start] at missing
  · simp [stands] at missing

theorem list_cases (avoids : path.Avoids scratch) :
    (∃ fault, full.list path = .error fault ∧ bare.list path = .error fault) ∨
      ∃ names names', full.list path = .ok names ∧ bare.list path = .ok names' ∧
        names.Pairwise (· < ·) ∧ names'.Pairwise (· < ·) ∧
        (∀ name ∈ names, full.kind? path.isAbsolute (path.goal ++ [name]) ≠ none) ∧
        ∀ name, name ∈ names' ↔ name ∈ names ∧
          ¬ (path.isAbsolute = scratch.isAbsolute ∧ path.goal ++ [name] = scratch.goal) := by
  have located := beside.locate_eq avoids
  have kinds : ∀ location, full.locate path = .ok location →
      full.kind? path.isAbsolute location = bare.kind? path.isAbsolute location := by
    intro location leads
    obtain ⟨-, rfl, -⟩ := locate_eq_ok_iff.mp leads
    exact (beside.kind?_eq avoids (reach_mem_trail _ _)).symm
  rcases list_congr located.symm kinds with failed | ⟨names, names', listed, listed'⟩
  · exact .inl failed
  obtain ⟨location, leads, -, ascending, mem_iff⟩ := list_eq_ok listed
  obtain ⟨location', leads', -, ascending', mem_iff'⟩ := list_eq_ok listed'
  obtain ⟨-, rfl, -⟩ := locate_eq_ok_iff.mp leads
  obtain ⟨-, rfl, -⟩ := locate_eq_ok_iff.mp leads'
  refine .inr ⟨names, names', listed, listed', ascending, ascending',
    fun name => (mem_iff name).mp, fun name => ?_⟩
  have outside : path.isAbsolute = scratch.isAbsolute → ¬ scratch.goal <+: path.goal :=
    fun same => avoids same _ (reach_mem_trail _ _)
  rw [mem_iff', mem_iff, beside.kind?_bare]
  constructor
  · intro stands
    split_ifs at stands with below
    · exact absurd rfl stands
    · exact ⟨stands, fun ⟨same, ends⟩ => below ⟨same, ends ▸ List.prefix_rfl⟩⟩
  · rintro ⟨stands, distinct⟩
    rw [if_neg ?_]
    · exact stands
    · rintro ⟨same, begins⟩
      rcases List.prefix_concat_iff.mp begins with ends | above
      · exact distinct ⟨same, ends.symm⟩
      · exact outside same above

theorem isFile_join (avoids : path.Avoids scratch) (isName : IsName name) :
    full.isFile (join path name) = true ↔ bare.isFile (join path name) = true ∧
      ¬ (path.isAbsolute = scratch.isAbsolute ∧ path.goal ++ [name] = scratch.goal) := by
  have leads : (join path name).goal = path.goal ++ [name] := by
    rw [goal, steps_join_name path isName, reach_append]
    rfl
  by_cases here : path.isAbsolute = scratch.isAbsolute ∧ path.goal ++ [name] = scratch.goal
  · refine iff_of_false (fun isFile => ?_) fun ⟨_, distinct⟩ => distinct here
    obtain ⟨data, held⟩ := isFile_iff.mp isFile
    obtain ⟨location, located, stands, -⟩ := file_eq_ok_iff.mp held
    obtain ⟨-, rfl, -⟩ := locate_eq_ok_iff.mp located
    change full.kind? _ (join path name).goal = _ at stands
    rw [isAbsolute_join path isName.no_slash, here.1, leads, here.2, beside.stands] at stands
    cases stands
  · have avoidsToo := avoids.join isName fun same ends => here ⟨same, ends⟩
    simp only [isFile_iff, beside.file_eq avoidsToo, here, not_false_eq_true, and_true]

theorem createDirectories (avoids : path.Avoids scratch) :
    (bare.createDirectories path).1 = (full.createDirectories path).1 ∧
      Beside scratch (full.createDirectories path).2 (bare.createDirectories path).2 := by
  have overlay := createDirectories_overlay full path
  have same : bare.createDirectories path =
      ((full.createDirectories path).1,
        (full.createDirectories path).2.without scratch.isAbsolute scratch.goal) := by
    unfold FileSystem.createDirectories
    rw [beside.admitsPath_eq]
    split_ifs
    · rw [beside.rest]
    · rw [← beside.rest]
      exact createAlong_without beside.inside beside.stands avoids (kind?_top full _)
    · rw [beside.rest]
  rw [same]
  exact ⟨rfl, overlay.locate beside.located, overlay.directory beside.stands, beside.inside, rfl⟩

theorem write (avoids : path.Avoids scratch) (content : Bytes) :
    (bare.write path content).1 = (full.write path content).1 ∧
      Beside scratch (full.write path content).2 (bare.write path content).2 := by
  cases located : full.locate path with
  | error fault =>
      rw [FileSystem.write, FileSystem.write, beside.locate_eq avoids, located]
      exact ⟨rfl, beside⟩
  | ok location =>
      obtain ⟨-, rfl, -⟩ := locate_eq_ok_iff.mp located
      have located' : bare.locate path = .ok path.goal := (beside.locate_eq avoids).trans located
      rw [write_eq content located, write_eq content located',
        beside.kind?_eq avoids (reach_mem_trail _ _)]
      simp only [beside.portion_eq, beside.hasRoom_iff]
      split
      · exact ⟨rfl, beside⟩
      · next vacant =>
        by_cases ending : path.demandsDirectory = true
        · rw [if_pos ending, if_pos ending]
          exact ⟨rfl, beside⟩
        · rw [if_neg ending, if_neg ending]
          refine ⟨rfl, ?_⟩
          obtain ⟨parent, name, ends, above⟩ := parent_of_locate located vacant
          have apart : path.isAbsolute = scratch.isAbsolute →
              ¬ scratch.goal <+: path.goal ∧ ¬ path.goal <+: scratch.goal := by
            intro same
            have outside := avoids same _ (reach_mem_trail _ _)
            refine ⟨outside, fun begins => vacant ?_⟩
            have distinct : path.goal ≠ scratch.goal := fun ends => outside (ends ▸ List.prefix_rfl)
            rw [same]
            exact kind?_above begins distinct (by simp [beside.stands])
          have overlay := overlay_place_file above (ends ▸ vacant)
            (full.portion path.isAbsolute path.goal content)
            (keepsExecutable (full.kind? path.isAbsolute path.goal))
          rw [← ends] at overlay
          refine ⟨overlay.locate beside.located, overlay.directory beside.stands, beside.inside, ?_⟩
          rw [without_place_apart apart, beside.rest]

end Beside

end FileSystem

end ApiSurface
