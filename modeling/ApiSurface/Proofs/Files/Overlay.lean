import ApiSurface.Proofs.Files.Lookup
import Mathlib.Tactic.Common

/-! What creating directories and writing files changes.  An overlay lays content over some
locations and fills others with directories; everything else stays as it was. -/

namespace ApiSurface

namespace FileSystem

open ApiSurface.Path

/-- `after` is `before` with files of the given content, and with new directories where there is
room for them and nothing stood. -/
structure Overlay (absolute : Bool) (room : Location → Prop)
    (content : Location → Option Bytes) (before after : FileSystem) : Prop where
  limits : after.limits = before.limits
  apart : ∀ location,
    after.kind? (!absolute) location = before.kind? (!absolute) location
  written : ∀ {location bytes}, content location = some bytes →
    ∃ executable, after.kind? absolute location = some (.file ⟨bytes, executable⟩)
  spared : ∀ {location}, before.kind? absolute location = some .directory →
    after.kind? absolute location = some .directory
  kept : ∀ {location}, content location = none →
    after.kind? absolute location = before.kind? absolute location ∨
      room location ∧ before.kind? absolute location = none ∧
        after.kind? absolute location = some .directory

namespace Overlay

variable {absolute : Bool} {room wider : Location → Prop}
  {content later : Location → Option Bytes} {before middle after : FileSystem}

theorem hasRoom_iff (overlay : Overlay absolute room content before after) {side : Bool}
    {location : Location} {bytes : Bytes} :
    after.HasRoom side location bytes ↔ before.HasRoom side location bytes := by
  rw [HasRoom, HasRoom, overlay.limits]

theorem refl (files : FileSystem) : Overlay absolute room (fun _ => none) files files where
  limits := rfl
  apart := fun _ => rfl
  written := by simp
  spared := id
  kept := fun _ => .inl rfl

theorem mono (overlay : Overlay absolute room content before after)
    (included : ∀ location, room location → wider location) :
    Overlay absolute wider content before after where
  limits := overlay.limits
  apart := overlay.apart
  written := overlay.written
  spared := overlay.spared
  kept := fun untouched =>
    (overlay.kept untouched).imp_right fun ⟨roomy, rest⟩ => ⟨included _ roomy, rest⟩

theorem trans (first : Overlay absolute room content before middle)
    (second : Overlay absolute room later middle after) :
    Overlay absolute room (fun location => (later location).or (content location))
      before after where
  limits := second.limits.trans first.limits
  apart := fun location => (second.apart location).trans (first.apart location)
  written := by
    intro location bytes covers
    cases top : later location with
    | some upper =>
        obtain rfl : upper = bytes := by simpa [top] using covers
        exact second.written top
    | none =>
        rw [top, Option.none_or] at covers
        obtain ⟨executable, stands⟩ := first.written covers
        refine ⟨executable, ?_⟩
        rcases second.kept top with same | ⟨_, vacant, _⟩
        · exact same.trans stands
        · simp [stands] at vacant
  spared := fun stands => second.spared (first.spared stands)
  kept := by
    intro location untouched
    obtain ⟨top, bottom⟩ := Option.or_eq_none_iff.mp untouched
    rcases first.kept bottom with same | ⟨roomy, vacant, stands⟩
    · rcases second.kept top with same' | ⟨roomy, vacant, stands⟩
      · exact .inl (same'.trans same)
      · exact .inr ⟨roomy, same ▸ vacant, stands⟩
    · exact .inr ⟨roomy, vacant, second.spared stands⟩

theorem directory (overlay : Overlay absolute room content before after) {side : Bool}
    {location : Location} (stands : before.kind? side location = some .directory) :
    after.kind? side location = some .directory := by
  by_cases same : side = absolute
  · subst same
    exact overlay.spared stands
  · obtain rfl : side = !absolute := Bool.eq_not.mpr same
    rw [overlay.apart, stands]

theorem admitsStep_eq (overlay : Overlay absolute room content before after) (step : Step) :
    after.admitsStep step = before.admitsStep step := by
  cases step <;> simp [admitsStep, admitsName, overlay.limits]

theorem admits_iff (overlay : Overlay absolute room content before after) {path : Path} :
    after.Admits path ↔ before.Admits path := by
  simp [Admits, admitsPath, overlay.limits, overlay.admitsStep_eq]

theorem file_inversion (overlay : Overlay absolute room content before after)
    {location : Location} {data : RegularFile} (untouched : content location = none)
    (stands : after.kind? absolute location = some (.file data)) :
    before.kind? absolute location = some (.file data) := by
  rcases overlay.kept untouched with same | ⟨_, _, directory⟩
  · exact same ▸ stands
  · simp [directory] at stands

theorem locate (overlay : Overlay absolute room content before after) {path : Path}
    {location : Location} (located : before.locate path = .ok location) :
    after.locate path = .ok location := by
  rw [locate_eq_ok_iff] at located ⊢
  obtain ⟨filled, leads, admitted, directories⟩ := located
  exact ⟨filled, leads, overlay.admits_iff.mpr admitted,
    fun start member => overlay.directory (directories start member)⟩

theorem vacant (overlay : Overlay absolute room content before after) {location : Location}
    (missing : after.kind? absolute location = none) :
    before.kind? absolute location = none := by
  cases covered : content location with
  | some bytes =>
      obtain ⟨executable, stands⟩ := overlay.written covered
      simp [stands] at missing
  | none =>
      rcases overlay.kept covered with same | ⟨-, vacant, -⟩
      · exact same ▸ missing
      · exact vacant

theorem file_join_iff {base : Path} {name : Text} {data : RegularFile}
    (overlay : Overlay base.isAbsolute room content before after) (filled : base ≠ [])
    (straight : base.IsStraight) (isName : IsName name)
    (untouched : content (base.names ++ [name]) = none) :
    after.file (join base name) = .ok data ↔ before.file (join base name) = .ok data := by
  simp only [FileSystem.file_join_iff filled isName, overlay.admits_iff]
  constructor
  · rintro ⟨admitted, parent, located, stands⟩
    obtain rfl := names_of_locate straight located
    have stood := overlay.file_inversion untouched stands
    exact ⟨admitted, _, locate_of_directory filled straight (admitted.of_join isName)
      (kind?_of_child stood), stood⟩
  · rintro ⟨admitted, parent, located, stood⟩
    obtain rfl := names_of_locate straight located
    refine ⟨admitted, _, overlay.locate located, ?_⟩
    rcases overlay.kept untouched with same | ⟨-, vacant, -⟩
    · exact same.trans stood
    · simp [stood] at vacant

theorem isFile_join {base : Path} {name : Text}
    (overlay : Overlay base.isAbsolute room content before after) (filled : base ≠ [])
    (straight : base.IsStraight) (isName : IsName name)
    (untouched : content (base.names ++ [name]) = none) :
    after.isFile (join base name) = before.isFile (join base name) := by
  rw [Bool.eq_iff_iff, isFile_iff, isFile_iff]
  simp only [overlay.file_join_iff filled straight isName untouched]

theorem node_join_of_vacant {base : Path} {name : Text}
    (overlay : Overlay base.isAbsolute room content before after)
    (straight : base.IsStraight) (isName : IsName name)
    (located : after.locate base = .ok base.names)
    (stands : after.kind? base.isAbsolute base.names = some .directory)
    (admitted : after.Admits (join base name))
    (missing : after.kind? base.isAbsolute (base.names ++ [name]) = none) :
    before.node (join base name) = .error .absent := by
  apply node_of_vacant (isStraight_join straight isName) (overlay.admits_iff.mp admitted)
  · rw [isAbsolute_join base isName.no_slash, names_join base isName]
    exact overlay.vacant missing
  · intro start member data stood
    rw [steps_join_name base isName, starts_append, List.mem_append, starts_cons, starts_nil,
      List.mem_singleton, reach_steps straight] at member
    rw [isAbsolute_join base isName.no_slash] at stood
    have directory : after.kind? base.isAbsolute start = some .directory := by
      rcases member with inside | rfl
      · exact (locate_eq_ok_iff.mp located).2.2.2 start inside
      · exact stands
    have untouched : content start = none := by
      cases covered : content start with
      | none => rfl
      | some bytes =>
          obtain ⟨executable, written⟩ := overlay.written covered
          simp [written] at directory
    rcases overlay.kept untouched with same | ⟨-, vacant, -⟩
    · rw [same, stood] at directory
      cases directory
    · simp [stood] at vacant

end Overlay

def place (files : FileSystem) (absolute : Bool) (node : Node) (location : Location) :
    FileSystem :=
  files.withTree absolute ((files.tree absolute).put node location)

@[simp] theorem limits_place (files : FileSystem) (absolute : Bool) (node : Node)
    (location : Location) : (files.place absolute node location).limits = files.limits := by
  cases absolute <;> rfl

theorem kind?_place {files : FileSystem} {absolute : Bool} {parent : Location} {name : Text}
    {node : Node} (above : files.kind? absolute parent = some .directory)
    (vacant : files.kind? absolute (parent ++ [name]) ≠ some .directory)
    (bare : ∀ entries, node = .directory entries → entries = [])
    (side : Bool) (location : Location) :
    (files.place absolute node (parent ++ [name])).kind? side location =
      if side = absolute ∧ location = parent ++ [name] then some node.kind
      else files.kind? side location := by
  have put := Folder.kind?_put above vacant bare location
  cases side <;> cases absolute <;> simp_all [place, kind?, tree, withTree]

theorem kind?_place_self {files : FileSystem} {absolute : Bool} {parent : Location}
    {name : Text} {node : Node} (above : files.kind? absolute parent = some .directory)
    (vacant : files.kind? absolute (parent ++ [name]) ≠ some .directory)
    (bare : ∀ entries, node = .directory entries → entries = []) :
    (files.place absolute node (parent ++ [name])).kind? absolute (parent ++ [name]) =
      some node.kind := by
  rw [kind?_place above vacant bare, if_pos ⟨rfl, rfl⟩]

theorem overlay_place_directory {files : FileSystem} {absolute : Bool} {parent : Location}
    {name : Text} (above : files.kind? absolute parent = some .directory)
    (vacant : files.kind? absolute (parent ++ [name]) = none) :
    Overlay absolute (· = parent ++ [name]) (fun _ => none) files
      (files.place absolute (.directory []) (parent ++ [name])) := by
  have stands := @kind?_place files absolute parent name (.directory []) above
    (by simp [vacant]) (by simp)
  refine ⟨limits_place .., fun location => by simp [stands], by simp, ?_, ?_⟩
  · intro location stood
    rw [stands]
    split_ifs <;> simp [stood]
  · intro location _
    rw [stands]
    split_ifs with here
    · exact .inr ⟨here.2, here.2 ▸ vacant, rfl⟩
    · exact .inl rfl

theorem overlay_place_file {files : FileSystem} {absolute : Bool} {parent : Location}
    {name : Text} (above : files.kind? absolute parent = some .directory)
    (vacant : files.kind? absolute (parent ++ [name]) ≠ some .directory)
    (content : Bytes) (executable : Bool) :
    Overlay absolute (fun _ => False)
      (fun location => if location = parent ++ [name] then some content else none) files
      (files.place absolute (.file ⟨content, executable⟩) (parent ++ [name])) := by
  have stands := @kind?_place files absolute parent name (.file ⟨content, executable⟩) above
    vacant (by simp)
  refine ⟨limits_place .., fun location => by simp [stands], ?_, ?_, ?_⟩
  · intro location bytes covers
    obtain ⟨here, rfl⟩ : location = parent ++ [name] ∧ content = bytes := by
      simpa using covers
    exact ⟨executable, by simp [stands, here]⟩
  · intro location stood
    have distinct : location ≠ parent ++ [name] := fun same => vacant (same ▸ stood)
    simp [stands, distinct, stood]
  · intro location elsewhere
    have distinct : location ≠ parent ++ [name] := by simpa using elsewhere
    exact .inl (by simp [stands, distinct])

theorem createAlong_into (files : FileSystem) (absolute : Bool) (here : Location)
    (name : Text) (rest : List Step) :
    files.createAlong absolute here (.into name :: rest) =
      if files.admitsStep (.into name) then
        match files.kind? absolute (here ++ [name]) with
        | some .directory => files.createAlong absolute (here ++ [name]) rest
        | some (.file _) => (.error .refused, files)
        | none =>
            if !rest.isEmpty && rest.all (· = .stay) then (.error .absent, files)
            else
              (files.place absolute (.directory []) (here ++ [name])).createAlong
                absolute (here ++ [name]) rest
      else (.error .refused, files) := by
  rw [createAlong.eq_def]
  simp only [kind?, Folder.kind?, place]
  cases (files.tree absolute).get? (here ++ [name]) with
  | none => rfl
  | some node => cases node <;> rfl

/-- A step into a name fails, or enters the directory of that name, which it creates if there is
none. -/
theorem createAlong_into_cases {files : FileSystem} {absolute : Bool} {here : Location}
    (name : Text) (rest : List Step) (stands : files.kind? absolute here = some .directory) :
    (∃ fault, files.createAlong absolute here (.into name :: rest) = (.error fault, files)) ∨
      ∃ entered : FileSystem, files.admitsStep (.into name) = true ∧
        Overlay absolute (· = here ++ [name]) (fun _ => none) files entered ∧
        entered.kind? absolute (here ++ [name]) = some .directory ∧
        files.createAlong absolute here (.into name :: rest) =
          entered.createAlong absolute (here ++ [name]) rest := by
  rw [createAlong_into]
  by_cases admitted : files.admitsStep (.into name) = true
  · rw [if_pos admitted]
    cases found : files.kind? absolute (here ++ [name]) with
    | some kind =>
        cases kind with
        | file data => exact .inl ⟨.refused, rfl⟩
        | directory => exact .inr ⟨files, admitted, .refl files, found, rfl⟩
    | none =>
        by_cases corner : (!rest.isEmpty && rest.all (· = .stay)) = true
        · exact .inl ⟨.absent, if_pos corner⟩
        · exact .inr ⟨_, admitted, overlay_place_directory stands found,
            kind?_place_self stands (by simp [found]) (by simp), if_neg corner⟩
  · exact .inl ⟨.refused, if_neg admitted⟩

theorem createAlong_overlay {files : FileSystem} {absolute : Bool} {here : Location}
    (steps : List Step) (stands : files.kind? absolute here = some .directory) :
    Overlay absolute (· ∈ trail here steps) (fun _ => none) files
      (files.createAlong absolute here steps).2 := by
  induction steps generalizing files here with
  | nil => exact .refl files
  | cons step rest induction =>
      have along (location) (member : location ∈ trail (step.lead here) rest) :
          location ∈ trail here (step :: rest) := .tail here member
      cases step with
      | stay => exact (induction stands).mono along
      | up => exact (induction (kind?_dropLast stands)).mono along
      | into name =>
          rcases createAlong_into_cases name rest stands with
            ⟨fault, failed⟩ | ⟨entered, -, overlay, inside, continued⟩
          · rw [failed]
            exact .refl files
          · rw [continued]
            refine (overlay.mono ?_).trans ((induction inside).mono along)
            rintro location rfl
            exact along _ (here_mem_trail _ _)

theorem createAlong_inversion {files after : FileSystem} {absolute : Bool} {here : Location}
    {steps : List Step} (stands : files.kind? absolute here = some .directory)
    (created : files.createAlong absolute here steps = (.ok (), after)) :
    (∀ step ∈ steps, files.admitsStep step = true) ∧
      ∀ location ∈ trail here steps, after.kind? absolute location = some .directory := by
  induction steps generalizing files here with
  | nil =>
      obtain rfl : files = after := congrArg Prod.snd created
      simp [trail, stands]
  | cons step rest induction =>
      have overlay := createAlong_overlay (step :: rest) stands
      rw [created] at overlay
      rw [trail_cons, List.forall_mem_cons, List.forall_mem_cons]
      cases step with
      | stay =>
          obtain ⟨admitted, directories⟩ := induction stands created
          exact ⟨⟨rfl, admitted⟩, overlay.spared stands, directories⟩
      | up =>
          obtain ⟨admitted, directories⟩ := induction (kind?_dropLast stands) created
          exact ⟨⟨rfl, admitted⟩, overlay.spared stands, directories⟩
      | into name =>
          rcases createAlong_into_cases name rest stands with
            ⟨fault, failed⟩ | ⟨entered, admitted, first, inside, continued⟩
          · rw [failed] at created
            cases created
          · rw [continued] at created
            obtain ⟨later, directories⟩ := induction inside created
            refine ⟨⟨admitted, fun step member => ?_⟩, overlay.spared stands, directories⟩
            have same : entered.admitsStep step = files.admitsStep step :=
              first.admitsStep_eq step
            exact same ▸ later step member

/-- Directories can be created along steps unless a name is too long, a file is in the way, or the
last step stays where it is. -/
theorem createAlong_succeeds {files : FileSystem} {absolute : Bool} {here : Location}
    {steps : List Step} (stands : files.kind? absolute here = some .directory)
    (admitted : ∀ step ∈ steps, files.admitsStep step = true)
    (clear : ∀ location ∈ trail here steps, ∀ data,
      files.kind? absolute location ≠ some (.file data))
    (ending : steps.getLast? ≠ some .stay) :
    (files.createAlong absolute here steps).1 = .ok () := by
  induction steps generalizing files here with
  | nil => rfl
  | cons step rest induction =>
      rw [trail_cons, List.forall_mem_cons] at clear
      rw [List.forall_mem_cons] at admitted
      have endingLater : rest.getLast? ≠ some .stay := by
        cases rest with
        | nil => simp
        | cons next rest => simpa [List.getLast?_cons_cons] using ending
      cases step with
      | stay => exact induction stands admitted.2 clear.2 endingLater
      | up => exact induction (kind?_dropLast stands) admitted.2 clear.2 endingLater
      | into name =>
          rw [createAlong_into, if_pos admitted.1]
          cases found : files.kind? absolute (here ++ [name]) with
          | some kind =>
              cases kind with
              | file data => exact absurd found (clear.2 _ (here_mem_trail _ _) data)
              | directory => exact induction found admitted.2 clear.2 endingLater
          | none =>
              have moving : ¬ (!rest.isEmpty && rest.all (· = .stay)) = true := by
                intro staying
                simp only [Bool.and_eq_true, Bool.not_eq_true', List.isEmpty_eq_false_iff,
                  List.all_eq_true, decide_eq_true_eq] at staying
                have last := List.getLast?_eq_some_getLast staying.1
                rw [staying.2 _ (List.getLast_mem staying.1)] at last
                exact endingLater last
              have overlay := overlay_place_directory stands found
              simp only [if_neg moving]
              refine induction ?_ ?_ ?_ endingLater
              · exact kind?_place_self stands (by simp [found]) (by simp)
              · intro step member
                exact (overlay.admitsStep_eq step).trans (admitted.2 step member)
              · intro location member data stood
                exact clear.2 location member data (overlay.file_inversion rfl stood)

private theorem all_stay_of_bare {steps : List Step} (straight : Step.up ∉ steps)
    (bare : steps.filterMap Step.name? = []) : steps.all (· = .stay) = true := by
  rw [List.filterMap_eq_nil_iff] at bare
  rw [List.all_eq_true]
  intro step member
  have named := bare step member
  cases step with
  | stay => rfl
  | up => exact absurd member straight
  | into name => cases named

theorem createAlong_staying {files : FileSystem} {absolute : Bool} {here : Location}
    {steps : List Step} (stands : files.kind? absolute here = some .directory)
    (straight : Step.up ∉ steps) (stays : steps.getLast? = some .stay)
    (vacant : files.kind? absolute (reach here steps) = none) :
    (files.createAlong absolute here steps).1 ≠ .ok () := by
  -- The steps come to a name that is missing and has nothing but stays behind it.
  induction steps generalizing files here with
  | nil => cases stays
  | cons step rest induction =>
      have later : Step.up ∉ rest := fun member => straight (.tail step member)
      cases rest with
      | nil =>
          obtain rfl : step = .stay := by simpa using stays
          rw [reach_cons, reach_nil, Step.lead, stands] at vacant
          cases vacant
      | cons next rest =>
          rw [List.getLast?_cons_cons] at stays
          rw [reach_cons] at vacant
          cases step with
          | stay => exact induction stands later stays vacant
          | up => exact absurd List.mem_cons_self straight
          | into name =>
              rw [createAlong_into]
              by_cases admitted : files.admitsStep (.into name) = true
              · rw [if_pos admitted]
                cases found : files.kind? absolute (here ++ [name]) with
                | some kind =>
                    cases kind with
                    | file data => simp
                    | directory => exact induction found later stays vacant
                | none =>
                    by_cases bare : (next :: rest).all (· = .stay) = true
                    · simp [bare]
                    · have overlay := overlay_place_directory stands found
                      have further : reach (here ++ [name]) (next :: rest) ≠ here ++ [name] := by
                        intro same
                        rw [reach_of_straight later] at same
                        exact bare (all_stay_of_bare later (by simpa using same))
                      simp only [Bool.eq_false_iff.mpr bare, Bool.and_false, Bool.false_eq_true,
                        if_false]
                      refine induction ?_ later stays ?_
                      · exact kind?_place_self stands (by simp [found]) (by simp)
                      · rcases @overlay.kept (reach (here ++ [name]) (next :: rest)) rfl
                          with same | ⟨arrived, -⟩
                        · exact same.trans vacant
                        · exact absurd arrived further
              · rw [if_neg admitted]
                simp

theorem createAlong_settled {files : FileSystem} {absolute : Bool} {here : Location}
    {steps : List Step} (admitted : ∀ step ∈ steps, files.admitsStep step = true)
    (directories : ∀ location ∈ trail here steps,
      files.kind? absolute location = some .directory) :
    files.createAlong absolute here steps = (.ok (), files) := by
  induction steps generalizing here with
  | nil => rfl
  | cons step rest induction =>
      rw [trail_cons, List.forall_mem_cons] at directories
      rw [List.forall_mem_cons] at admitted
      have later := induction admitted.2 directories.2
      cases step with
      | stay => exact later
      | up => exact later
      | into name =>
          have inside : files.kind? absolute (here ++ [name]) = some .directory :=
            directories.2 _ (here_mem_trail _ _)
          rw [createAlong_into, if_pos admitted.1, inside]
          exact later

theorem createAlong_repeats {files : FileSystem} {absolute : Bool} {here : Location}
    (steps : List Step) (stands : files.kind? absolute here = some .directory) :
    (files.createAlong absolute here steps).2.createAlong absolute here steps =
      files.createAlong absolute here steps := by
  induction steps generalizing files here with
  | nil => rfl
  | cons step rest induction =>
      cases step with
      | stay => exact induction stands
      | up => exact induction (kind?_dropLast stands)
      | into name =>
          rcases createAlong_into_cases name rest stands with
            ⟨fault, failed⟩ | ⟨entered, admitted, overlay, inside, continued⟩
          · rw [failed]
            exact failed
          · rw [continued]
            have later := createAlong_overlay rest inside
            have admittedLater :=
              (later.admitsStep_eq _).trans ((overlay.admitsStep_eq _).trans admitted)
            rw [createAlong_into, if_pos admittedLater, later.spared inside]
            exact induction inside

end FileSystem

end ApiSurface
