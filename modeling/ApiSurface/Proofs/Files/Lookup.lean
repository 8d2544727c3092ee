import ApiSurface.Proofs.Files.Kind
import ApiSurface.Proofs.Files.Trail
import ApiSurface.Proofs.Text.Utf8
import Mathlib.Data.Char

/-! What a file system answers, in terms of what stands at the locations that a path comes
along. -/

namespace ApiSurface

namespace FileSystem

open ApiSurface.Path

def kind? (files : FileSystem) (absolute : Bool) (location : Location) : Option Node.Kind :=
  (files.tree absolute).kind? location

@[simp] theorem kind?_top (files : FileSystem) (absolute : Bool) :
    files.kind? absolute [] = some .directory :=
  Folder.kind?_nil _

theorem kind?_of_below {files : FileSystem} {absolute : Bool} {location : Location}
    {name : Text} {rest : Location}
    (stands : files.kind? absolute (location ++ name :: rest) ≠ none) :
    files.kind? absolute location = some .directory :=
  Folder.kind?_of_below stands

theorem kind?_of_child {files : FileSystem} {absolute : Bool} {location : Location}
    {name : Text} {kind : Node.Kind}
    (stands : files.kind? absolute (location ++ [name]) = some kind) :
    files.kind? absolute location = some .directory :=
  kind?_of_below (stands.trans_ne (Option.some_ne_none _))

theorem kind?_above {files : FileSystem} {absolute : Bool} {location below : Location}
    (above : location <+: below) (distinct : location ≠ below)
    (stands : files.kind? absolute below ≠ none) :
    files.kind? absolute location = some .directory := by
  obtain ⟨rest, rfl⟩ := above
  cases rest with
  | nil => exact absurd (List.append_nil location).symm distinct
  | cons name rest => exact kind?_of_below stands

theorem kind?_dropLast {files : FileSystem} {absolute : Bool} {location : Location}
    (stands : files.kind? absolute location = some .directory) :
    files.kind? absolute location.dropLast = some .directory := by
  cases location using List.reverseRecOn with
  | nil => exact stands
  | append_singleton location name =>
      rw [List.dropLast_concat]
      exact kind?_of_child stands

def admitsStep (files : FileSystem) : Step → Bool
  | .into name => files.admitsName name
  | _ => true

/-- Whether a path can be handed to the system and every name on it is short enough. -/
def Admits (files : FileSystem) (path : Path) : Prop :=
  files.admitsPath path = true ∧ ∀ step ∈ path.steps, files.admitsStep step = true

instance (files : FileSystem) (path : Path) : Decidable (files.Admits path) :=
  inferInstanceAs (Decidable (_ ∧ _))

theorem hasRoom_of_unbounded {files : FileSystem} {absolute : Bool} {location : Location}
    (unbounded : files.limits.fileBytes absolute location = none) (content : Bytes) :
    files.HasRoom absolute location content := by
  simp [HasRoom, unbounded]

theorem portion_prefix (files : FileSystem) (absolute : Bool) (location : Location)
    (content : Bytes) : files.portion absolute location content <+: content := by
  unfold portion
  split
  · exact List.prefix_rfl
  · exact List.take_prefix _ content

theorem length_portion_eq_iff {files : FileSystem} {absolute : Bool} {location : Location}
    {content : Bytes} :
    (files.portion absolute location content).length = content.length ↔
      files.HasRoom absolute location content := by
  unfold portion HasRoom
  cases files.limits.fileBytes absolute location with
  | none => simp
  | some bytes =>
      simp only [List.length_take, Option.mem_def, Option.some.injEq, forall_eq']
      omega

theorem HasRoom.portion_eq {files : FileSystem} {absolute : Bool} {location : Location}
    {content : Bytes} (room : files.HasRoom absolute location content) :
    files.portion absolute location content = content :=
  (files.portion_prefix absolute location content).eq_of_length (length_portion_eq_iff.mpr room)

theorem follow_cons (files : FileSystem) (absolute : Bool) (here : Location) (step : Step)
    (rest : List Step) :
    files.follow absolute here (step :: rest) =
      match files.kind? absolute here with
      | none => .error .absent
      | some (.file _) => .error .refused
      | some .directory =>
          if files.admitsStep step then files.follow absolute (step.lead here) rest
          else .error .refused := by
  rw [follow.eq_def]
  simp only [kind?, Folder.kind?]
  cases (files.tree absolute).get? here with
  | none => rfl
  | some node =>
      cases node with
      | file data => rfl
      | directory entries => cases step <;> rfl

theorem follow_eq_ok_iff {files : FileSystem} {absolute : Bool} {here location : Location}
    {steps : List Step} :
    files.follow absolute here steps = .ok location ↔
      location = reach here steps ∧ (∀ step ∈ steps, files.admitsStep step = true) ∧
        ∀ start ∈ starts here steps, files.kind? absolute start = some .directory := by
  induction steps generalizing here with
  | nil => simp [follow, @eq_comm _ here]
  | cons step rest induction =>
      rw [follow_cons, reach_cons, starts_cons, List.forall_mem_cons, List.forall_mem_cons]
      split
      · simp [*]
      · simp [*]
      · next stands =>
        split_ifs with admitted
        · simp [induction, stands, admitted]
        · simp [admitted]

theorem absent_of_follow {files : FileSystem} {absolute : Bool} {here : Location}
    {steps : List Step} (followed : files.follow absolute here steps = .error .absent) :
    ∃ start ∈ starts here steps, files.kind? absolute start = none := by
  induction steps generalizing here with
  | nil => simp [follow] at followed
  | cons step rest induction =>
      rw [follow_cons] at followed
      split at followed
      · next missing => exact ⟨here, List.mem_cons_self, missing⟩
      · simp at followed
      · split_ifs at followed
        · obtain ⟨start, member, missing⟩ := induction followed
          exact ⟨start, .tail here member, missing⟩
        · simp at followed

theorem follow_ne_refused {files : FileSystem} {absolute : Bool} {here : Location}
    {steps : List Step} (admitted : ∀ step ∈ steps, files.admitsStep step = true)
    (clear : ∀ start ∈ starts here steps, ∀ data,
      files.kind? absolute start ≠ some (.file data)) :
    files.follow absolute here steps ≠ .error .refused := by
  induction steps generalizing here with
  | nil => simp [follow]
  | cons step rest induction =>
      rw [starts_cons, List.forall_mem_cons] at clear
      rw [List.forall_mem_cons] at admitted
      rw [follow_cons]
      split
      · simp
      · next data stands => exact absurd stands (clear.1 data)
      · rw [if_pos admitted.1]
        exact induction admitted.2 clear.2

theorem locate_eq_follow {files : FileSystem} {path : Path} (filled : path ≠ [])
    (admitted : files.admitsPath path = true) :
    files.locate path = files.follow path.isAbsolute [] path.steps := by
  rw [locate, if_neg (by simpa using filled), if_pos admitted]

theorem locate_eq_ok_iff {files : FileSystem} {path : Path} {location : Location} :
    files.locate path = .ok location ↔
      path ≠ [] ∧ location = reach [] path.steps ∧ files.Admits path ∧
        ∀ start ∈ starts [] path.steps,
          files.kind? path.isAbsolute start = some .directory := by
  unfold locate
  split_ifs with empty admitted
  · simp [List.isEmpty_iff.mp empty]
  · have filled : path ≠ [] := by simpa using empty
    simp [follow_eq_ok_iff, filled, Admits, admitted]
  · simp [Admits, admitted]

theorem absent_of_locate {files : FileSystem} {path : Path} (filled : path ≠ [])
    (located : files.locate path = .error .absent) :
    files.admitsPath path = true ∧
      ∃ start ∈ starts [] path.steps, files.kind? path.isAbsolute start = none := by
  unfold locate at located
  split_ifs at located with empty admitted
  · exact absurd (List.isEmpty_iff.mp empty) filled
  · exact ⟨admitted, absent_of_follow located⟩
  · cases located

theorem locate_ne_refused {files : FileSystem} {path : Path} (admitted : files.Admits path)
    (clear : ∀ start ∈ starts [] path.steps, ∀ data,
      files.kind? path.isAbsolute start ≠ some (.file data)) :
    files.locate path ≠ .error .refused := by
  unfold locate
  split_ifs with empty
  · simp
  · exact follow_ne_refused admitted.2 clear
  · exact absurd admitted.1 ‹_›

theorem file_eq_ok_iff {files : FileSystem} {path : Path} {data : RegularFile} :
    files.file path = .ok data ↔
      ∃ location, files.locate path = .ok location ∧
        files.kind? path.isAbsolute location = some (.file data) ∧
        path.demandsDirectory = false := by
  rw [file, node]
  cases located : files.locate path with
  | error fault => simp
  | ok location =>
      simp only [kind?, Folder.kind?, Except.ok.injEq, exists_eq_left']
      cases (files.tree path.isAbsolute).get? location with
      | none => simp
      | some node =>
          cases node with
          | file held => cases path.demandsDirectory <;> simp
          | directory entries => simp

theorem node_eq_ok_file_iff {files : FileSystem} {path : Path} {data : RegularFile} :
    files.node path = .ok (.file data) ↔ files.file path = .ok data := by
  rw [file]
  cases files.node path with
  | error fault => simp
  | ok node => cases node <;> simp

theorem file_eq_absent_iff {files : FileSystem} {path : Path} :
    files.file path = .error .absent ↔ files.node path = .error .absent := by
  rw [file]
  cases files.node path with
  | error fault => simp
  | ok node => cases node <;> simp

theorem node_eq_absent_iff {files : FileSystem} {path : Path} :
    files.node path = .error .absent ↔
      files.locate path = .error .absent ∨
        ∃ location, files.locate path = .ok location ∧
          files.kind? path.isAbsolute location = none := by
  rw [node]
  cases located : files.locate path with
  | error fault => simp
  | ok location =>
      simp only [kind?, Folder.kind?, reduceCtorEq, Except.ok.injEq, exists_eq_left', false_or]
      cases (files.tree path.isAbsolute).get? location with
      | none => simp
      | some node =>
          cases node with
          | file held => cases path.demandsDirectory <;> simp
          | directory entries => simp

theorem isFile_iff {files : FileSystem} {path : Path} :
    files.isFile path = true ↔ ∃ data, files.file path = .ok data := by
  rw [isFile, file]
  cases files.node path with
  | error fault => simp
  | ok node => cases node <;> simp

theorem mem_names_iff {folder : Folder} {name : Text} :
    name ∈ folder.names ↔ folder.lookup name ≠ none := by
  rw [Folder.names, List.mem_eraseDups, List.mem_mergeSort, ne_eq, List.lookup_eq_none_iff]
  simp

private theorem pairwise_eraseDups : {names : List Text} →
    names.Pairwise (fun left right => ¬ right < left) →
    names.eraseDups.Pairwise (· < ·)
  | [], _ => by simp
  | name :: rest, ascending => by
      obtain ⟨least, later⟩ := List.pairwise_cons.mp ascending
      rw [List.eraseDups_cons, List.pairwise_cons]
      constructor
      · intro other member
        obtain ⟨inside, distinct⟩ := List.mem_filter.mp (List.mem_eraseDups.mp member)
        have different : name ≠ other := by
          rintro rfl
          simp at distinct
        exact lt_of_le_of_ne (not_lt.mp (least other inside)) different
      · exact pairwise_eraseDups (later.sublist List.filter_sublist)
termination_by names => names.length
decreasing_by
  exact Nat.lt_succ_of_le (List.length_filter_le _ _)

theorem pairwise_names (folder : Folder) : folder.names.Pairwise (· < ·) := by
  apply pairwise_eraseDups
  let precedes (left right : Text) : Bool := !decide (right < left)
  have transitive (a b c) (first : precedes a b = true) (second : precedes b c = true) :
      precedes a c = true := by
    simp only [precedes, Bool.not_eq_true', decide_eq_false_iff_not, not_lt] at *
    exact le_trans first second
  have total (a b) : (precedes a b || precedes b a) = true := by
    simp only [precedes, Bool.or_eq_true, Bool.not_eq_true', decide_eq_false_iff_not, not_lt]
    exact le_total a b
  simpa [precedes] using List.pairwise_mergeSort transitive total (folder.map Prod.fst)

theorem list_eq_ok {files : FileSystem} {path : Path} {names : List Text}
    (listed : files.list path = .ok names) :
    ∃ location, files.locate path = .ok location ∧
      files.kind? path.isAbsolute location = some .directory ∧
      names.Pairwise (· < ·) ∧
      ∀ name, name ∈ names ↔ files.kind? path.isAbsolute (location ++ [name]) ≠ none := by
  rw [list, node] at listed
  cases located : files.locate path with
  | error fault => simp [located] at listed
  | ok location =>
      simp only [located] at listed
      cases found : (files.tree path.isAbsolute).get? location with
      | none => simp [found] at listed
      | some node =>
          cases node with
          | file data =>
              simp only [found] at listed
              split_ifs at listed
          | directory entries =>
              obtain rfl : Folder.names entries = names := by simpa [found] using listed
              refine ⟨location, rfl, by simp [kind?, Folder.kind?, found],
                pairwise_names entries, ?_⟩
              intro name
              rw [mem_names_iff, kind?, Folder.kind?, Folder.get?_entry found]
              simp

theorem list_of_directory {files : FileSystem} {path : Path} {location : Location}
    (located : files.locate path = .ok location)
    (stands : files.kind? path.isAbsolute location = some .directory) :
    ∃ names, files.list path = .ok names := by
  rw [kind?, Folder.kind?] at stands
  rw [list, node, located]
  cases found : (files.tree path.isAbsolute).get? location with
  | none => simp [found] at stands
  | some node =>
      cases node with
      | file data => simp [found] at stands
      | directory entries => exact ⟨Folder.names entries, by simp [found]⟩

theorem list_of_refused {files : FileSystem} {path : Path}
    (located : files.locate path = .error .refused) :
    files.list path = .error .refused := by
  rw [list, node, located]

theorem list_of_file {files : FileSystem} {path : Path} {location : Location} {data : RegularFile}
    (located : files.locate path = .ok location)
    (stands : files.kind? path.isAbsolute location = some (.file data)) :
    files.list path = .error .refused := by
  rw [kind?, Folder.kind?] at stands
  rw [list, node, located]
  cases found : (files.tree path.isAbsolute).get? location with
  | none => simp [found] at stands
  | some node =>
      cases node with
      | directory entries => simp [found] at stands
      | file held =>
          simp only [found]
          split_ifs <;> rfl

/-- Whether a path can be listed depends on where it leads and on what kind of node stands there. -/
theorem list_congr {files other : FileSystem} {path : Path}
    (located : files.locate path = other.locate path)
    (kinds : ∀ location, files.locate path = .ok location →
      files.kind? path.isAbsolute location = other.kind? path.isAbsolute location) :
    (∃ fault, files.list path = .error fault ∧ other.list path = .error fault) ∨
      ∃ names names', files.list path = .ok names ∧ other.list path = .ok names' := by
  cases leads : files.locate path with
  | error fault =>
      refine .inl ⟨fault, ?_, ?_⟩
      · rw [list, node, leads]
      · rw [list, node, ← located, leads]
  | ok location =>
      have same := kinds location leads
      rw [leads] at located
      cases found : files.kind? path.isAbsolute location with
      | none =>
          refine .inl ⟨.absent, ?_, ?_⟩
          · rw [list, node_eq_absent_iff.mpr (.inr ⟨location, leads, found⟩)]
          · rw [list, node_eq_absent_iff.mpr (.inr ⟨location, located.symm, same ▸ found⟩)]
      | some kind =>
          cases kind with
          | file data =>
              exact .inl ⟨.refused, list_of_file leads found,
                list_of_file located.symm (same ▸ found)⟩
          | directory =>
              obtain ⟨names, listed⟩ := list_of_directory leads found
              obtain ⟨names', listed'⟩ := list_of_directory located.symm (same ▸ found)
              exact .inr ⟨names, names', listed, listed'⟩

theorem locate_of_directory {files : FileSystem} {path : Path} (filled : path ≠ [])
    (straight : path.IsStraight) (admitted : files.Admits path)
    (stands : files.kind? path.isAbsolute path.names = some .directory) :
    files.locate path = .ok path.names := by
  rw [locate_eq_ok_iff]
  refine ⟨filled, (reach_steps straight).symm, admitted, fun start member => ?_⟩
  have above : start <+: path.names := trail_steps straight (mem_trail.mpr (.inl member))
  by_cases same : start = path.names
  · rw [same, stands]
  · exact kind?_above above same (by simp [stands])

theorem names_of_locate {files : FileSystem} {path : Path} {location : Location}
    (straight : path.IsStraight) (located : files.locate path = .ok location) :
    location = path.names :=
  (locate_eq_ok_iff.mp located).2.1.trans (reach_steps straight)

theorem node_of_vacant {files : FileSystem} {path : Path} (straight : path.IsStraight)
    (admitted : files.Admits path)
    (vacant : files.kind? path.isAbsolute path.names = none)
    (clear : ∀ start ∈ starts [] path.steps, ∀ data,
      files.kind? path.isAbsolute start ≠ some (.file data)) :
    files.node path = .error .absent := by
  rw [node_eq_absent_iff]
  cases located : files.locate path with
  | ok location =>
      exact .inr ⟨location, rfl, names_of_locate straight located ▸ vacant⟩
  | error fault =>
      cases fault with
      | absent => exact .inl rfl
      | refused => exact absurd located (locate_ne_refused admitted clear)

theorem Admits.of_join {files : FileSystem} {base : Path} {name : Text}
    (isName : IsName name) (admitted : files.Admits (join base name)) :
    files.Admits base := by
  obtain ⟨handed, steps⟩ := admitted
  obtain ⟨rest, longer⟩ : ∃ rest, join base name = base ++ rest := by
    rw [join_of_relative (not_isAbsolute_of_part isName.no_slash)]
    split_ifs
    · exact ⟨_, rfl⟩
    · exact ⟨_, rfl⟩
  constructor
  · rw [longer] at handed
    simp only [admitsPath, Bool.and_eq_true, Bool.not_eq_true', Bool.eq_false_iff, ne_eq,
      List.contains_iff_mem, List.mem_append, not_or] at handed ⊢
    refine ⟨handed.1.1, ?_⟩
    cases bound : files.limits.pathBytes with
    | none => rfl
    | some bytes =>
        simp only [bound, fits, Utf8.encode_append, List.length_append,
          decide_eq_true_eq] at handed ⊢
        omega
  · intro step member
    apply steps
    rw [steps_join_name base isName]
    exact List.mem_append_left _ member

theorem locate_join_iff {files : FileSystem} {base : Path} {name : Text} {location : Location}
    (filled : base ≠ []) (isName : IsName name) :
    files.locate (join base name) = .ok location ↔
      files.Admits (join base name) ∧
        ∃ parent, files.locate base = .ok parent ∧
          files.kind? base.isAbsolute parent = some .directory ∧
          location = parent ++ [name] := by
  simp only [locate_eq_ok_iff, isAbsolute_join base isName.no_slash,
    steps_join_name base isName, reach_append, starts_append, reach_cons, reach_nil,
    starts_cons, starts_nil, List.forall_mem_append, List.forall_mem_singleton, Step.lead]
  constructor
  · rintro ⟨-, rfl, admitted, directories, last⟩
    exact ⟨admitted, _, ⟨filled, rfl, admitted.of_join isName, directories⟩, last, rfl⟩
  · rintro ⟨admitted, _, ⟨-, rfl, -, directories⟩, last, rfl⟩
    exact ⟨join_ne_nil isName.ne_nil, rfl, admitted, directories, last⟩

theorem file_join_iff {files : FileSystem} {base : Path} {name : Text} {data : RegularFile}
    (filled : base ≠ []) (isName : IsName name) :
    files.file (join base name) = .ok data ↔
      files.Admits (join base name) ∧
        ∃ parent, files.locate base = .ok parent ∧
          files.kind? base.isAbsolute (parent ++ [name]) = some (.file data) := by
  rw [file_eq_ok_iff, isAbsolute_join base isName.no_slash]
  simp only [locate_join_iff filled isName]
  constructor
  · rintro ⟨_, ⟨admitted, parent, located, -, rfl⟩, stands, -⟩
    exact ⟨admitted, parent, located, stands⟩
  · rintro ⟨admitted, parent, located, stands⟩
    exact ⟨_, ⟨admitted, parent, located, kind?_of_child stands, rfl⟩, stands,
      not_demandsDirectory_join base isName.ne_nil isName.no_slash⟩

theorem admits_of_file_join {files : FileSystem} {base : Path} {name : Text}
    {parent : Location} (isName : IsName name) (located : files.locate base = .ok parent)
    (stands : files.kind? base.isAbsolute parent = some .directory)
    (answered : files.file (join base name) ≠ .error .refused) :
    files.Admits (join base name) := by
  obtain ⟨filled, rfl, -, directories⟩ := locate_eq_ok_iff.mp located
  cases joined : files.locate (join base name) with
  | ok location => exact ((locate_join_iff filled isName).mp joined).1
  | error fault =>
      cases fault with
      | refused => exact absurd (by rw [file, node, joined]) answered
      | absent =>
          obtain ⟨-, start, member, missing⟩ :=
            absent_of_locate (join_ne_nil isName.ne_nil) joined
          rw [isAbsolute_join base isName.no_slash] at missing
          rw [steps_join_name base isName, starts_append, List.mem_append, starts_cons,
            starts_nil, List.mem_singleton] at member
          rcases member with inside | rfl
          · simp [directories start inside] at missing
          · simp [stands] at missing

theorem file_join_eq {files : FileSystem} {base : Path} {name : Text} {parent : Location}
    (isName : IsName name) (located : files.locate base = .ok parent)
    (stands : files.kind? base.isAbsolute parent = some .directory)
    (admitted : files.Admits (join base name)) :
    files.file (join base name) =
      match files.kind? base.isAbsolute (parent ++ [name]) with
      | none => .error .absent
      | some .directory => .error .refused
      | some (.file data) => .ok data := by
  have filled := (locate_eq_ok_iff.mp located).1
  have joined : files.locate (join base name) = .ok (parent ++ [name]) :=
    (locate_join_iff filled isName).mpr ⟨admitted, parent, located, stands, rfl⟩
  rw [file, node, joined]
  simp only [kind?, Folder.kind?, isAbsolute_join base isName.no_slash,
    not_demandsDirectory_join base isName.ne_nil isName.no_slash]
  cases (files.tree base.isAbsolute).get? (parent ++ [name]) with
  | none => rfl
  | some node => cases node <;> rfl

/-- A regular file of a name is in a directory, under a path that is not too long. -/
def HoldsFile (files : FileSystem) (directory : Path) (name : Text) : Prop :=
  files.Admits (join directory name) ∧
    ∃ data, files.kind? directory.isAbsolute (directory.names ++ [name]) = some (.file data)

theorem file_join_straight_iff {files : FileSystem} {base : Path} {name : Text}
    {data : RegularFile} (filled : base ≠ []) (straight : base.IsStraight)
    (isName : IsName name) :
    files.file (join base name) = .ok data ↔
      files.Admits (join base name) ∧
        files.kind? base.isAbsolute (base.names ++ [name]) = some (.file data) := by
  rw [file_join_iff filled isName]
  constructor
  · rintro ⟨admitted, parent, located, stands⟩
    exact ⟨admitted, names_of_locate straight located ▸ stands⟩
  · rintro ⟨admitted, stands⟩
    exact ⟨admitted, base.names,
      locate_of_directory filled straight (admitted.of_join isName) (kind?_of_child stands), stands⟩

theorem isFile_join_iff {files : FileSystem} {base : Path} {name : Text} (filled : base ≠ [])
    (straight : base.IsStraight) (isName : IsName name) :
    files.isFile (join base name) = true ↔ files.HoldsFile base name := by
  simp only [isFile_iff, file_join_straight_iff filled straight isName, HoldsFile, exists_and_left]

theorem mem_list_of_file {files : FileSystem} {directory : Path} {name : Text}
    {data : RegularFile} (filled : directory ≠ []) (isName : IsName name)
    (held : files.file (join directory name) = .ok data) :
    ∃ names, files.list directory = .ok names ∧ name ∈ names := by
  obtain ⟨-, parent, located, stands⟩ := (file_join_iff filled isName).mp held
  have above : files.kind? directory.isAbsolute parent = some .directory :=
    kind?_of_child stands
  obtain ⟨names, listed⟩ := list_of_directory located above
  obtain ⟨_, located', -, -, mem_iff⟩ := list_eq_ok listed
  obtain rfl : parent = _ := Except.ok.inj (located.symm.trans located')
  exact ⟨names, listed, (mem_iff name).mpr (by simp [stands])⟩

end FileSystem

end ApiSurface
