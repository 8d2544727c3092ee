import ApiSurface.Proofs.Correspondence
import ApiSurface.Proofs.Files.Beside
import ApiSurface.Run.Library

namespace ApiSurface

deriving instance DecidableEq for Archive.Member

namespace Library

open ApiSurface.Action FileSystem RunState

variable {σ τ α : Type} {invariant : RunState σ → Prop} {own : σ → τ → Prop}
  {state : RunState σ} {path aar scratch : Path} {data : RegularFile} {content : Bytes}

theorem isName_innerJarName : Path.IsName innerJarName := by
  decide

variable [Archive.Reader]

theorem openArchive_of_file (kind : InputKind) (held : state.files.file path = .ok data) :
    openArchive kind path state =
      match Archive.read? data.content with
      | some archive => .ok archive state
      | none => .error (.unreadableArchive kind path) state := by
  have bytes : readBytes path state = .ok data.content state := by
    unfold readBytes
    rw [bind_of_ok _ (ask_of_ok _ (node_eq_ok_file_iff.mpr held))]
    rfl
  unfold openArchive
  rw [bind_of_ok _ bytes]
  cases Archive.read? data.content <;> rfl

theorem listClasses_of_file (held : state.files.file path = .ok data) :
    listClasses path state =
      match Archive.read? data.content with
      | none => .error (.unreadableArchive .jar path) state
      | some archive =>
          match archive.classNames with
          | .ok names => .ok names state
          | .error fault => .error (.inaccessibleMember fault) state := by
  have opened := openArchive_of_file .jar held
  unfold listClasses
  cases readable : Archive.read? data.content with
  | none =>
      rw [readable] at opened
      exact bind_of_error _ opened
  | some archive =>
      rw [readable] at opened
      rw [bind_of_ok _ opened]
      dsimp only
      cases archive.classNames <;> rfl

/-- An aar whose inner archive unpacks soundly to some bytes. -/
def HoldsInnerJar (files : FileSystem) (aar : Path) (content : Bytes) : Prop :=
  ∃ data archive member stored, files.file aar = .ok data ∧
    Archive.read? data.content = some archive ∧
    archive.find? innerJarName = some member ∧ member.access = .ok stored ∧
    stored.unpack = (content, true)

theorem extractInnerJar_succeeds {bare : FileSystem} (beside : Beside scratch state.files bare)
    (inner : HoldsInnerJar bare aar content)
    (fits : state.files.Admits (Path.join scratch innerJarName))
    (room : state.files.HasRoom scratch.isAbsolute (scratch.goal ++ [innerJarName]) content)
    (vacant : state.files.kind? scratch.isAbsolute (scratch.goal ++ [innerJarName]) = none) :
    ∃ files executable,
      extractInnerJar aar scratch state =
        .ok (Path.join scratch innerJarName) { state with files } ∧
      state.files.write (Path.join scratch innerJarName) content = (.ok (), files) ∧
      files.file (Path.join scratch innerJarName) = .ok ⟨content, executable⟩ := by
  obtain ⟨data, archive, member, stored, held, readable, found, accessible, sound⟩ := inner
  have opened := openArchive_of_file .aar (beside.file_of_bare held)
  rw [readable] at opened
  have filled := (locate_eq_ok_iff.mp beside.located).1
  have located : state.files.locate (Path.join scratch innerJarName) =
      .ok (scratch.goal ++ [innerJarName]) :=
    (locate_join_iff filled isName_innerJarName).mpr
      ⟨fits, _, beside.located, beside.stands, rfl⟩
  have absolute := Path.isAbsolute_join scratch isName_innerJarName.no_slash
  obtain ⟨files, wrote⟩ := write_succeeds located (by rw [absolute, vacant]; simp)
    (Path.not_demandsDirectory_join scratch isName_innerJarName.ne_nil
      isName_innerJarName.no_slash) (absolute.symm ▸ room)
  obtain ⟨location, located', -, overlay⟩ := write_inversion wrote
  obtain rfl : location = scratch.goal ++ [innerJarName] :=
    Except.ok.inj (located'.symm.trans located)
  obtain ⟨executable, stands⟩ := overlay.written (if_pos rfl)
  have after : files.file (Path.join scratch innerJarName) = .ok ⟨content, executable⟩ := by
    rw [absolute] at overlay stands
    exact (file_join_iff filled isName_innerJarName).mpr
      ⟨overlay.admits_iff.mpr fits, _, overlay.locate beside.located, stands⟩
  have written (failure : WriteFault → Failure) :
      writeFile failure (Path.join scratch innerJarName) content state =
        .ok () { state with files } := writeFile_eq_ok_iff.mpr ⟨files, wrote, rfl⟩
  refine ⟨files, executable, ?_, wrote, after⟩
  unfold extractInnerJar
  rw [bind_of_ok _ opened]
  simp only [found, accessible, sound]
  rw [bind_of_ok _ (written _)]
  rfl

theorem openArchive_preserves (kind : InputKind) (path : Path) :
    Preserves invariant (openArchive kind path : Action σ Archive) := by
  have bytes : Preserves invariant (readBytes path : Action σ Bytes) := by
    refine (Preserves.ask _ _).bind fun node => ?_
    cases node with
    | file data => exact .pure _
    | directory entries => exact .throw _
  refine bytes.bind fun content => ?_
  cases Archive.read? content with
  | none => exact .throw _
  | some archive => exact .pure archive

theorem listClasses_preserves (jar : Path) :
    Preserves invariant (listClasses jar : Action σ (List Text)) := by
  refine (openArchive_preserves .jar jar).bind fun archive => ?_
  cases archive.classNames with
  | ok names => exact .pure names
  | error fault => exact .throw _

theorem final_listClasses (jar : Path) (state : RunState σ) :
    (listClasses jar).final state = state := by
  have preserves : Preserves (fun after => after = state) (listClasses jar) :=
    listClasses_preserves jar
  exact preserves rfl

theorem extractInnerJar_preserves {aar destination : Path}
    (writes : ∀ state content, invariant state →
      invariant { state with
        files := (state.files.write (Path.join destination innerJarName) content).2 }) :
    Preserves invariant (extractInnerJar aar destination : Action σ Text) := by
  refine (openArchive_preserves .aar aar).bind fun archive => ?_
  cases archive.find? innerJarName with
  | none => exact .throw _
  | some member =>
      dsimp only
      cases member.access with
      | error fault => exact .throw _
      | ok stored =>
          dsimp only
          refine (Preserves.writeFile fun state => writes state _).bind fun _ => ?_
          split_ifs
          · exact .pure _
          · exact .throw _

theorem extractInnerJar_leaves (aar : Path) {scratch : Path} {bare : FileSystem}
    {state : RunState σ} (beside : Beside scratch state.files bare) :
    let after := (extractInnerJar aar scratch).final state
    Beside scratch after.files bare ∧ after.report = state.report ∧
      after.disassembler = state.disassembler := by
  have preserves : Preserves
      (fun after : RunState σ => Beside scratch after.files bare ∧ after.report = state.report ∧
        after.disassembler = state.disassembler)
      (extractInnerJar aar scratch) :=
    extractInnerJar_preserves fun _ content ⟨beside, rest⟩ =>
      ⟨beside.write_inside isName_innerJarName content, rest⟩
  exact preserves ⟨beside, rfl, rfl⟩

theorem openArchive_agree (kind : InputKind) (path : Path) :
    Parallel (Agree own) Eq (openArchive kind path) (openArchive kind path) := by
  have bytes : Parallel (Agree own) Eq (readBytes path) (readBytes path) := by
    refine Parallel.bind (Parallel.ask rfl fun _ _ agree => congrArg (·.node path) agree.files)
      fun node => ?_
    cases node with
    | file data => exact .pure _
    | directory entries => exact .throw rfl
  refine bytes.bind fun content => ?_
  cases Archive.read? content with
  | none => exact .throw rfl
  | some archive => exact .pure archive

theorem listClasses_agree (jar : Path) :
    Parallel (Agree own) Eq (listClasses jar) (listClasses jar) := by
  refine (openArchive_agree .jar jar).bind fun archive => ?_
  cases archive.classNames with
  | ok names => exact .pure names
  | error fault => exact .throw rfl

theorem extractInnerJar_agree (aar destination : Path) :
    Parallel (Agree own) Eq (extractInnerJar aar destination)
      (extractInnerJar aar destination) := by
  refine (openArchive_agree .aar aar).bind fun archive => ?_
  cases archive.find? innerJarName with
  | none => exact .throw rfl
  | some member =>
      dsimp only
      cases member.access with
      | error fault => exact .throw rfl
      | ok stored =>
          dsimp only
          refine (writeFile_agree _ _ _).bind fun _ => ?_
          split_ifs
          · exact .pure _
          · exact .throw rfl

theorem withJar_agree {kind : InputKind} {source scratch : Path} {action : Path → Action σ α}
    {action' : Path → Action τ α}
    (parallel : ∀ jar, Parallel (Agree own) Eq (action jar) (action' jar)) :
    Parallel (Agree own) Eq (withJar kind source scratch action)
      (withJar kind source scratch action') := by
  cases kind with
  | jar => exact parallel source
  | aar =>
      refine withScratch_agree ((extractInnerJar_agree source scratch).bind fun jar => ?_)
      exact (note_agree _).bind fun _ => parallel jar

end Library

end ApiSurface
