import ApiSurface.Proofs.Files.Operation
import Mathlib.Order.Defs.Unbundled

/-! Where operations may change anything at all.  Unlike an overlay this does not say what was
written, and it covers both trees at once. -/

namespace ApiSurface

/-- How what stands at one location may change: a directory appears where nothing stood, if there
is room for one, and a file is stored where no directory stands, if one may be written. -/
inductive Node.Change (written room : Prop) : Option Node.Kind → Option Node.Kind → Prop where
  | kept (kind : Option Node.Kind) : Change written room kind kind
  | created (roomy : room) : Change written room none (some .directory)
  | stored {kind : Option Node.Kind} (permitted : written) (vacant : kind ≠ some .directory)
      (data : RegularFile) : Change written room kind (some (.file data))

theorem Node.Change.trans {written room : Prop} {first second third : Option Node.Kind}
    (earlier : Change written room first second) (later : Change written room second third) :
    Change written room first third := by
  cases later with
  | kept => exact earlier
  | created roomy =>
      cases earlier with
      | kept => exact .created roomy
  | stored permitted vacant data =>
      cases earlier with
      | kept => exact .stored permitted vacant data
      | created roomy => exact absurd rfl vacant
      | stored _ free _ => exact .stored permitted free data

namespace FileSystem

def Alters (written room : Bool → Location → Prop) (before after : FileSystem) : Prop :=
  ∀ side location, Node.Change (written side location) (room side location)
    (before.kind? side location) (after.kind? side location)

variable {written room : Bool → Location → Prop} {before after : FileSystem} {side : Bool}
  {location : Location}

instance : Std.Refl (Alters written room) :=
  ⟨fun _ _ _ => .kept _⟩

instance : IsTrans FileSystem (Alters written room) :=
  ⟨fun _ _ _ first second side location => (first side location).trans (second side location)⟩

theorem Overlay.alters {absolute : Bool} {roomy : Location → Prop}
    {content : Location → Option Bytes} (overlay : Overlay absolute roomy content before after)
    (writes : ∀ location, content location ≠ none → written absolute location)
    (creates : ∀ location, roomy location → room absolute location) :
    Alters written room before after := by
  intro side location
  by_cases same : side = absolute
  · subst same
    cases covered : content location with
    | some bytes =>
        obtain ⟨executable, stands⟩ := overlay.written covered
        have vacant : before.kind? side location ≠ some .directory := by
          intro directory
          simp [overlay.spared directory] at stands
        rw [stands]
        exact .stored (writes location (by simp [covered])) vacant _
    | none =>
        rcases overlay.kept covered with kept | ⟨here, vacant, stands⟩
        · rw [kept]
          exact .kept _
        · rw [vacant, stands]
          exact .created (creates location here)
  · obtain rfl : side = !absolute := Bool.eq_not.mpr same
    rw [overlay.apart]
    exact .kept _

theorem Alters.file_iff (alters : Alters written room before after)
    (spared : ¬ written side location) (data : RegularFile) :
    after.kind? side location = some (.file data) ↔
      before.kind? side location = some (.file data) := by
  have change := alters side location
  generalize before.kind? side location = first at change ⊢
  generalize after.kind? side location = second at change ⊢
  cases change with
  | kept => rfl
  | created => simp
  | stored permitted => exact absurd permitted spared

theorem Alters.directory (alters : Alters written room before after)
    (stands : before.kind? side location = some .directory) :
    after.kind? side location = some .directory := by
  have change := alters side location
  rw [stands] at change
  generalize after.kind? side location = second at change ⊢
  cases change with
  | kept => rfl
  | stored _ vacant _ => exact absurd rfl vacant

theorem Alters.ne_none (alters : Alters written room before after)
    (stands : before.kind? side location ≠ none) : after.kind? side location ≠ none := by
  have change := alters side location
  generalize before.kind? side location = first at change stands
  generalize after.kind? side location = second at change ⊢
  cases change with
  | kept => exact stands
  | created => simp
  | stored => simp

theorem Alters.of_directory (alters : Alters written room before after)
    (stands : after.kind? side location = some .directory) :
    before.kind? side location = some .directory ∨
      before.kind? side location = none ∧ room side location := by
  have change := alters side location
  rw [stands] at change
  generalize before.kind? side location = first at change ⊢
  cases change with
  | kept => exact .inl rfl
  | created roomy => exact .inr ⟨rfl, roomy⟩

/-- A file that can be read can be read later, and holds the same. -/
def KeepsFiles (before after : FileSystem) : Prop :=
  ∀ {path data}, before.file path = .ok data → after.file path = .ok data

theorem keepsFiles_of_created (files : FileSystem) (path : Path) :
    KeepsFiles files (files.createDirectories path).2 := by
  have overlay := createDirectories_overlay files path
  have alters : Alters (fun _ _ => False) (fun _ _ => True) files
      (files.createDirectories path).2 := overlay.alters (by simp) (by simp)
  intro other data held
  obtain ⟨location, located, stands, bare⟩ := file_eq_ok_iff.mp held
  exact file_eq_ok_iff.mpr
    ⟨location, overlay.locate located, (alters.file_iff id data).mpr stands, bare⟩

end FileSystem

end ApiSurface
