import ApiSurface.Proofs.Snapshot.Alteration
import ApiSurface.Proofs.Snapshot.Progress

/-! The tree that generating a snapshot leaves, told location by location. -/

namespace ApiSurface

namespace FileSystem

open ApiSurface.Path

variable {before after : FileSystem} {absolute : Bool} {room : Location → Prop}

/-- No file becomes executable, and none ceases to be. -/
def KeepsExecutables (before after : FileSystem) : Prop :=
  ∀ side location,
    keepsExecutable (after.kind? side location) = keepsExecutable (before.kind? side location)

instance : Std.Refl KeepsExecutables :=
  ⟨fun _ _ _ => rfl⟩

instance : IsTrans FileSystem KeepsExecutables :=
  ⟨fun _ _ _ first second side location => (second side location).trans (first side location)⟩

theorem Overlay.keepsExecutables (overlay : Overlay absolute room (fun _ => none) before after) :
    KeepsExecutables before after := by
  intro side location
  by_cases same : side = absolute
  · subst same
    rcases @overlay.kept location rfl with kept | ⟨-, vacant, stands⟩
    · rw [kept]
    · rw [vacant, stands]
      rfl
  · obtain rfl : side = !absolute := Bool.eq_not.mpr same
    rw [overlay.apart]

theorem keepsExecutables_of_write (files : FileSystem) (path : Path) (content : Bytes) :
    KeepsExecutables files (files.write path content).2 := by
  cases located : files.locate path with
  | error fault =>
      rw [write, located]
      exact Std.Refl.refl files
  | ok location =>
      rw [write_eq content located]
      split
      · exact Std.Refl.refl files
      · next vacant =>
        by_cases ending : path.demandsDirectory = true
        · rw [if_pos ending]
          exact Std.Refl.refl files
        · rw [if_neg ending]
          obtain ⟨parent, name, rfl, above⟩ := parent_of_locate located vacant
          intro side place
          rw [kind?_place above vacant (by simp)]
          split_ifs with here
          · rw [here.1, here.2]
            rfl
          · rfl

end FileSystem

namespace Snapshot

open ApiSurface.Path FileSystem PackageMap ApiSurface.Action

variable {σ : Type} {state after : RunState σ} {root : Path} {groups : List (Text × List Entry)}
  {found : List Mismatch}

theorem reconcileAll_generate_keepsExecutables (root : Path)
    (groups : List (Text × List Entry)) :
    Leaves KeepsExecutables
      (reconcileAll (.generate root) groups : Action σ (List Mismatch)) := by
  apply reconcileAll_leaves
  intro group _
  have created (directory : Path) :
      Leaves KeepsExecutables (createDirectories directory : Action σ Unit) :=
    Leaves.createDirectories fun files =>
      (createDirectories_overlay files directory).keepsExecutables
  have wrote (directory : Path) (entry : Entry) :
      Leaves KeepsExecutables (generateEntry directory entry : Action σ Unit) :=
    Leaves.writeFile fun files => keepsExecutables_of_write files _ _
  have generated : Leaves KeepsExecutables
      (generatePackage (packageDirectory root group.1) group.2 : Action σ Unit) :=
    (created _).bind fun _ => (Leaves.forM fun entry _ => wrote _ entry).bind fun _ =>
      Leaves.note _
  exact generated.bind fun _ => .pure []

/-- What stands where, once the packages are generated. -/
structure Lays (root : Path) (groups : List (Text × List Entry)) (before after : FileSystem) :
    Prop where
  apart : ∀ location,
    after.kind? (!root.isAbsolute) location = before.kind? (!root.isAbsolute) location
  stored : ∀ {location bytes}, written root (groups.flatMap Prod.snd) location = some bytes →
    after.kind? root.isAbsolute location =
      some (.file ⟨bytes, keepsExecutable (before.kind? root.isAbsolute location)⟩)
  directory : ∀ {location}, (∃ group ∈ groups,
      location <+: names (packageDirectory root group.1)) →
    after.kind? root.isAbsolute location = some .directory
  kept : ∀ {location}, written root (groups.flatMap Prod.snd) location = none →
    (¬ ∃ group ∈ groups, location <+: names (packageDirectory root group.1)) →
    after.kind? root.isAbsolute location = before.kind? root.isAbsolute location

theorem reconcileAll_generate_lays (isRoot : IsRoot root)
    (grouped : ∀ group ∈ groups, IsGroup group.1 group.2) (proper : state.files.IsProper)
    (ran : reconcileAll (.generate root) groups state = .ok found after) :
    Lays root groups state.files after.files := by
  obtain ⟨-, generates⟩ := reconcileAll_generate_inversion isRoot grouped proper ran
  have advances : Advances root
      (fun location => ∃ group ∈ groups, location <+: names (packageDirectory root group.1))
      (groups.flatMap Prod.snd)
      (reconcileAll (.generate root) groups : Action σ (List Mismatch)) :=
    reconcileAll_generate_advances isRoot.straight grouped
      fun group member _ above => ⟨group, member, above⟩
  have progress := advances state
  rw [ran] at progress
  have keeps := reconcileAll_generate_keepsExecutables root groups state
  rw [final_of_ok ran] at keeps
  refine ⟨progress.overlay.apart, ?_, ?_, ?_⟩
  · intro location bytes covered
    obtain ⟨executable, stands⟩ := progress.overlay.written covered
    have flag := keeps root.isAbsolute location
    rw [stands] at flag
    rw [stands, ← flag]
    rfl
  · intro location ⟨group, member, above⟩
    have stands := (generates.homes group member).stands
    by_cases same : location = names (packageDirectory root group.1)
    · rw [same, stands]
    · exact kind?_above above same (by simp [stands])
  · intro location uncovered outside
    rcases progress.overlay.kept uncovered with same | ⟨inside, -⟩
    · exact same
    · exact absurd inside outside

/-- The tree depends only on what is written where, and on the directories of the packages. -/
theorem Lays.unique {groups' : List (Text × List Entry)} {before after after' : FileSystem}
    (lays : Lays root groups before after) (lays' : Lays root groups' before after')
    (sameFiles : written root (groups'.flatMap Prod.snd) =
      written root (groups.flatMap Prod.snd))
    (sameNames : groups'.map Prod.fst = groups.map Prod.fst) (side : Bool)
    (location : Location) : after'.kind? side location = after.kind? side location := by
  have sameRoom : (∃ group ∈ groups', location <+: names (packageDirectory root group.1)) ↔
      ∃ group ∈ groups, location <+: names (packageDirectory root group.1) := by
    have among (groups : List (Text × List Entry)) :
        (∃ group ∈ groups, location <+: names (packageDirectory root group.1)) ↔
          ∃ package ∈ groups.map Prod.fst, location <+: names (packageDirectory root package) := by
      simp
    rw [among, among, sameNames]
  by_cases same : side = root.isAbsolute
  · subst same
    by_cases inside : ∃ group ∈ groups, location <+: names (packageDirectory root group.1)
    · rw [lays.directory inside, lays'.directory (sameRoom.mpr inside)]
    · cases covered : written root (groups.flatMap Prod.snd) location with
      | some bytes => rw [lays.stored covered, lays'.stored (by rw [sameFiles, covered])]
      | none =>
          rw [lays.kept covered inside,
            lays'.kept (by rw [sameFiles, covered]) (mt sameRoom.mp inside)]
  · obtain rfl : side = !root.isAbsolute := Bool.eq_not.mpr same
    rw [lays.apart, lays'.apart]

end Snapshot

end ApiSurface
