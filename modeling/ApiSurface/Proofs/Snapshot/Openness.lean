import ApiSurface.Proofs.Snapshot.Grouping
import ApiSurface.Proofs.Snapshot.Layout

/-! What has to be so before the directory of a package can be created and its files written or
read. -/

namespace ApiSurface

namespace Snapshot

open ApiSurface.Path FileSystem PackageMap

variable {root : Path} {package : Text} {entry : Entry} {entries : List Entry}
  {start files : FileSystem} {content : Location → Option Bytes}

structure IsRoot (root : Path) : Prop where
  filled : root ≠ []
  straight : root.IsStraight

structure IsGroup (package : Text) (entries : List Entry) : Prop where
  clean : Text.IsClean package
  plain : ∀ entry ∈ entries, entry.IsPlain
  together : ∀ entry ∈ entries, entry.package = package

theorem isGroup_of_mem (plain : ∀ entry ∈ entries, entry.IsPlain)
    {group : Text × List Entry} (member : group ∈ (ofEntries entries).packages) :
    IsGroup group.1 group.2 := by
  obtain ⟨first, inside⟩ := inhabited_group member
  obtain ⟨listed, same⟩ := (mem_group_iff member).mp inside
  exact {
    clean := same ▸ (plain first listed).package
    plain := fun entry inside => plain entry ((mem_group_iff member).mp inside).1
    together := fun entry inside => ((mem_group_iff member).mp inside).2 }

/-- A name in the directory of a package stands for a file exactly if the file is there. -/
theorem file_join_package_iff {name : Text} {data : RegularFile} (isRoot : IsRoot root)
    (clean : Text.IsClean package) (isName : IsName name) :
    files.file (join (packageDirectory root package) name) = .ok data ↔
      files.Admits (join (packageDirectory root package) name) ∧
        files.kind? root.isAbsolute (names root ++ segments package ++ [name]) =
          some (.file data) := by
  rw [file_join_straight_iff (packageDirectory_ne_nil isRoot.filled clean)
    (isStraight_packageDirectory isRoot.straight clean) isName,
    isAbsolute_packageDirectory root clean, ← names_packageDirectory root clean]

theorem file_destination_iff {data : RegularFile} (isRoot : IsRoot root)
    (plain : entry.IsPlain) :
    files.file (destination root entry) = .ok data ↔
      files.Admits (destination root entry) ∧
        files.kind? root.isAbsolute (target root entry) = some (.file data) :=
  file_join_package_iff isRoot plain.package plain.fileName

/-- There is room for the sources of all entries. -/
def HasRoomFor (files : FileSystem) (root : Path) (entries : List Entry) : Prop :=
  ∀ entry ∈ entries, files.HasRoom root.isAbsolute (target root entry) (Utf8.encode entry.source)

instance (files : FileSystem) (root : Path) (entries : List Entry) :
    Decidable (HasRoomFor files root entries) :=
  inferInstanceAs (Decidable (∀ entry ∈ entries, _))

theorem hasRoomFor_iff {absolute : Bool} {room : Location → Prop}
    (overlay : Overlay absolute room content start files) :
    HasRoomFor files root entries ↔ HasRoomFor start root entries := by
  simp only [HasRoomFor, overlay.hasRoom_iff]

theorem hasRoomFor_packages_iff :
    (∀ group ∈ (ofEntries entries).packages, HasRoomFor files root group.2) ↔
      HasRoomFor files root entries := by
  simp only [HasRoomFor, ← List.forall_mem_flatMap, ← PackageMap.entries.eq_1]
  exact forall_congr' fun entry => imp_congr_left (entries_ofEntries_perm entries).mem_iff

/-- Nothing is new but content and directories of packages. -/
abbrev Built (root : Path) (content : Location → Option Bytes) (start files : FileSystem) :
    Prop :=
  Overlay root.isAbsolute (Ground root) content start files

abbrev Grown (root : Path) (start files : FileSystem) : Prop :=
  Built root (fun _ => none) start files

/-- The directory of a package is there. -/
structure IsHome (files : FileSystem) (root : Path) (package : Text) : Prop where
  located : files.locate (packageDirectory root package) =
    .ok (names (packageDirectory root package))
  stands : files.kind? root.isAbsolute (names (packageDirectory root package)) =
    some .directory

theorem IsHome.built (isHome : IsHome start root package)
    (built : Built root content start files) : IsHome files root package where
  located := built.locate isHome.located
  stands := built.spared isHome.stands

theorem IsHome.root_stands (isHome : IsHome files root package) (clean : Text.IsClean package) :
    files.kind? root.isAbsolute (names root) = some .directory := by
  have stands := isHome.stands
  rw [names_packageDirectory root clean] at stands
  by_cases bare : segments package = []
  · rwa [bare, List.append_nil] at stands
  · exact kind?_above (List.prefix_append _ _) (by simpa using bare) (by simp [stands])

theorem built_of_created (isRoot : IsRoot root) (clean : Text.IsClean package)
    (created : start.createDirectories (packageDirectory root package) = (.ok (), files)) :
    Grown root start files ∧ IsHome files root package := by
  have top := isAbsolute_packageDirectory root clean
  have straight := isStraight_packageDirectory isRoot.straight clean
  have filled := packageDirectory_ne_nil isRoot.filled clean
  have overlay := createDirectories_overlay start (packageDirectory root package)
  obtain ⟨located, directories⟩ := createDirectories_inversion filled created
  rw [created, top] at overlay
  rw [top] at directories
  have here := reach_mem_trail [] (steps (packageDirectory root package))
  rw [reach_steps straight] at located here
  exact ⟨overlay.mono fun _ => ground_of_trail isRoot.straight clean,
    located, directories _ here⟩

/-- Nothing stands in the way of a package: no file where directories should be, no directory
where files should be, no name too long. -/
structure IsClear (files : FileSystem) (root : Path) (package : Text) (entries : List Entry) :
    Prop where
  admitted : files.Admits (packageDirectory root package)
  clear : ∀ location ∈ trail [] (steps (packageDirectory root package)), ∀ data,
    files.kind? root.isAbsolute location ≠ some (.file data)
  fits : ∀ entry ∈ entries, files.Admits (destination root entry)
  free : ∀ entry ∈ entries, files.kind? root.isAbsolute (target root entry) ≠ some .directory

/-- A directory whose path ends in a step that stays cannot be created and must be there. -/
structure IsOpen (files : FileSystem) (root : Path) (package : Text) (entries : List Entry) :
    Prop extends IsClear files root package entries where
  ending : (steps (packageDirectory root package)).getLast? ≠ some .stay ∨
    files.kind? root.isAbsolute (names (packageDirectory root package)) = some .directory

theorem IsHome.isOpen (isHome : IsHome files root package) (isRoot : IsRoot root)
    (clean : Text.IsClean package)
    (fits : ∀ entry ∈ entries, files.Admits (destination root entry))
    (free : ∀ entry ∈ entries,
      files.kind? root.isAbsolute (target root entry) ≠ some .directory) :
    IsOpen files root package entries where
  admitted := (locate_eq_ok_iff.mp isHome.located).2.2.1
  clear := by
    intro location member data held
    have above := trail_steps (isStraight_packageDirectory isRoot.straight clean) member
    by_cases same : location = names (packageDirectory root package)
    · rw [same, isHome.stands] at held
      cases held
    · rw [kind?_above above same (by simp [isHome.stands])] at held
      cases held
  fits
  free
  ending := .inr isHome.stands

theorem IsClear.built (isClear : IsClear start root package entries) (isRoot : IsRoot root)
    (group : IsGroup package entries) (built : Built root content start files)
    (aside : ∀ location, Ground root location → content location = none) :
    IsClear files root package entries where
  admitted := built.admits_iff.mpr isClear.admitted
  clear := by
    intro location member data stands
    have untouched := aside location (ground_of_trail isRoot.straight group.clean member)
    exact isClear.clear location member data (built.file_inversion untouched stands)
  fits := fun entry member => built.admits_iff.mpr (isClear.fits entry member)
  free := by
    intro entry member stands
    cases covered : content (target root entry) with
    | some bytes =>
        obtain ⟨executable, written⟩ := built.written covered
        simp [written] at stands
    | none =>
        rcases built.kept covered with same | ⟨ground, -⟩
        · exact isClear.free entry member (same ▸ stands)
        · exact not_ground_target (group.plain entry member) ground

theorem IsOpen.built (isOpen : IsOpen start root package entries) (isRoot : IsRoot root)
    (group : IsGroup package entries) (built : Built root content start files)
    (aside : ∀ location, Ground root location → content location = none) :
    IsOpen files root package entries where
  toIsClear := isOpen.toIsClear.built isRoot group built aside
  ending := isOpen.ending.imp_right built.spared

theorem IsOpen.creates (isOpen : IsOpen start root package entries) (isRoot : IsRoot root)
    (clean : Text.IsClean package) :
    ∃ files, start.createDirectories (packageDirectory root package) = (.ok (), files) := by
  have top := isAbsolute_packageDirectory root clean
  rcases isOpen.ending with moving | stands
  · exact createDirectories_succeeds isOpen.admitted (top ▸ isOpen.clear) moving
  · have straight := isStraight_packageDirectory isRoot.straight clean
    have located := locate_of_directory (packageDirectory_ne_nil isRoot.filled clean) straight
      isOpen.admitted (top.symm ▸ stands)
    exact ⟨start, createDirectories_settled located (top.symm ▸ stands)⟩

end Snapshot

end ApiSurface
