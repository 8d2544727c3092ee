import ApiSurface.Proofs.Snapshot.Grouping
import ApiSurface.Proofs.Text.Utf8
import Mathlib.Data.Finset.Card
import Mathlib.Data.List.Sort

/-! Grouping entries is a stable sort by package, in the order of the bytes of the packages. -/

namespace ApiSurface

section

variable {α κ : Type} {list other : List α} {key : α → κ}

/-- A rearrangement that keeps the chosen elements in order has the same chosen elements. -/
theorem filter_eq_of_perm {chosen : α → Bool} (rearranged : other.Perm list)
    (kept : (list.filter chosen).Sublist other) : other.filter chosen = list.filter chosen := by
  have inside : (list.filter chosen).Sublist (other.filter chosen) := by
    simpa using kept.filter chosen
  exact (inside.eq_of_length (rearranged.filter chosen).length_eq.symm).symm

theorem least_of_sorted [PartialOrder κ] {first element : α} {rest : List α}
    (sorted : (first :: rest).Pairwise fun left right => key left ≤ key right)
    (member : element ∈ first :: rest) : key first ≤ key element := by
  rcases List.mem_cons.mp member with rfl | later
  · exact le_refl _
  · exact List.rel_of_pairwise_cons sorted later

variable [DecidableEq κ]

theorem mem_iff_of_filters
    (same : ∀ value, list.filter (key · = value) = other.filter (key · = value)) (element : α) :
    element ∈ list ↔ element ∈ other := by
  have chosen : element ∈ list.filter (key · = key element) ↔
      element ∈ other.filter (key · = key element) := by rw [same]
  simpa using chosen

/-- Lists sorted by a key are equal if they have the same elements of each key in the same order. -/
theorem eq_of_sorted_by_key [PartialOrder κ]
    (sorted : list.Pairwise fun left right => key left ≤ key right)
    (sorted' : other.Pairwise fun left right => key left ≤ key right)
    (same : ∀ value, list.filter (key · = value) = other.filter (key · = value)) :
    list = other := by
  have mem_iff := mem_iff_of_filters same
  induction list generalizing other with
  | nil => exact (List.eq_nil_iff_forall_not_mem.mpr fun element => by simp [← mem_iff]).symm
  | cons first rest induction =>
      cases other with
      | nil => exact absurd ((mem_iff first).mp List.mem_cons_self) List.not_mem_nil
      | cons first' rest' =>
          have level : key first' = key first :=
            le_antisymm (least_of_sorted sorted' ((mem_iff first).mp List.mem_cons_self))
              (least_of_sorted sorted ((mem_iff first').mpr List.mem_cons_self))
          -- The two are the first elements of one key, so they are the same.
          have heads := same (key first)
          rw [List.filter_cons_of_pos (by simp), List.filter_cons_of_pos (by simp [level])] at heads
          obtain ⟨rfl, -⟩ := List.cons.inj heads
          have others (value : κ) :
              rest.filter (key · = value) = rest'.filter (key · = value) := by
            have whole := same value
            rw [List.filter_cons, List.filter_cons] at whole
            split_ifs at whole
            · exact (List.cons.inj whole).2
            · exact whole
          have tails : rest = rest' :=
            induction sorted.tail sorted'.tail others (mem_iff_of_filters others)
          rw [tails]

end

namespace PackageMap

open Utf8 (encode)

variable {entries : List Entry}

theorem filter_entries (entries : List Entry) (package : Text) :
    (ofEntries entries).entries.filter (·.package = package) =
      entries.filter (·.package = package) := by
  refine filter_eq_of_perm (entries_ofEntries_perm entries) ?_
  by_cases absent : entries.filter (·.package = package) = []
  · rw [absent]
    exact List.nil_sublist _
  · have grouped := ((groups_ofEntries entries).mem_iff package _).mpr ⟨rfl, absent⟩
    exact List.sublist_flatten_of_mem (List.mem_map_of_mem grouped)

theorem sorted_entries (entries : List Entry) :
    (ofEntries entries).entries.Pairwise fun left right => left.package ≤ right.package := by
  have grouped := groups_ofEntries entries
  refine List.pairwise_flatMap.mpr ⟨fun group member => ?_, ?_⟩
  · refine List.pairwise_of_forall_mem_list fun left here right there => ?_
    rw [((mem_group_iff member).mp here).2, ((mem_group_iff member).mp there).2]
  · refine grouped.ascends.imp_of_mem fun {group later} member member' less => ?_
    intro left here right there
    rw [((mem_group_iff member).mp here).2, ((mem_group_iff member').mp there).2]
    exact le_of_lt less

/-- Entries in the order of the bytes of their packages. -/
def isInOrder (left right : Entry) : Bool :=
  decide (encode left.package ≤ encode right.package)

theorem isInOrder_iff {left right : Entry} :
    isInOrder left right = true ↔ left.package ≤ right.package := by
  rw [isInOrder, decide_eq_true_iff, ← List.not_lt, Utf8.encode_lt_encode_iff, not_lt]

theorem isInOrder_trans (left middle right : Entry) (first : isInOrder left middle = true)
    (second : isInOrder middle right = true) : isInOrder left right = true :=
  isInOrder_iff.mpr ((isInOrder_iff.mp first).trans (isInOrder_iff.mp second))

theorem isInOrder_total (left right : Entry) :
    (isInOrder left right || isInOrder right left) = true := by
  rw [Bool.or_eq_true_iff, isInOrder_iff, isInOrder_iff]
  exact le_total _ _

theorem entries_eq_mergeSort (entries : List Entry) :
    (ofEntries entries).entries = entries.mergeSort isInOrder := by
  refine eq_of_sorted_by_key (sorted_entries entries) ?_ fun package => ?_
  · exact (List.pairwise_mergeSort isInOrder_trans isInOrder_total entries).imp isInOrder_iff.mp
  · rw [filter_entries]
    refine (filter_eq_of_perm (List.mergeSort_perm entries isInOrder) ?_).symm
    refine List.sublist_mergeSort isInOrder_trans isInOrder_total ?_ List.filter_sublist
    refine List.pairwise_of_forall_mem_list fun left here right there => ?_
    rw [isInOrder_iff, of_decide_eq_true (List.mem_filter.mp here).2,
      of_decide_eq_true (List.mem_filter.mp there).2]

theorem packageCount_ofEntries (entries : List Entry) :
    (ofEntries entries).packageCount = (entries.map Entry.package).toFinset.card := by
  have grouped := groups_ofEntries entries
  have distinct : ((ofEntries entries).packages.map Prod.fst).Nodup :=
    (List.pairwise_map.mpr grouped.ascends).imp ne_of_lt
  have same : ((ofEntries entries).packages.map Prod.fst).toFinset =
      (entries.map Entry.package).toFinset := by
    ext package
    simp only [List.mem_toFinset, List.mem_map]
    constructor
    · rintro ⟨group, member, rfl⟩
      obtain ⟨entry, inside⟩ := inhabited_group member
      exact ⟨entry, (mem_group_iff member).mp inside⟩
    · rintro ⟨entry, member, rfl⟩
      obtain ⟨group, found, named, -⟩ := exists_group member
      exact ⟨group, found, named⟩
  rw [← same, List.toFinset_card_of_nodup distinct, List.length_map, packageCount]

theorem isEmpty_ofEntries_iff : (ofEntries entries).isEmpty = true ↔ entries = [] := by
  rw [isEmpty, List.isEmpty_iff]
  constructor
  · intro none
    have rearranged := entries_ofEntries_perm entries
    rw [PackageMap.entries, none] at rearranged
    exact rearranged.nil_eq.symm
  · rintro rfl
    rfl

theorem ofEntries_eq_iff {other : List Entry} :
    ofEntries other = ofEntries entries ↔
      ∀ package, other.filter (·.package = package) = entries.filter (·.package = package) := by
  constructor
  · intro same package
    rw [← filter_entries other, same, filter_entries]
  · intro same
    have grouped := groups_ofEntries entries
    have grouped' := groups_ofEntries other
    have packages : (ofEntries other).packages = (ofEntries entries).packages := by
      refine grouped'.ascends.eq_of_mem_iff grouped.ascends fun (package, group) => ?_
      rw [grouped'.mem_iff, grouped.mem_iff, same]
    exact congrArg PackageMap.mk packages

/-- Grouping entries sorts them stably by package, and only the order of the entries of one package
tells in what comes out. -/
theorem ofEntries_sorts_stably (entries : List Entry) :
    (ofEntries entries).packages.Pairwise
        (fun group later => encode group.1 < encode later.1) ∧
      (∀ package group, (package, group) ∈ (ofEntries entries).packages ↔
        group = entries.filter (·.package = package) ∧ group ≠ []) ∧
      (ofEntries entries).entries = entries.mergeSort isInOrder ∧
      (ofEntries entries).packageCount = (entries.map Entry.package).toFinset.card ∧
      (ofEntries entries).entryCount = entries.length ∧
      ((ofEntries entries).isEmpty = true ↔ entries = []) ∧
      ∀ other, ofEntries other = ofEntries entries ↔
        ∀ package, other.filter (·.package = package) = entries.filter (·.package = package) := by
  have grouped := groups_ofEntries entries
  refine ⟨?_, grouped.mem_iff, entries_eq_mergeSort entries, packageCount_ofEntries entries,
    (entries_ofEntries_perm entries).length_eq, isEmpty_ofEntries_iff, fun _ => ofEntries_eq_iff⟩
  exact grouped.ascends.imp Utf8.encode_lt_encode_iff.mpr

end PackageMap

end ApiSurface
