import ApiSurface.Snapshot.PackageMap
import Mathlib.Data.Char
import Mathlib.Data.List.Induction
import Mathlib.Data.List.Lex
import Mathlib.Tactic.Common

/-! Grouping entries by package: the packages ascend, and each has its entries in the order in
which they came. -/

namespace ApiSurface

namespace PackageMap

variable {entry : Entry} {groups : List (Text × List Entry)} {package : Text}
  {entries : List Entry}

abbrev Ascends (groups : List (Text × List Entry)) : Prop :=
  groups.Pairwise fun left right => left.1 < right.1

theorem package_of_mem_insertInto (member : (package, entries) ∈ insertInto entry groups) :
    package = entry.package ∨ ∃ old, (package, old) ∈ groups := by
  induction groups with
  | nil =>
      obtain ⟨rfl, -⟩ : package = entry.package ∧ entries = [entry] := by
        simpa [insertInto] using member
      exact .inl rfl
  | cons group rest induction =>
      obtain ⟨first, held⟩ := group
      rw [insertInto] at member
      split_ifs at member with here before
      · rcases List.mem_cons.mp member with same | member
        · cases same
          exact .inl here.symm
        · exact .inr ⟨entries, .tail _ member⟩
      · rcases List.mem_cons.mp member with same | member
        · cases same
          exact .inl rfl
        · exact .inr ⟨entries, member⟩
      · rcases List.mem_cons.mp member with same | member
        · cases same
          exact .inr ⟨entries, List.mem_cons_self⟩
        · exact (induction member).imp_right fun ⟨old, found⟩ => ⟨old, .tail _ found⟩

theorem ascends_insertInto (ascends : Ascends groups) :
    Ascends (insertInto entry groups) := by
  induction groups with
  | nil => exact List.pairwise_singleton _ _
  | cons group rest induction =>
      obtain ⟨first, held⟩ := group
      obtain ⟨least, later⟩ := List.pairwise_cons.mp ascends
      rw [insertInto]
      split_ifs with here before
      · exact List.pairwise_cons.mpr ⟨least, later⟩
      · refine List.pairwise_cons.mpr ⟨?_, ascends⟩
        intro other member
        rcases List.mem_cons.mp member with rfl | member
        · exact before
        · exact lt_trans before (least other member)
      · refine List.pairwise_cons.mpr ⟨?_, induction later⟩
        intro other member
        rcases package_of_mem_insertInto member with same | ⟨old, found⟩
        · exact same ▸ lt_of_le_of_ne (not_lt.mp before) (Ne.symm here)
        · exact least (other.1, old) found

theorem mem_insertInto_of_ne (distinct : package ≠ entry.package) :
    (package, entries) ∈ insertInto entry groups ↔ (package, entries) ∈ groups := by
  induction groups with
  | nil => simp [insertInto, distinct]
  | cons group rest induction =>
      obtain ⟨first, held⟩ := group
      rw [insertInto]
      split_ifs with here before
      · simp [← here, distinct]
      · simp [distinct]
      · rw [List.mem_cons, List.mem_cons, induction]

theorem mem_insertInto_self (ascends : Ascends groups) :
    (entry.package, entries) ∈ insertInto entry groups ↔
      (∃ old, (entry.package, old) ∈ groups ∧ entries = old ++ [entry]) ∨
        (∀ old, (entry.package, old) ∉ groups) ∧ entries = [entry] := by
  induction groups with
  | nil => simp [insertInto]
  | cons group rest induction =>
      obtain ⟨first, held⟩ := group
      obtain ⟨least, later⟩ := List.pairwise_cons.mp ascends
      rw [insertInto]
      split_ifs with here before
      · have alone (old : List Entry) : (entry.package, old) ∉ rest :=
          fun member => lt_irrefl first (here ▸ least _ member)
        simp [here ▸ alone, here]
      · have absent (old : List Entry) : (entry.package, old) ∉ (first, held) :: rest := by
          rintro (_ | ⟨_, member⟩)
          · exact lt_irrefl _ before
          · exact lt_asymm before (least _ member)
        rw [List.mem_cons]
        simp [absent]
      · simp [here, induction later]

structure Groups (seen : List Entry) (groups : List (Text × List Entry)) : Prop where
  ascends : Ascends groups
  mem_iff : ∀ package entries, (package, entries) ∈ groups ↔
    entries = seen.filter (·.package = package) ∧ entries ≠ []

theorem Groups.insertInto {seen : List Entry} (grouped : Groups seen groups) (entry : Entry) :
    Groups (seen ++ [entry]) (insertInto entry groups) where
  ascends := ascends_insertInto grouped.ascends
  mem_iff := by
    intro package entries
    rw [List.filter_append]
    by_cases mine : package = entry.package
    · subst mine
      rw [mem_insertInto_self grouped.ascends]
      simp only [grouped.mem_iff, List.filter_singleton, decide_true]
      cases held : seen.filter (·.package = entry.package) with
      | nil => simp +contextual
      | cons first rest => simp +contextual
    · have other : ¬ entry.package = package := fun same => mine same.symm
      rw [mem_insertInto_of_ne mine]
      simp [grouped.mem_iff, other]

theorem groups_ofEntries (entries : List Entry) :
    Groups entries (ofEntries entries).packages := by
  induction entries using List.reverseRecOn with
  | nil => exact ⟨.nil, by simp [ofEntries]⟩
  | append_singleton entries entry induction =>
      rw [ofEntries, List.foldl_concat]
      exact induction.insertInto entry

theorem mem_group_iff {group : Text × List Entry} (grouped : group ∈ (ofEntries entries).packages) :
    entry ∈ group.2 ↔ entry ∈ entries ∧ entry.package = group.1 := by
  rw [(((groups_ofEntries entries).mem_iff group.1 group.2).mp grouped).1, List.mem_filter,
    decide_eq_true_eq]

theorem inhabited_group {group : Text × List Entry}
    (grouped : group ∈ (ofEntries entries).packages) : ∃ entry, entry ∈ group.2 :=
  List.exists_mem_of_ne_nil _ (((groups_ofEntries entries).mem_iff group.1 group.2).mp grouped).2

theorem exists_group (member : entry ∈ entries) :
    ∃ group ∈ (ofEntries entries).packages, group.1 = entry.package ∧ entry ∈ group.2 := by
  have inside : entry ∈ entries.filter (·.package = entry.package) :=
    List.mem_filter.mpr ⟨member, decide_eq_true rfl⟩
  exact ⟨(entry.package, entries.filter (·.package = entry.package)),
    ((groups_ofEntries entries).mem_iff _ _).mpr ⟨rfl, List.ne_nil_of_mem inside⟩, rfl, inside⟩

theorem flatMap_insertInto_perm (entry : Entry) (groups : List (Text × List Entry)) :
    ((insertInto entry groups).flatMap Prod.snd).Perm (groups.flatMap Prod.snd ++ [entry]) := by
  induction groups with
  | nil => simp [insertInto]
  | cons group rest induction =>
      obtain ⟨first, held⟩ := group
      rw [insertInto]
      split_ifs with here before
      · simp only [List.flatMap_cons, List.append_assoc]
        exact (List.perm_append_comm).append_left held
      · simp only [List.flatMap_cons]
        exact List.perm_append_comm
      · simp only [List.flatMap_cons, List.append_assoc]
        exact induction.append_left held

theorem entries_ofEntries_perm (entries : List Entry) :
    (ofEntries entries).entries.Perm entries := by
  induction entries using List.reverseRecOn with
  | nil => exact .nil
  | append_singleton entries entry induction =>
      rw [ofEntries, List.foldl_concat]
      exact (flatMap_insertInto_perm entry _).trans (induction.append_right [entry])

end PackageMap

end ApiSurface
