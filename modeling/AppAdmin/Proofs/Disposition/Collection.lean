import AppAdmin.Proofs.Disposition.Faults
import Mathlib.Data.List.Nodup
import Mathlib.Data.String.Basic

/-!
What a header value means: under which name the value of each parameter is found in the end. The
starred parameters come last, so that a decoded one hides the plain one of its name, and the order
in which different names were read does not matter.
-/

namespace AppAdmin

namespace Parameters

theorem find_eq_none {name : String} {entries : List (String × String)}
    (h : ∀ entry ∈ entries, entry.1 ≠ name) : find name entries = none := by
  induction entries with
  | nil => rfl
  | cons entry rest ih =>
      rw [find, if_neg (Ne.symm (h entry List.mem_cons_self))]
      exact ih fun other hother => h other (List.mem_cons_of_mem _ hother)

/-- If all entries of a name agree, their value is found. -/
theorem find_eq_some {name value : String} {entries : List (String × String)}
    (hmem : ∃ entry ∈ entries, entry.1 = name)
    (hagree : ∀ entry ∈ entries, entry.1 = name → entry.2 = value) :
    find name entries = some value := by
  induction entries with
  | nil =>
      obtain ⟨entry, hentry, -⟩ := hmem
      cases hentry
  | cons entry rest ih =>
      rw [find]
      split
      · rename_i heq
        rw [hagree entry List.mem_cons_self heq.symm]
      · rename_i hne
        refine ih ?_ fun other hother => hagree other (List.mem_cons_of_mem _ hother)
        obtain ⟨other, hother, heq⟩ := hmem
        rcases List.mem_cons.mp hother with rfl | hrest
        · exact absurd heq.symm hne
        · exact ⟨other, hrest, heq⟩

theorem find_append (name : String) (front back : List (String × String)) :
    find name (front ++ back) = (find name front).or (find name back) := by
  induction front with
  | nil => rfl
  | cons entry rest ih =>
      rw [List.cons_append, find, find, ih]
      split <;> rfl

theorem put_perm {name : String} {entries : List (String × String)}
    (h : ∀ entry ∈ entries, entry.1 ≠ name) (value : String) :
    (put name value entries).Perm ((name, value) :: entries) := by
  induction entries with
  | nil => exact .refl _
  | cons entry rest ih =>
      have hrest := ih fun other hother => h other (List.mem_cons_of_mem _ hother)
      have hne := h entry List.mem_cons_self
      rw [put]
      split
      · exact .refl _
      · rw [if_neg (Ne.symm hne)]
        exact (hrest.cons entry).trans (.swap ..)

/-- Sorted by name, with every name once. -/
def Sorted (entries : List (String × String)) : Prop := entries.Pairwise fun a b => a.1 < b.1

theorem mem_put {name value : String} {entries : List (String × String)} {entry : String × String}
    (h : entry ∈ put name value entries) : entry = (name, value) ∨ entry ∈ entries := by
  induction entries with
  | nil => exact Or.inl (List.mem_singleton.mp h)
  | cons first rest ih =>
      rw [put] at h
      split at h
      · exact List.mem_cons.mp h
      split at h
      · exact (List.mem_cons.mp h).imp_right (List.mem_cons_of_mem first)
      · rcases List.mem_cons.mp h with rfl | h
        · exact Or.inr List.mem_cons_self
        · exact (ih h).imp_right (List.mem_cons_of_mem first)

theorem Sorted.put {entries : List (String × String)} (h : Sorted entries) (name value : String) :
    Sorted (put name value entries) := by
  induction entries with
  | nil => exact List.pairwise_singleton _ _
  | cons first rest ih =>
      obtain ⟨hfirst, hrest⟩ := List.pairwise_cons.mp h
      rw [Parameters.put]
      split
      · rename_i hlt
        apply List.Pairwise.cons _ h
        intro entry hentry
        rcases List.mem_cons.mp hentry with rfl | hentry
        · exact hlt
        · exact lt_trans hlt (hfirst entry hentry)
      split
      · rename_i heq
        apply List.Pairwise.cons _ hrest
        rw [heq]
        exact hfirst
      · rename_i hlt hne
        apply List.Pairwise.cons _ (ih hrest)
        intro entry hentry
        rcases mem_put hentry with rfl | hentry
        · exact lt_of_le_of_ne (not_lt.mp hlt) (Ne.symm hne)
        · exact hfirst entry hentry

/-- The parameters with all entries of a list set, one after the other. -/
def insertAll (params : Parameters) (entries : List (String × String)) : Parameters :=
  entries.foldl (fun params entry => params.insert entry.1 entry.2) params

/-- Of the entries of a name the last one counts. -/
theorem get?_insertAll (params : Parameters) (entries : List (String × String)) (name : String) :
    (params.insertAll entries).get? name = (find name entries.reverse).or (params.get? name) := by
  induction entries generalizing params with
  | nil => rfl
  | cons entry rest ih =>
      rw [insertAll, List.foldl_cons, ← insertAll, ih, List.reverse_cons, find_append,
        Option.or_assoc]
      congr 1
      rw [get?_insert, find, find]
      split <;> rfl

/-- Entries of different names are all kept. -/
theorem entries_insertAll_perm {params : Parameters} {entries : List (String × String)}
    (hnodup : (entries.map Prod.fst).Nodup)
    (hnew : ∀ old ∈ params.entries, old.1 ∉ entries.map Prod.fst) :
    (params.insertAll entries).entries.Perm (entries ++ params.entries) := by
  induction entries generalizing params with
  | nil => exact .refl _
  | cons entry rest ih =>
      obtain ⟨hfresh, hnodup⟩ := List.nodup_cons.mp hnodup
      have hput : (params.insert entry.1 entry.2).entries.Perm (entry :: params.entries) :=
        put_perm (fun old hold heq => hnew old hold (heq ▸ List.mem_cons_self)) entry.2
      have hrest : ∀ old ∈ (params.insert entry.1 entry.2).entries,
          old.1 ∉ rest.map Prod.fst := by
        intro old hold hmem
        rcases List.mem_cons.mp (hput.mem_iff.mp hold) with rfl | hold
        · exact hfresh hmem
        · exact hnew old hold (List.mem_cons_of_mem _ hmem)
      exact ((ih hnodup hrest).trans (hput.append_left rest)).trans List.perm_middle

theorem Sorted.insertAll {params : Parameters} (h : Sorted params.entries)
    (entries : List (String × String)) : Sorted (params.insertAll entries).entries := by
  induction entries generalizing params with
  | nil => exact h
  | cons entry rest ih => exact ih (h.put entry.1 entry.2)

end Parameters

namespace Disposition

/-- The name of a starred parameter. -/
def IsStarred (name : String) : Prop := name.toList.getLast? = some '*'

instance (name : String) : Decidable (IsStarred name) :=
  inferInstanceAs (Decidable (name.toList.getLast? = some '*'))

theorem isStarred_append (name : String) : IsStarred (name ++ "*") := by
  simp [IsStarred]

theorem dropWhile_star {name : String} (h : ¬IsStarred name) :
    name.toList.reverse.dropWhile (· == '*') = name.toList.reverse := by
  apply List.dropWhile_beq_eq_self_of_head?_ne
  rwa [List.head?_reverse]

theorem dropStars_append {name : String} (h : ¬IsStarred name) :
    dropStars (name ++ "*") = name := by
  simp [dropStars, dropWhile_star h]

theorem dropStars_of_not_isStarred {name : String} (h : ¬IsStarred name) :
    dropStars name = name := by
  simp [dropStars, dropWhile_star h]

/-- Name and value under which a starred parameter is found. -/
def settle (entry : String × String) : String × String :=
  match decodeStarred entry.2.toList with
  | some value => (dropStars entry.1, value)
  | none => entry

theorem addStarred_eq (params : Parameters) (entry : String × String) :
    addStarred params entry = params.insert (settle entry).1 (settle entry).2 := by
  unfold addStarred settle
  cases decodeStarred entry.2.toList <;> rfl

theorem foldl_addStarred (entries : List (String × String)) (params : Parameters) :
    entries.foldl addStarred params = params.insertAll (entries.map settle) := by
  induction entries generalizing params with
  | nil => rfl
  | cons entry rest ih =>
      rw [List.foldl_cons, ih, addStarred_eq]
      rfl

theorem foldl_add (entries : List (String × String)) (read : Read) :
    entries.foldl Read.add read =
      (read.1.insertAll (entries.filter fun entry => ¬IsStarred entry.1),
        read.2.insertAll (entries.filter fun entry => IsStarred entry.1)) := by
  induction entries generalizing read with
  | nil => rfl
  | cons entry rest ih =>
      rw [List.foldl_cons, ih]
      by_cases h : IsStarred entry.1
      · have hadd : read.add entry = (read.1, read.2.insert entry.1 entry.2) := if_pos h
        simp [hadd, h, Parameters.insertAll]
      · have hadd : read.add entry = (read.1.insert entry.1 entry.2, read.2) := if_neg h
        simp [hadd, h, Parameters.insertAll]

variable {entries : List (String × String)} (hnodup : (entries.map Prod.fst).Nodup)
include hnodup

/-- The starred entries sorted by name, of which the last one of a name counts, and the plain ones
behind. -/
theorem get?_collect (name : String) : ∃ starred : List (String × String),
    starred.Perm (entries.filter fun entry => IsStarred entry.1) ∧ Parameters.Sorted starred ∧
    (collect entries).get? name = (Parameters.find name (starred.map settle).reverse).or
      (Parameters.find name (entries.filter fun entry => ¬IsStarred entry.1).reverse) := by
  have hsub : ((entries.filter fun entry => IsStarred entry.1).map Prod.fst).Sublist
      (entries.map Prod.fst) := List.filter_sublist.map Prod.fst
  have hperm := @Parameters.entries_insertAll_perm .empty _ (hnodup.sublist hsub) nofun
  have hsorted : Parameters.Sorted Parameters.empty.entries := .nil
  refine ⟨_, hperm.trans (by rw [Parameters.empty, List.append_nil]), hsorted.insertAll _, ?_⟩
  rw [collect, foldl_add, foldl_addStarred, Parameters.get?_insertAll, Parameters.get?_insertAll]
  congr 1
  exact Option.or_none

/-- If the starred parameters that end up under a name agree, they give its value. -/
theorem get?_collect_of_starred {name value : String}
    (hmem : ∃ entry ∈ entries, IsStarred entry.1 ∧ (settle entry).1 = name)
    (hagree : ∀ entry ∈ entries, IsStarred entry.1 → (settle entry).1 = name →
      (settle entry).2 = value) :
    (collect entries).get? name = some value := by
  obtain ⟨starred, hperm, -, hget⟩ := get?_collect hnodup name
  have hstarred : ∀ entry, entry ∈ starred ↔ entry ∈ entries ∧ IsStarred entry.1 := by
    intro entry
    rw [hperm.mem_iff, List.mem_filter, decide_eq_true_eq]
  have hfind : Parameters.find name (starred.map settle).reverse = some value := by
    refine Parameters.find_eq_some ?_ fun found hfound hname => ?_
    · obtain ⟨entry, hentry, hstar, hname⟩ := hmem
      refine ⟨settle entry, ?_, hname⟩
      rw [List.mem_reverse]
      exact List.mem_map_of_mem ((hstarred entry).mpr ⟨hentry, hstar⟩)
    · obtain ⟨entry, hentry, rfl⟩ := List.mem_map.mp (List.mem_reverse.mp hfound)
      obtain ⟨hentry, hstar⟩ := (hstarred entry).mp hentry
      exact hagree entry hentry hstar hname
  rw [hget, hfind, Option.some_or]

/-- Under a name to which no starred parameter goes the plain one is found. -/
theorem get?_collect_of_not_starred {name : String}
    (h : ∀ entry ∈ entries, IsStarred entry.1 → (settle entry).1 ≠ name) :
    (collect entries).get? name =
      Parameters.find name (entries.filter fun entry => ¬IsStarred entry.1).reverse := by
  obtain ⟨starred, hperm, -, hget⟩ := get?_collect hnodup name
  rw [hget, Parameters.find_eq_none, Option.none_or]
  intro found hfound
  obtain ⟨entry, hentry, rfl⟩ := List.mem_map.mp (List.mem_reverse.mp hfound)
  rw [hperm.mem_iff, List.mem_filter, decide_eq_true_eq] at hentry
  exact h entry hentry.1 hentry.2

theorem get?_collect_of_plain {entry : String × String} (hmem : entry ∈ entries)
    (hplain : ¬IsStarred entry.1)
    (h : ∀ other ∈ entries, IsStarred other.1 → (settle other).1 ≠ entry.1) :
    (collect entries).get? entry.1 = some entry.2 := by
  rw [get?_collect_of_not_starred hnodup h]
  refine Parameters.find_eq_some ⟨entry, ?_, rfl⟩ fun other hother heq => ?_
  · simpa [hmem] using hplain
  · have hother := (List.mem_filter.mp (List.mem_reverse.mp hother)).1
    rw [List.inj_on_of_nodup_map hnodup hother hmem heq]

end Disposition

end AppAdmin
