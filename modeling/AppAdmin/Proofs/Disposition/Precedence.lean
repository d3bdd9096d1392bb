import AppAdmin.Proofs.Disposition.Collection
import Mathlib.Data.Finset.Max

/-!
Which parameter counts under a name. A starred value that can be decoded goes under the name without
its stars, so several parameters may go under one name, and of these the one with the most stars counts.
The order in which the parameters were read has no part in that.
-/

namespace AppAdmin.Disposition

/-! ### Stars -/

/-- Stars to put behind a name. -/
def stars (k : Nat) : String := String.ofList (List.replicate k '*')

theorem toList_append_stars (name : String) (k : Nat) :
    (name ++ stars k).toList = name.toList ++ List.replicate k '*' := by
  rw [String.toList_append, stars, String.toList_ofList]

theorem append_stars_zero (name : String) : name ++ stars 0 = name := by
  rw [stars, List.replicate_zero, String.ofList_nil, String.append_empty]

theorem isStarred_append_stars (name : String) (k : Nat) : IsStarred (name ++ stars (k + 1)) := by
  rw [IsStarred, toList_append_stars, List.getLast?_append, List.getLast?_replicate]
  rfl

theorem dropStars_append_stars {name : String} (h : ¬IsStarred name) (k : Nat) :
    dropStars (name ++ stars k) = name := by
  have hstars : ∀ c ∈ List.replicate k '*', (c == '*') = true := by simp
  rw [dropStars, toList_append_stars, List.reverse_append, List.reverse_replicate,
    List.dropWhile_append_of_pos hstars, dropWhile_star h, List.reverse_reverse,
    String.ofList_toList]

theorem exists_eq_append_stars (name : String) : ∃ k, name = dropStars name ++ stars k := by
  let back := name.toList.reverse.takeWhile (· == '*')
  have hback : back = List.replicate back.length '*' := by
    apply List.eq_replicate_iff.mpr
    refine ⟨rfl, fun c hc => ?_⟩
    exact beq_iff_eq.mp (List.all_eq_true.mp List.all_takeWhile c hc)
  refine ⟨back.length, String.toList_injective ?_⟩
  rw [toList_append_stars, ← hback, dropStars, String.toList_ofList]
  calc name.toList
      = (back ++ name.toList.reverse.dropWhile (· == '*')).reverse := by
        rw [List.takeWhile_append_dropWhile, List.reverse_reverse]
    _ = (name.toList.reverse.dropWhile (· == '*')).reverse ++ back := by
        rw [List.reverse_append, hback, List.reverse_replicate]

theorem dropStars_eq_iff {name base : String} (h : ¬IsStarred base) :
    dropStars name = base ↔ ∃ k, name = base ++ stars k := by
  constructor
  · rintro rfl
    exact exists_eq_append_stars name
  · rintro ⟨k, rfl⟩
    exact dropStars_append_stars h k

theorem not_isStarred_dropStars (name : String) : ¬IsStarred (dropStars name) := by
  intro h
  have hhead := List.head?_dropWhile_not (· == '*') name.toList.reverse
  rw [IsStarred, dropStars, String.toList_ofList, List.getLast?_reverse] at h
  rw [h] at hhead
  cases hhead

theorem lt_append_stars (name : String) (k : Nat) : name < name ++ stars (k + 1) := by
  rw [String.lt_iff_toList_lt, toList_append_stars]
  induction name.toList with
  | nil => exact List.nil_lt_cons _ _
  | cons c s ih => exact List.cons_lt_cons_iff.mpr (Or.inr ⟨rfl, ih⟩)

/-! ### What counts -/

/-- Name and value that a parameter stands for. -/
def meant (entry : String × String) : String × String :=
  if IsStarred entry.1 then settle entry else entry

theorem meant_of_plain {entry : String × String} (h : ¬IsStarred entry.1) : meant entry = entry :=
  if_neg h

theorem meant_of_starred {entry : String × String} (h : IsStarred entry.1) :
    meant entry = settle entry :=
  if_pos h

theorem meant_of_undecoded {entry : String × String} (h : decodeStarred entry.2.toList = none) :
    meant entry = entry := by
  rw [meant, settle, h]
  split <;> rfl

theorem meant_of_decoded {entry : String × String} {value : String} (hstar : IsStarred entry.1)
    (h : decodeStarred entry.2.toList = some value) : meant entry = (dropStars entry.1, value) := by
  rw [meant_of_starred hstar, settle, h]

/-- What stands for a name without stars has that name, perhaps with stars. -/
theorem exists_stars_of_meant {entry : String × String} {name : String} (hname : ¬IsStarred name)
    (h : (meant entry).1 = name) : ∃ k, entry.1 = name ++ stars k := by
  by_cases hstar : IsStarred entry.1
  · cases hvalue : decodeStarred entry.2.toList with
    | none =>
        rw [meant_of_undecoded hvalue] at h
        exact absurd (h ▸ hstar) hname
    | some value =>
        rw [meant_of_decoded hstar hvalue] at h
        exact (dropStars_eq_iff hname).mp h
  · rw [meant_of_plain hstar] at h
    exact ⟨0, by rw [h, append_stars_zero]⟩

/-- What stands for a name with stars is the parameter of just that name. -/
theorem eq_of_meant {entry : String × String} {name : String} (hname : IsStarred name)
    (h : (meant entry).1 = name) : entry.1 = name := by
  by_cases hstar : IsStarred entry.1
  · cases hvalue : decodeStarred entry.2.toList with
    | none => rwa [meant_of_undecoded hvalue] at h
    | some value =>
        rw [meant_of_decoded hstar hvalue] at h
        rw [← h] at hname
        exact absurd hname (not_isStarred_dropStars entry.1)
  · rwa [meant_of_plain hstar] at h

/-- The parameter that counts under a name: of those that stand for it, the one with the greatest
name. -/
structure Counts (entries : List (String × String)) (name : String) (entry : String × String) :
    Prop where
  mem : entry ∈ entries
  stands : (meant entry).1 = name
  greatest : ∀ other ∈ entries, (meant other).1 = name → other.1 ≤ entry.1

theorem exists_counts {entries : List (String × String)} {entry : String × String} {name : String}
    (hmem : entry ∈ entries) (hstands : (meant entry).1 = name) :
    ∃ first, Counts entries name first := by
  classical
  have hmember : ∀ other, other ∈ (entries.filter fun other => (meant other).1 = name).toFinset ↔
      other ∈ entries ∧ (meant other).1 = name := by
    intro other
    rw [List.mem_toFinset, List.mem_filter, decide_eq_true_eq]
  obtain ⟨first, hfirst, hgreatest⟩ := Finset.exists_max_image _ Prod.fst
    ⟨entry, (hmember entry).mpr ⟨hmem, hstands⟩⟩
  obtain ⟨hmem, hstands⟩ := (hmember first).mp hfirst
  exact ⟨first, hmem, hstands, fun other hother hgoes =>
    hgreatest other ((hmember other).mpr ⟨hother, hgoes⟩)⟩

/-- In a sorted list the last entry that settles under a name is the one with the greatest name. -/
theorem find_settle_of_sorted {entries : List (String × String)} {entry : String × String}
    {name : String} (hsorted : Parameters.Sorted entries) (hmem : entry ∈ entries)
    (hname : (settle entry).1 = name)
    (hgreatest : ∀ other ∈ entries, (settle other).1 = name → other.1 ≤ entry.1) :
    Parameters.find name (entries.map settle).reverse = some (settle entry).2 := by
  obtain ⟨front, back, rfl⟩ := List.append_of_mem hmem
  have hback : ∀ found ∈ (back.map settle).reverse, found.1 ≠ name := by
    intro found hfound heq
    obtain ⟨other, hother, rfl⟩ := List.mem_map.mp (List.mem_reverse.mp hfound)
    have hlt := (List.pairwise_cons.mp (List.pairwise_append.mp hsorted).2.1).1 other hother
    have hle := hgreatest other (List.mem_append_right _ (List.mem_cons_of_mem _ hother)) heq
    exact absurd hlt (not_lt.mpr hle)
  rw [List.map_append, List.map_cons, List.reverse_append, List.reverse_cons, List.append_assoc,
    Parameters.find_append, Parameters.find_eq_none hback, Option.none_or, List.singleton_append,
    Parameters.find, if_pos hname.symm]

variable {entries : List (String × String)} {name value : String}
  (hnodup : (entries.map Prod.fst).Nodup)
include hnodup

/-- What counts under a name is found there. -/
theorem Counts.get?_collect {entry : String × String} (h : Counts entries name entry) :
    (collect entries).get? name = some (meant entry).2 := by
  by_cases hstar : IsStarred entry.1
  · obtain ⟨starred, hperm, hsorted, hget⟩ := Disposition.get?_collect hnodup name
    have hstarred : ∀ other, other ∈ starred ↔ other ∈ entries ∧ IsStarred other.1 := by
      intro other
      rw [hperm.mem_iff, List.mem_filter, decide_eq_true_eq]
    have hstands := h.stands
    rw [meant_of_starred hstar] at hstands ⊢
    rw [hget, find_settle_of_sorted hsorted ((hstarred entry).mpr ⟨h.mem, hstar⟩) hstands,
      Option.some_or]
    intro other hother hgoes
    obtain ⟨hmem, hother⟩ := (hstarred other).mp hother
    exact h.greatest other hmem (by rwa [meant_of_starred hother])
  -- beside a plain parameter that counts no starred one stands for its name, as its name would be greater
  · have hname : entry.1 = name := by
      have hstands := h.stands
      rwa [meant_of_plain hstar] at hstands
    rw [meant_of_plain hstar, ← hname]
    apply get?_collect_of_plain hnodup h.mem hstar
    intro other hother hstarred hgoes
    rw [hname, ← meant_of_starred hstarred] at hgoes
    have hle := h.greatest other hother hgoes
    obtain ⟨k, hk⟩ := exists_stars_of_meant (hname ▸ hstar) hgoes
    cases k with
    | zero =>
        rw [append_stars_zero] at hk
        rw [hk, ← hname] at hstarred
        exact hstar hstarred
    | succ k =>
        rw [hk, hname] at hle
        exact absurd (lt_append_stars name k) (not_lt.mpr hle)

theorem get?_collect_eq_none (h : ∀ entry ∈ entries, (meant entry).1 ≠ name) :
    (collect entries).get? name = none := by
  rw [get?_collect_of_not_starred hnodup]
  · apply Parameters.find_eq_none
    intro entry hentry
    obtain ⟨hmem, hplain⟩ := List.mem_filter.mp (List.mem_reverse.mp hentry)
    have hne := h entry hmem
    rwa [meant_of_plain (of_decide_eq_true hplain)] at hne
  · intro entry hmem hstar
    have hne := h entry hmem
    rwa [meant_of_starred hstar] at hne

/-- **What is found under a name** is what the parameter means that counts there. -/
theorem get?_collect_eq_some_iff : (collect entries).get? name = some value ↔
    ∃ entry, Counts entries name entry ∧ (meant entry).2 = value := by
  constructor
  · intro h
    by_cases hex : ∃ entry ∈ entries, (meant entry).1 = name
    · obtain ⟨entry, hmem, hstands⟩ := hex
      obtain ⟨first, hfirst⟩ := exists_counts hmem hstands
      exact ⟨first, hfirst, Option.some.inj ((hfirst.get?_collect hnodup).symm.trans h)⟩
    · rw [get?_collect_eq_none hnodup fun entry hmem heq => hex ⟨entry, hmem, heq⟩] at h
      cases h
  · rintro ⟨entry, hentry, rfl⟩
    exact hentry.get?_collect hnodup

omit hnodup in
/-- Two lists of parameters that have the same ones for a name have the same value under it. -/
theorem get?_collect_congr {others : List (String × String)} (h : (entries.map Prod.fst).Nodup)
    (hothers : (others.map Prod.fst).Nodup)
    (hsame : ∀ entry, (meant entry).1 = name → (entry ∈ entries ↔ entry ∈ others)) :
    (collect entries).get? name = (collect others).get? name := by
  have hcounts : ∀ entry, Counts entries name entry ↔ Counts others name entry := by
    intro entry
    constructor
    · rintro ⟨hmem, hstands, hgreatest⟩
      exact ⟨(hsame entry hstands).mp hmem, hstands, fun other hother hgoes =>
        hgreatest other ((hsame other hgoes).mpr hother) hgoes⟩
    · rintro ⟨hmem, hstands, hgreatest⟩
      exact ⟨(hsame entry hstands).mpr hmem, hstands, fun other hother hgoes =>
        hgreatest other ((hsame other hgoes).mp hother) hgoes⟩
  apply Option.ext
  intro value
  simp only [get?_collect_eq_some_iff h, get?_collect_eq_some_iff hothers, hcounts]

end AppAdmin.Disposition
