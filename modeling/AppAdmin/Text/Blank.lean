/-!
White space in the sense of the Unicode property `White_Space`, and text without the white space
at its ends.
-/

namespace AppAdmin.Text

def isBlank (c : Char) : Bool :=
  let n := c.toNat
  (9 ≤ n && n ≤ 13) || n == 0x20 || n == 0x85 || n == 0xA0 || n == 0x1680
    || (0x2000 ≤ n && n ≤ 0x200A) || n == 0x2028 || n == 0x2029 || n == 0x202F || n == 0x205F
    || n == 0x3000

/-- Every blank of ASCII is a blank. -/
theorem isBlank_of_isWhitespace {c : Char} (h : c.isWhitespace = true) : isBlank c = true := by
  simp only [Char.isWhitespace, Bool.or_eq_true, decide_eq_true_eq] at h
  rcases h with ((h | h) | h) | h <;> subst h <;> decide

/-- Drops the white space in front. -/
def trimStart (s : List Char) : List Char :=
  s.dropWhile isBlank

/-- Drops the white space behind. -/
def trimEnd (s : List Char) : List Char :=
  (trimStart s.reverse).reverse

/-- Drops the white space at both ends. -/
def trim (s : List Char) : List Char :=
  trimEnd (trimStart s)

/-- Text that is white space throughout. -/
def Blank (s : List Char) : Prop := ∀ c ∈ s, isBlank c = true

instance (s : List Char) : Decidable (Blank s) :=
  decidable_of_iff (s.all isBlank = true) List.all_eq_true

theorem Blank.nil : Blank [] := by
  intro c hc
  cases hc

theorem Blank.append {s t : List Char} (hs : Blank s) (ht : Blank t) : Blank (s ++ t) := by
  intro c hc
  exact (List.mem_append.mp hc).elim (hs c) (ht c)

theorem length_trimStart_le (s : List Char) : (trimStart s).length ≤ s.length :=
  (List.dropWhile_suffix isBlank).length_le

theorem trimStart_of_head {c : Char} {s : List Char} (h : isBlank c = false) :
    trimStart (c :: s) = c :: s := by
  simp [trimStart, h]

theorem trimStart_append {w : List Char} (hw : Blank w) (s : List Char) :
    trimStart (w ++ s) = trimStart s := by
  rw [trimStart, List.dropWhile_append_of_pos hw]
  rfl

theorem trimStart_eq_nil_iff {s : List Char} : trimStart s = [] ↔ Blank s := by
  constructor
  · intro h
    have hs := List.takeWhile_append_dropWhile (p := isBlank) (l := s)
    rw [show s.dropWhile isBlank = [] from h, List.append_nil] at hs
    rw [← hs]
    exact List.all_eq_true.mp List.all_takeWhile
  · intro h
    simpa [trimStart] using trimStart_append h []

theorem isBlank_head_trimStart {c : Char} {s rest : List Char} (h : trimStart s = c :: rest) :
    isBlank c = false := by
  have hc := List.head?_dropWhile_not isBlank s
  rwa [show s.dropWhile isBlank = c :: rest from h] at hc

theorem trimStart_trimStart (s : List Char) : trimStart (trimStart s) = trimStart s := by
  cases h : trimStart s with
  | nil => rfl
  | cons c rest => exact trimStart_of_head (isBlank_head_trimStart h)

/-- A text is white space followed by what trimming in front leaves of it. -/
theorem exists_eq_append_trimStart (s : List Char) : ∃ w, Blank w ∧ s = w ++ trimStart s :=
  ⟨s.takeWhile isBlank, List.all_eq_true.mp List.all_takeWhile,
    List.takeWhile_append_dropWhile.symm⟩

theorem trimEnd_append {w : List Char} (hw : Blank w) (s : List Char) :
    trimEnd (s ++ w) = trimEnd s := by
  have hr : Blank w.reverse := fun c hc => hw c (List.mem_reverse.mp hc)
  rw [trimEnd, List.reverse_append, trimStart_append hr]
  rfl

theorem exists_eq_trimEnd_append (s : List Char) : ∃ w, Blank w ∧ s = trimEnd s ++ w := by
  obtain ⟨w, hw, hs⟩ := exists_eq_append_trimStart s.reverse
  refine ⟨w.reverse, fun c hc => hw c (List.mem_reverse.mp hc), ?_⟩
  rw [trimEnd, ← List.reverse_append, ← hs, List.reverse_reverse]

theorem trimEnd_of_getLast {c : Char} {s : List Char} (h : isBlank c = false) :
    trimEnd (s ++ [c]) = s ++ [c] := by
  simp [trimEnd, trimStart_of_head h]

theorem trim_append {w : List Char} (hw : Blank w) (s : List Char) : trim (s ++ w) = trim s := by
  rw [trim, trim]
  cases hs : trimStart s with
  | nil =>
      have hblank := (trimStart_eq_nil_iff.mp hs).append hw
      rw [trimStart_eq_nil_iff.mpr hblank]
  | cons c rest =>
      have happend : trimStart (s ++ w) = trimStart s ++ w := by
        rw [trimStart, List.dropWhile_append, if_neg (by simp [show s.dropWhile isBlank = _ from hs])]
        rfl
      rw [happend, hs, trimEnd_append hw]

/-- Trimming leaves one visible character exactly when white space surrounds it. -/
theorem trim_eq_singleton_iff {c : Char} {s : List Char} (h : isBlank c = false) :
    trim s = [c] ↔ ∃ w₁ w₂, Blank w₁ ∧ Blank w₂ ∧ s = w₁ ++ c :: w₂ := by
  constructor
  · intro ht
    obtain ⟨w₁, hw₁, hs⟩ := exists_eq_append_trimStart s
    obtain ⟨w₂, hw₂, he⟩ := exists_eq_trimEnd_append (trimStart s)
    rw [show trimEnd (trimStart s) = [c] from ht] at he
    exact ⟨w₁, w₂, hw₁, hw₂, by rw [hs, he]; rfl⟩
  · rintro ⟨w₁, w₂, hw₁, hw₂, rfl⟩
    rw [trim, trimStart_append hw₁, trimStart_of_head h]
    calc trimEnd (c :: w₂) = trimEnd ([c] ++ w₂) := rfl
      _ = trimEnd ([] ++ [c]) := trimEnd_append hw₂ [c]
      _ = [c] := trimEnd_of_getLast h

end AppAdmin.Text
