import AppAdmin.Proofs.Text.Chars
import AppAdmin.Proofs.Text.Utf8
import AppAdmin.Url.Path

/-!
What percent escapes do to a text. The signs of an escape are in none of the sets, so that a text is
escaped only once, and no escape spells a dot, so that a segment keeps its meaning.
-/

namespace AppAdmin.Url

/-! ### Characters of an escaped text -/

/-- The signs that spell escapes. -/
def escapeSigns : List Char := "%0123456789ABCDEF".toList

theorem upperHexDigit_mem_escapeSigns {d : Nat} (h : d < 16) :
    Text.upperHexDigit d ∈ escapeSigns := by
  have all : ∀ d ∈ List.range 16, Text.upperHexDigit d ∈ escapeSigns := by decide
  exact all d (List.mem_range.mpr h)

theorem percentByte_subset (b : UInt8) : percentByte b ⊆ escapeSigns := by
  have hb := b.toNat_lt
  intro c hc
  simp only [percentByte, List.mem_cons, List.not_mem_nil, or_false] at hc
  obtain rfl | rfl | rfl := hc
  · decide
  · exact upperHexDigit_mem_escapeSigns (by omega)
  · exact upperHexDigit_mem_escapeSigns (by omega)

/-- A set of characters that leaves the signs of escapes alone. -/
def SparesSigns (escaped : Char → Bool) : Prop := ∀ c ∈ escapeSigns, escaped c = false

theorem sparesSigns_userinfo : SparesSigns escapedInUserinfo :=
  Text.forall_of_all (by decide)

theorem sparesSigns_path : SparesSigns escapedInPath :=
  Text.forall_of_all (by decide)

theorem sparesSigns_query : SparesSigns (escapedInQuery true) :=
  Text.forall_of_all (by decide)

theorem sparesSigns_fragment : SparesSigns escapedInFragment :=
  Text.forall_of_all (by decide)

/-! What each set leaves alone is no blank and no mark that ends the part. -/

theorem blank_lt {c : Char} (hcontrol : isControl c = false) (hblank : c ≠ ' ') :
    0x20 < c.toNat := by
  have hne : c.toNat ≠ 0x20 := fun h => hblank (Char.toNat_inj.mp h)
  simp only [isControl, Bool.or_eq_false_iff, decide_eq_false_iff_not] at hcontrol
  omega

theorem of_spared_fragment {c : Char} (h : escapedInFragment c = false) : 0x20 < c.toNat := by
  simp only [escapedInFragment, Bool.or_eq_false_iff, beq_eq_false_iff_ne] at h
  exact blank_lt h.1.1.1.1.1 h.1.1.1.1.2

theorem of_spared_query {c : Char} (h : escapedInQuery true c = false) :
    0x20 < c.toNat ∧ c ≠ '#' := by
  simp only [escapedInQuery, Bool.or_eq_false_iff, beq_eq_false_iff_ne] at h
  exact ⟨blank_lt h.1.1.1.1.1.1 h.1.1.1.1.1.2, h.1.1.1.2⟩

theorem of_spared_path {c : Char} (h : escapedInPath c = false) :
    0x20 < c.toNat ∧ c ≠ '#' ∧ c ≠ '?' := by
  simp only [escapedInPath, Bool.or_eq_false_iff, beq_eq_false_iff_ne] at h
  exact ⟨of_spared_fragment h.1.1.1.1, h.1.1.1.2, h.1.1.2⟩

theorem of_spared_userinfo {c : Char} (h : escapedInUserinfo c = false) :
    0x20 < c.toNat ∧ c ≠ '#' ∧ c ≠ '?' ∧ c ≠ '/' ∧ c ≠ '\\' := by
  simp only [escapedInUserinfo, Bool.or_eq_false_iff, beq_eq_false_iff_ne] at h
  obtain ⟨hlt, hhash, hquestion⟩ := of_spared_path h.1.1.1.1.1.1.1.1.1.1
  exact ⟨hlt, hhash, hquestion, h.1.1.1.1.1.1.1.1.1.2, h.1.1.1.2⟩

variable {escaped : Char → Bool}

theorem percentChar_of_spared {c : Char} (h : escaped c = false) : percentChar escaped c = [c] := by
  rw [percentChar, h]
  rfl

theorem percentChar_of_escaped {c : Char} (h : escaped c = true) :
    percentChar escaped c = (Text.Utf8.encodeChar c).flatMap percentByte := by
  rw [percentChar, h]
  rfl

theorem mem_percentEncode {s : List Char} {c : Char} (hc : c ∈ percentEncode escaped s) :
    c ∈ s ∧ escaped c = false ∨ c ∈ escapeSigns := by
  obtain ⟨d, hd, hcd⟩ := List.mem_flatMap.mp hc
  cases hescaped : escaped d with
  | false =>
      rw [percentChar_of_spared hescaped, List.mem_singleton] at hcd
      subst hcd
      exact Or.inl ⟨hd, hescaped⟩
  | true =>
      rw [percentChar_of_escaped hescaped] at hcd
      obtain ⟨b, -, hcb⟩ := List.mem_flatMap.mp hcd
      exact Or.inr (percentByte_subset b hcb)

/-- No character of an escaped text is in the set. -/
theorem escaped_of_mem_percentEncode (hsigns : SparesSigns escaped) {s : List Char} {c : Char}
    (hc : c ∈ percentEncode escaped s) : escaped c = false := by
  obtain ⟨-, h⟩ | h := mem_percentEncode hc
  · exact h
  · exact hsigns c h

theorem percentEncode_cons (c : Char) (s : List Char) :
    percentEncode escaped (c :: s) = percentChar escaped c ++ percentEncode escaped s := by
  simp [percentEncode]

theorem percentEncode_of_spared {s : List Char} (h : ∀ c ∈ s, escaped c = false) :
    percentEncode escaped s = s := by
  induction s with
  | nil => rfl
  | cons c s ih =>
      rw [percentEncode_cons, percentChar_of_spared (h c List.mem_cons_self),
        ih fun d hd => h d (List.mem_cons_of_mem c hd)]
      rfl

theorem percentEncode_idem (hsigns : SparesSigns escaped) (s : List Char) :
    percentEncode escaped (percentEncode escaped s) = percentEncode escaped s :=
  percentEncode_of_spared fun _ hc => escaped_of_mem_percentEncode hsigns hc

/-- An escape begins with a percent sign. -/
theorem exists_percentChar_eq {c : Char} (h : escaped c = true) :
    ∃ rest, percentChar escaped c = '%' :: rest := by
  rw [percentChar_of_escaped h]
  cases hbytes : Text.Utf8.encodeChar c with
  | nil => exact absurd hbytes (Text.Utf8.encodeChar_ne_nil c)
  | cons b bytes => exact ⟨_, rfl⟩

/-- A text whose escaped form has no percent sign is its own escaped form. -/
theorem percentEncode_of_no_percent {s : List Char} (h : '%' ∉ percentEncode escaped s) :
    percentEncode escaped s = s := by
  apply percentEncode_of_spared
  intro c hc
  cases hescaped : escaped c with
  | false => rfl
  | true =>
      obtain ⟨rest, hrest⟩ := exists_percentChar_eq hescaped
      have hpercent : '%' ∈ percentChar escaped c := by rw [hrest]; exact List.mem_cons_self
      exact absurd (List.mem_flatMap.mpr ⟨c, hc, hpercent⟩) h

/-- A first character that is no percent sign is not the work of an escape. -/
theorem eq_cons_of_percentEncode_eq {s t : List Char} {c : Char} (hc : c ≠ '%')
    (h : percentEncode escaped s = c :: t) : ∃ s', s = c :: s' ∧ percentEncode escaped s' = t := by
  cases s with
  | nil => exact absurd h (by simp [percentEncode])
  | cons d s =>
      rw [percentEncode_cons] at h
      cases hd : escaped d with
      | true =>
          obtain ⟨rest, hrest⟩ := exists_percentChar_eq hd
          rw [hrest] at h
          exact absurd (List.cons.inj h).1.symm hc
      | false =>
          rw [percentChar_of_spared hd] at h
          obtain ⟨rfl, rfl⟩ := List.cons.inj h
          exact ⟨s, rfl, rfl⟩

theorem eq_cons_cons_of_percentEncode_eq {s t : List Char} {c d : Char} (hc : c ≠ '%')
    (hd : d ≠ '%') (h : percentEncode escaped s = c :: d :: t) : ∃ s', s = c :: d :: s' := by
  obtain ⟨u, rfl, hu⟩ := eq_cons_of_percentEncode_eq hc h
  obtain ⟨s', rfl, -⟩ := eq_cons_of_percentEncode_eq hd hu
  exact ⟨s', rfl⟩

/-! ### Escapes and dots -/

namespace Path

theorem undotted_cons {c : Char} {s : List Char} (h : c ≠ '%') :
    undotted (c :: s) = c :: undotted s := by
  rw [undotted]
  · rintro rest rfl
    exact absurd rfl h
  · rintro rest rfl
    exact absurd rfl h

theorem undotted_percent {s : List Char}
    (h : ∀ rest, s ≠ '2' :: 'e' :: rest ∧ s ≠ '2' :: 'E' :: rest) :
    undotted ('%' :: s) = '%' :: undotted s := by
  rw [undotted]
  · intro rest heq
    exact (h rest).1
  · intro rest heq
    exact (h rest).2

theorem upperHexDigit_ne_percent {d : Nat} (h : d < 16) : Text.upperHexDigit d ≠ '%' := by
  intro heq
  have hvalue := Text.hexDigit?_upperHexDigit h
  rw [heq] at hvalue
  exact absurd hvalue (by simp [Text.hexDigit?])

/-- The escape of a byte that is no dot is read as it stands. -/
theorem undotted_percentByte_append {b : UInt8} (h : b.toNat ≠ 0x2E) (s : List Char) :
    undotted (percentByte b ++ s) = percentByte b ++ undotted s := by
  have hb := b.toNat_lt
  have hhigh := Text.hexDigit?_upperHexDigit (show b.toNat / 16 < 16 by omega)
  have hlow := Text.hexDigit?_upperHexDigit (show b.toNat % 16 < 16 by omega)
  have hhigh' := upperHexDigit_ne_percent (show b.toNat / 16 < 16 by omega)
  have hlow' := upperHexDigit_ne_percent (show b.toNat % 16 < 16 by omega)
  simp only [percentByte, List.cons_append, List.nil_append]
  rw [undotted_percent, undotted_cons hhigh', undotted_cons hlow']
  intro rest
  constructor
  all_goals
    intro heq
    simp only [List.cons.injEq] at heq
    rw [heq.1] at hhigh
    rw [heq.2.1] at hlow
    simp only [Text.hexDigit?] at hhigh hlow
    simp at hhigh hlow
    omega

theorem undotted_flatMap_percentByte_append {bytes : Bytes} (h : ∀ b ∈ bytes, b.toNat ≠ 0x2E)
    (s : List Char) :
    undotted (bytes.flatMap percentByte ++ s) = bytes.flatMap percentByte ++ undotted s := by
  induction bytes with
  | nil => rfl
  | cons b bytes ih =>
      rw [List.flatMap_cons, List.append_assoc,
        undotted_percentByte_append (h b List.mem_cons_self),
        ih fun a ha => h a (List.mem_cons_of_mem b ha), List.append_assoc]

theorem encodeChar_ne_dot {c : Char} (h : c ≠ '.') :
    ∀ b ∈ Text.Utf8.encodeChar c, b.toNat ≠ 0x2E := by
  intro b hb hbyte
  have hdot : b = UInt8.ofNat '.'.toNat := UInt8.toNat_inj.mp hbyte
  exact Text.Utf8.notMem_encodeChar (by decide) h (hdot ▸ hb)

/-- Escaping and reading dots do not get into each other's way. -/
theorem undotted_percentEncode (s : List Char) :
    undotted (percentEncode escapedInPath s) = percentEncode escapedInPath (undotted s) := by
  induction s using undotted.induct with
  | case1 rest ih | case2 rest ih =>
      have hspared : ∀ c ∈ "%2eE.".toList, escapedInPath c = false :=
        Text.forall_of_all (by decide)
      simp only [undotted, percentEncode_cons]
      simp [percentChar_of_spared, hspared, undotted, ih]
  | case3 c rest hsmall hcapital ih =>
      cases hc : escapedInPath c with
      | true =>
          -- An escaped character is neither a dot nor the sign of an escape.
          have hpercent : c ≠ '%' := by rintro rfl; exact absurd hc (by decide)
          have hdot : c ≠ '.' := by rintro rfl; exact absurd hc (by decide)
          rw [undotted_cons hpercent, percentEncode_cons, percentEncode_cons,
            percentChar_of_escaped hc, undotted_flatMap_percentByte_append (encodeChar_ne_dot hdot),
            ih]
      | false =>
          rw [percentEncode_cons, percentChar_of_spared hc, List.singleton_append]
          by_cases hpercent : c = '%'
          · subst hpercent
            have hplain : ∀ t, rest ≠ '2' :: 'e' :: t ∧ rest ≠ '2' :: 'E' :: t :=
              fun t => ⟨hsmall t rfl, hcapital t rfl⟩
            have hescaped : ∀ t, percentEncode escapedInPath rest ≠ '2' :: 'e' :: t ∧
                percentEncode escapedInPath rest ≠ '2' :: 'E' :: t := by
              intro t
              constructor
              all_goals
                intro heq
                obtain ⟨s, hs⟩ := eq_cons_cons_of_percentEncode_eq (by decide) (by decide) heq
              · exact (hplain s).1 hs
              · exact (hplain s).2 hs
            rw [undotted_percent hplain, undotted_percent hescaped, percentEncode_cons,
              percentChar_of_spared hc, ih, List.singleton_append]
          · rw [undotted_cons hpercent, undotted_cons hpercent, percentEncode_cons,
              percentChar_of_spared hc, ih, List.singleton_append]
  | case4 => rfl

/-- A text whose escaped form has only dots has only dots. -/
theorem eq_of_percentEncode_eq_dots {s t : List Char} (ht : ∀ c ∈ t, c = '.')
    (h : percentEncode escapedInPath s = t) : s = t := by
  rw [← h]
  refine (percentEncode_of_no_percent ?_).symm
  rw [h]
  intro hmem
  exact absurd (ht _ hmem) (by decide)

theorem Move.of_eq_into_iff {s t : List Char} : Move.of s = .into t ↔
    undotted s ≠ ['.'] ∧ undotted s ≠ ['.', '.'] ∧ percentEncode escapedInPath s = t := by
  rw [Move.of]
  split
  next h => simp [h]
  next h => simp [h]
  next hone htwo =>
      constructor
      · exact fun h => ⟨hone, htwo, Move.into.inj h⟩
      · exact fun h => congrArg Move.into h.2.2

/-- Where a segment leads into, the segment found there leads into itself. -/
theorem Move.of_into {s t : List Char} (h : Move.of s = .into t) : Move.of t = .into t := by
  obtain ⟨hone, htwo, rfl⟩ := Move.of_eq_into_iff.mp h
  refine Move.of_eq_into_iff.mpr ⟨?_, ?_, percentEncode_idem sparesSigns_path s⟩
  · rw [undotted_percentEncode]
    exact fun heq => hone (eq_of_percentEncode_eq_dots (by simp) heq)
  · rw [undotted_percentEncode]
    exact fun heq => htwo (eq_of_percentEncode_eq_dots (by simp) heq)

end Path

end AppAdmin.Url
