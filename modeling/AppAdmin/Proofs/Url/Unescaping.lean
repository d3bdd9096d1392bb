import AppAdmin.Proofs.Url.Escapes

/-!
Reading percent escapes. Escaping a text does not change the bytes that it says. A text never says
more bytes than it has, and as many only if it spells no escape.
-/

namespace AppAdmin.Url

open Text (toNat_lt_of_hexDigit?)
open Text.Utf8 (octets octets_cons encodeChar_of_lt le_of_mem_encodeChar)

/-- The bytes that a text says, with its escapes replaced. -/
def unescape : List Char → Bytes
  | '%' :: high :: low :: rest =>
    match Text.hexDigit? high, Text.hexDigit? low with
    | some h, some l => UInt8.ofNat (h * 16 + l) :: unescape rest
    | _, _ => 0x25 :: unescape (high :: low :: rest)
  | c :: rest => Text.Utf8.encodeChar c ++ unescape rest
  | [] => []

/-- A percent sign with two digits behind it. -/
def IsEscape (c : Char) (rest : List Char) : Prop :=
  c = '%' ∧ ∃ high low more h l, rest = high :: low :: more ∧
    Text.hexDigit? high = some h ∧ Text.hexDigit? low = some l

section Steps

variable {high low c : Char} {rest : List Char} {h l : Nat}

theorem unescape_escape (hhigh : Text.hexDigit? high = some h) (hlow : Text.hexDigit? low = some l) :
    unescape ('%' :: high :: low :: rest) = UInt8.ofNat (h * 16 + l) :: unescape rest := by
  rw [unescape, hhigh, hlow]

theorem unescape_plain (hplain : ¬IsEscape c rest) :
    unescape (c :: rest) = Text.Utf8.encodeChar c ++ unescape rest := by
  by_cases hstart : c = '%' ∧ ∃ high low more, rest = high :: low :: more
  · obtain ⟨rfl, high, low, more, rfl⟩ := hstart
    rw [unescape]
    split
    next a b hhigh hlow =>
        exact absurd ⟨rfl, high, low, more, a, b, rfl, hhigh, hlow⟩ hplain
    next => rfl
  · rw [unescape]
    exact fun high low more hc hrest => hstart ⟨hc, high, low, more, hrest⟩

end Steps

/-- A text is taken apart into escapes and characters that begin none. -/
@[elab_as_elim]
theorem escapes_induction {P : List Char → Prop} (nil : P [])
    (escape : ∀ high low rest h l, Text.hexDigit? high = some h → Text.hexDigit? low = some l →
      P rest → P ('%' :: high :: low :: rest))
    (plain : ∀ c rest, ¬IsEscape c rest → P rest → P (c :: rest)) (s : List Char) : P s := by
  induction s using unescape.induct with
  | case1 high low rest h l hlow hhigh ih => exact escape high low rest h l hhigh hlow ih
  | case2 high low rest hnot ih =>
      refine plain _ _ ?_ ih
      rintro ⟨-, high', low', more, h, l, heq, hhigh, hlow⟩
      cases heq
      exact hnot h l hhigh hlow
  | case3 c rest hshort ih =>
      refine plain _ _ ?_ ih
      rintro ⟨hc, high, low, more, -, -, heq, -⟩
      exact hshort high low more hc heq
  | case4 => exact nil

/-! ### First bytes -/

theorem hexDigit?_of_le {b : UInt8} (h : 0x80 ≤ b.toNat) :
    Text.hexDigit? (Char.ofNat b.toNat) = none := by
  have all : ∀ n ∈ List.range 256, 0x80 ≤ n → Text.hexDigit? (Char.ofNat n) = none := by
    decide +kernel
  exact all b.toNat (List.mem_range.mpr b.toNat_lt) h

/-- A character is a digit exactly if its first byte is one. -/
theorem exists_encodeChar_eq (c : Char) : ∃ b more, Text.Utf8.encodeChar c = b :: more ∧
    Text.hexDigit? (Char.ofNat b.toNat) = Text.hexDigit? c := by
  by_cases hc : c.toNat < 0x80
  · refine ⟨_, [], encodeChar_of_lt hc, ?_⟩
    rw [Text.Utf8.toNat_ofNat (by omega), Char.ofNat_toNat]
  · cases hbytes : Text.Utf8.encodeChar c with
    | nil => exact absurd hbytes (Text.Utf8.encodeChar_ne_nil c)
    | cons b more =>
        refine ⟨b, more, rfl, ?_⟩
        have hb : b ∈ Text.Utf8.encodeChar c := by
          rw [hbytes]
          exact List.mem_cons_self
        have hdigit : Text.hexDigit? c = none := by
          cases hd : Text.hexDigit? c with
          | none => rfl
          | some d => exact absurd (toNat_lt_of_hexDigit? hd) hc
        rw [hdigit, hexDigit?_of_le (le_of_mem_encodeChar (by omega) b hb)]

/-! ### Decoding the bytes of a text -/

theorem percentDecode_cons {b : UInt8} (h : b ≠ 0x25) (rest : Bytes) :
    percentDecode (b :: rest) = b :: percentDecode rest := by
  match rest with
  | [] => rfl
  | [c] => rfl
  | c :: d :: rest => rw [percentDecode, if_neg h]

theorem percentDecode_percent {s : Bytes}
    (h : ∀ b c rest, s = b :: c :: rest → escapedByte? b c = none) :
    percentDecode (0x25 :: s) = 0x25 :: percentDecode s := by
  match s with
  | [] => rfl
  | [b] => rfl
  | b :: c :: rest => simp [percentDecode, h b c rest rfl]

theorem percentDecode_append {s : Bytes} (h : ∀ b ∈ s, b ≠ 0x25) (rest : Bytes) :
    percentDecode (s ++ rest) = s ++ percentDecode rest := by
  induction s with
  | nil => rfl
  | cons b s ih =>
      obtain ⟨hb, hs⟩ := List.forall_mem_cons.mp h
      rw [List.cons_append, percentDecode_cons hb, ih hs, List.cons_append]

theorem encodeChar_ne_percent {c : Char} (h : c ≠ '%') :
    ∀ b ∈ Text.Utf8.encodeChar c, b ≠ 0x25 := by
  rintro b hb rfl
  exact Text.Utf8.notMem_encodeChar (d := '%') (by decide) h hb

theorem percentDecode_octets_cons {c : Char} (h : c ≠ '%') (s : List Char) :
    percentDecode (octets (c :: s)) = Text.Utf8.encodeChar c ++ percentDecode (octets s) := by
  rw [octets_cons, percentDecode_append (encodeChar_ne_percent h)]

/-- Bytes behind a percent sign spell an escape only if the characters do. -/
theorem escapedByte?_of_octets {s : List Char} {b c : UInt8} {more : Bytes}
    (hplain : ¬IsEscape '%' s) (heq : octets s = b :: c :: more) : escapedByte? b c = none := by
  cases s with
  | nil => cases heq
  | cons high s =>
      obtain ⟨b', more', hb, hdigit⟩ := exists_encodeChar_eq high
      rw [octets_cons, hb, List.cons_append, List.cons.injEq] at heq
      obtain ⟨rfl, heq⟩ := heq
      rw [escapedByte?, hdigit]
      cases hhigh : Text.hexDigit? high with
      | none => rfl
      | some h =>
          -- a digit is one byte, so that the next byte begins the second character
          have hone := encodeChar_of_lt (toNat_lt_of_hexDigit? hhigh)
          rw [hb, List.cons.injEq] at hone
          rw [hone.2, List.nil_append] at heq
          cases s with
          | nil => cases heq
          | cons low rest =>
              obtain ⟨c', more'', hc, hdigit'⟩ := exists_encodeChar_eq low
              rw [octets_cons, hc, List.cons_append, List.cons.injEq] at heq
              obtain ⟨rfl, -⟩ := heq
              rw [hdigit']
              cases hlow : Text.hexDigit? low with
              | none => rfl
              | some l => exact absurd ⟨rfl, high, low, rest, h, l, rfl, hhigh, hlow⟩ hplain

/-- Reading escapes among bytes is reading them among characters. -/
theorem percentDecode_octets (s : List Char) : percentDecode (octets s) = unescape s := by
  induction s using escapes_induction with
  | nil => rfl
  | escape high low rest h l hhigh hlow ih =>
      have hhigh' := toNat_lt_of_hexDigit? hhigh
      have hlow' := toNat_lt_of_hexDigit? hlow
      have hbytes : octets ('%' :: high :: low :: rest) =
          0x25 :: UInt8.ofNat high.toNat :: UInt8.ofNat low.toNat :: octets rest := by
        rw [octets_cons, octets_cons, octets_cons, encodeChar_of_lt hhigh', encodeChar_of_lt hlow']
        rfl
      have hbyte : escapedByte? (UInt8.ofNat high.toNat) (UInt8.ofNat low.toNat) =
          some (UInt8.ofNat (h * 16 + l)) := by
        rw [escapedByte?, Text.Utf8.toNat_ofNat (by omega), Text.Utf8.toNat_ofNat (by omega),
          Char.ofNat_toNat, Char.ofNat_toNat, hhigh, hlow]
        rfl
      rw [hbytes, percentDecode, if_pos rfl, hbyte, unescape_escape hhigh hlow, ← ih]
  | plain c rest hplain ih =>
      rw [unescape_plain hplain, ← ih]
      by_cases hc : c = '%'
      · subst hc
        rw [octets_cons]
        exact percentDecode_percent fun b b' more heq => escapedByte?_of_octets hplain heq
      · exact percentDecode_octets_cons hc rest

/-! ### Escaped texts -/

theorem unescape_percentByte_append (b : UInt8) (s : List Char) :
    unescape (percentByte b ++ s) = b :: unescape s := by
  have hb := b.toNat_lt
  have hhigh := Text.hexDigit?_upperHexDigit (show b.toNat / 16 < 16 by omega)
  have hlow := Text.hexDigit?_upperHexDigit (show b.toNat % 16 < 16 by omega)
  have hvalue : UInt8.ofNat (b.toNat / 16 * 16 + b.toNat % 16) = b := by
    rw [show b.toNat / 16 * 16 + b.toNat % 16 = b.toNat by omega, UInt8.ofNat_toNat]
  simp only [percentByte, List.cons_append, List.nil_append]
  rw [unescape_escape hhigh hlow, hvalue]

theorem unescape_flatMap_percentByte_append (bytes : Bytes) (s : List Char) :
    unescape (bytes.flatMap percentByte ++ s) = bytes ++ unescape s := by
  induction bytes with
  | nil => rfl
  | cons b bytes ih =>
      rw [List.flatMap_cons, List.append_assoc, unescape_percentByte_append, ih, List.cons_append]

theorem escapedInPath_of_hexDigit? {c : Char} {d : Nat} (h : Text.hexDigit? c = some d) :
    escapedInPath c = false :=
  Text.forall_ascii (P := fun c => (Text.hexDigit? c).isSome = true → escapedInPath c = false)
    (by decide +kernel) (toNat_lt_of_hexDigit? h) (by rw [h]; rfl)

theorem IsEscape.of_percentEncode {c : Char} {rest : List Char}
    (h : IsEscape c (percentEncode escapedInPath rest)) : IsEscape c rest := by
  obtain ⟨hc, high, low, more, a, b, heq, hhigh, hlow⟩ := h
  have hne {d : Char} {n : Nat} (hd : Text.hexDigit? d = some n) : d ≠ '%' := by
    rintro rfl
    cases hd
  obtain ⟨more', hrest⟩ := eq_cons_cons_of_percentEncode_eq (hne hhigh) (hne hlow) heq
  exact ⟨hc, high, low, more', a, b, hrest, hhigh, hlow⟩

/-- **Escaping does not change what a text says.** -/
theorem unescape_percentEncode (s : List Char) :
    unescape (percentEncode escapedInPath s) = unescape s := by
  induction s using escapes_induction with
  | nil => rfl
  | escape high low rest h l hhigh hlow ih =>
      rw [percentEncode_cons, percentEncode_cons, percentEncode_cons,
        percentChar_of_spared (by decide), percentChar_of_spared (escapedInPath_of_hexDigit? hhigh),
        percentChar_of_spared (escapedInPath_of_hexDigit? hlow)]
      simp only [List.cons_append, List.nil_append]
      rw [unescape_escape hhigh hlow, unescape_escape hhigh hlow, ih]
  | plain c rest hplain ih =>
      rw [percentEncode_cons, unescape_plain hplain, ← ih]
      cases hc : escapedInPath c with
      | true => rw [percentChar_of_escaped hc, unescape_flatMap_percentByte_append]
      | false =>
          rw [percentChar_of_spared hc, List.singleton_append,
            unescape_plain fun h => hplain h.of_percentEncode]

/-! ### Texts without escapes -/

theorem length_unescape_le (s : List Char) : (unescape s).length ≤ (octets s).length := by
  induction s using escapes_induction with
  | nil => exact Nat.le_refl _
  | escape high low rest h l hhigh hlow ih =>
      rw [unescape_escape hhigh hlow, octets_cons, octets_cons, octets_cons]
      simp only [List.length_append, List.length_cons, encodeChar_of_lt (c := '%') (by decide)]
      omega
  | plain c rest hplain ih =>
      rw [unescape_plain hplain, octets_cons, List.length_append, List.length_append]
      omega

/-- A text that says as many bytes as it has begins no escape anywhere. -/
theorem unescape_cons_of_length_eq {c : Char} {rest : List Char}
    (h : (unescape (c :: rest)).length = (octets (c :: rest)).length) :
    ¬IsEscape c rest ∧ (unescape rest).length = (octets rest).length := by
  by_cases hescape : IsEscape c rest
  · obtain ⟨rfl, high, low, more, a, b, rfl, hhigh, hlow⟩ := hescape
    have hmore := length_unescape_le more
    rw [unescape_escape hhigh hlow, octets_cons, octets_cons, octets_cons] at h
    simp only [List.length_append, List.length_cons, encodeChar_of_lt (c := '%') (by decide),
      encodeChar_of_lt (toNat_lt_of_hexDigit? hhigh), List.length_nil] at h
    omega
  · rw [unescape_plain hescape, octets_cons, List.length_append, List.length_append] at h
    exact ⟨hescape, by omega⟩

theorem unescape_eq_octets_iff {s : List Char} :
    unescape s = octets s ↔ (unescape s).length = (octets s).length := by
  refine ⟨congrArg List.length, fun h => ?_⟩
  induction s with
  | nil => rfl
  | cons c rest ih =>
      obtain ⟨hplain, hrest⟩ := unescape_cons_of_length_eq h
      rw [unescape_plain hplain, octets_cons, ih hrest]

/-- Without escapes no dot is escaped. -/
theorem undotted_of_unescape {s : List Char} (h : unescape s = octets s) : Path.undotted s = s := by
  rw [unescape_eq_octets_iff] at h
  induction s with
  | nil => rfl
  | cons c rest ih =>
      obtain ⟨hplain, hrest⟩ := unescape_cons_of_length_eq h
      by_cases hc : c = '%'
      · subst hc
        rw [Path.undotted_percent, ih hrest]
        intro more
        constructor
        · rintro rfl
          exact hplain ⟨rfl, '2', 'e', more, 2, 14, rfl, rfl, rfl⟩
        · rintro rfl
          exact hplain ⟨rfl, '2', 'E', more, 2, 14, rfl, rfl, rfl⟩
      · rw [Path.undotted_cons hc, ih hrest]

end AppAdmin.Url
