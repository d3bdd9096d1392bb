import AppAdmin.Json.Printer
import AppAdmin.Json.Token
import AppAdmin.Proofs.Text.Chars
import AppAdmin.Proofs.Text.Utf8

/-!
Texts in quotes. Whatever is written for a character is read as that character, so that no text can
end before its closing quote.
-/

namespace AppAdmin.Json

open Text.Utf8 (encodeChar octets octets_cons)

/-! ### Characters -/

/-- Bytes that stand for themselves inside a text. -/
theorem readTextFrom_plain {bytes : Bytes} (h : ∀ b ∈ bytes, b ≠ 0x22 ∧ b ≠ 0x5C ∧ 0x20 ≤ b.toNat)
    (acc rest : Bytes) : readTextFrom acc (bytes ++ rest) = readTextFrom (bytes.reverse ++ acc) rest := by
  induction bytes generalizing acc with
  | nil => rfl
  | cons b bytes ih =>
      obtain ⟨⟨hquote, hslash, hcontrol⟩, hbytes⟩ := List.forall_mem_cons.mp h
      have hlow : ¬b < 0x20 := by
        rw [UInt8.lt_iff_toNat_lt]
        exact Nat.not_lt.mpr hcontrol
      rw [List.cons_append, readTextFrom.eq_def]
      dsimp only
      rw [if_neg hquote, if_neg hslash, if_neg hlow, ih hbytes, List.reverse_cons,
        List.append_assoc, List.singleton_append]

theorem plain_of_mem_encodeChar {c : Char} (hquote : c ≠ '"') (hslash : c ≠ '\\')
    (hcontrol : 0x20 ≤ c.toNat) :
    ∀ b ∈ encodeChar c, b ≠ 0x22 ∧ b ≠ 0x5C ∧ 0x20 ≤ b.toNat := by
  intro b hb
  by_cases hc : c.toNat < 0x80
  · have hne {d : Char} (hd : c ≠ d) : c.toNat ≠ d.toNat := fun heq => hd (Char.toNat_inj.mp heq)
    have hquote' : c.toNat ≠ 0x22 := hne hquote
    have hslash' : c.toNat ≠ 0x5C := hne hslash
    rw [Text.Utf8.encodeChar_of_lt hc, List.mem_singleton] at hb
    have hb' : b.toNat = c.toNat := by
      rw [hb, Text.Utf8.toNat_ofNat (by omega)]
    refine ⟨?_, ?_, by omega⟩
    · rintro rfl
      exact hquote' hb'.symm
    · rintro rfl
      exact hslash' hb'.symm
  · have hle := Text.Utf8.le_of_mem_encodeChar (by omega) b hb
    refine ⟨?_, ?_, by omega⟩
    · rintro rfl
      exact absurd hle (by decide)
    · rintro rfl
      exact absurd hle (by decide)

/-- A letter behind a backslash. -/
theorem readTextFrom_letter {e b : UInt8} (he : e ≠ 0x75) (hletter : simpleEscape? e = some b)
    (acc rest : Bytes) :
    readTextFrom acc (0x5C :: e :: rest) = readTextFrom (b :: acc) rest := by
  rw [readTextFrom.eq_def]
  dsimp only
  rw [if_neg (by decide), if_pos rfl, if_neg he, hletter]

/-- Four digits behind a backslash and the letter for them. -/
theorem readTextFrom_digits {h₁ h₂ h₃ h₄ : UInt8} {n : Nat} (hn : n < 0xD800)
    (hdigits : hexUnit? h₁ h₂ h₃ h₄ = some n) (acc rest : Bytes) :
    readTextFrom acc (0x5C :: 0x75 :: h₁ :: h₂ :: h₃ :: h₄ :: rest) =
      readTextFrom (pushCodePoint n acc) rest := by
  have hleading : isLeading n = false := by
    simp only [isLeading, Bool.and_eq_false_iff, decide_eq_false_iff_not]
    omega
  have htrailing : isTrailing n = false := by
    simp only [isTrailing, Bool.and_eq_false_iff, decide_eq_false_iff_not]
    omega
  rw [readTextFrom.eq_def]
  dsimp only
  rw [if_neg (by decide), if_pos rfl, if_pos rfl, hdigits]
  dsimp only
  rw [htrailing, hleading, if_neg nofun, if_neg nofun]

theorem readTextFrom_control {c : Char} (h : c.toNat < 0x20) (acc rest : Bytes) :
    readTextFrom acc (octets ['\\', 'u', '0', '0', Nat.digitChar (c.toNat / 16),
      Nat.digitChar (c.toNat % 16)] ++ rest) =
      readTextFrom ((encodeChar c).reverse ++ acc) rest := by
  let byte (d : Nat) : UInt8 := UInt8.ofNat (Nat.digitChar d).toNat
  have all : ∀ n ∈ List.range 0x20,
      octets ['\\', 'u', '0', '0', Nat.digitChar (n / 16), Nat.digitChar (n % 16)] =
        [0x5C, 0x75, 0x30, 0x30, byte (n / 16), byte (n % 16)] ∧
      hexUnit? 0x30 0x30 (byte (n / 16)) (byte (n % 16)) = some n := by
    decide +kernel
  obtain ⟨hoctets, hdigits⟩ := all c.toNat (List.mem_range.mpr h)
  rw [hoctets]
  have hread := readTextFrom_digits (by omega) hdigits acc rest
  rw [pushCodePoint, Char.ofNat_toNat] at hread
  exact hread

/-- What is written for a character is read as that character. -/
theorem readTextFrom_escape (c : Char) (acc rest : Bytes) :
    readTextFrom acc (octets (escape c) ++ rest) =
      readTextFrom ((encodeChar c).reverse ++ acc) rest := by
  by_cases hletter : c ∈ ['"', '\\', '\n', '\r', '\t', '\x08', '\x0c']
  · simp only [List.mem_cons, List.not_mem_nil, or_false] at hletter
    obtain rfl | rfl | rfl | rfl | rfl | rfl | rfl := hletter
    all_goals exact readTextFrom_letter (by decide) rfl acc rest
  · simp only [List.mem_cons, List.not_mem_nil, or_false, not_or] at hletter
    obtain ⟨hquote, hslash, hline, hreturn, htab, hback, hfeed⟩ := hletter
    rw [escape, if_neg hquote, if_neg hslash, if_neg hline, if_neg hreturn, if_neg htab,
      if_neg hback, if_neg hfeed]
    by_cases hcontrol : c.toNat < 0x20
    · rw [if_pos hcontrol]
      exact readTextFrom_control hcontrol acc rest
    · have hplain := plain_of_mem_encodeChar hquote hslash (Nat.not_lt.mp hcontrol)
      rw [if_neg hcontrol, octets_cons, octets, List.flatMap_nil, List.append_nil]
      exact readTextFrom_plain hplain acc rest

/-! ### Texts -/

theorem readTextFrom_escapes (s : List Char) (acc rest : Bytes) :
    readTextFrom acc (octets (s.flatMap escape) ++ 0x22 :: rest) =
      .ok (acc.reverse ++ octets s, rest) := by
  induction s generalizing acc with
  | nil =>
      rw [List.flatMap_nil, octets, List.flatMap_nil, List.nil_append, readTextFrom.eq_def,
        List.append_nil]
      rfl
  | cons c s ih =>
      rw [List.flatMap_cons, Text.Utf8.octets_append, List.append_assoc, readTextFrom_escape, ih,
        octets_cons, List.reverse_append, List.reverse_reverse, List.append_assoc]

/-- A text is read up to its closing quote and not beyond it. -/
theorem readText_escapes (s : String) (rest : Bytes) :
    readText (octets (s.toList.flatMap escape) ++ 0x22 :: rest) = .ok (s, rest) := by
  have hdecode : Text.Utf8.decode? (octets s.toList) = some s := Text.Utf8.decode?_encode s
  rw [readText, readTextFrom_escapes, List.reverse_nil, List.nil_append]
  dsimp only
  rw [hdecode]

end AppAdmin.Json
