/-!
Letter case of ASCII text. Header names, media types and host names compare without regard to the
case of the letters `A` to `Z`; no other character is folded.
-/

namespace AppAdmin.Text

/-- The text with its ASCII capitals made small. -/
def lowered (s : String) : String :=
  String.ofList (s.toList.map Char.toLower)

theorem lowered_append (a b : String) : lowered (a ++ b) = lowered a ++ lowered b := by
  simp [lowered]

/-- What holds of a character beside itself and of each capital beside its small letter holds of
every character beside its lower case. -/
theorem toLower_cases {P : Char → Char → Prop} (same : ∀ c, P c c)
    (capital : ∀ n ∈ List.range 26, P (Char.ofNat (0x41 + n)) (Char.ofNat (0x41 + n)).toLower)
    (c : Char) : P c c.toLower := by
  by_cases h : 0x41 ≤ c.toNat ∧ c.toNat ≤ 0x5A
  · have hc := capital (c.toNat - 0x41) (List.mem_range.mpr (by omega))
    rwa [show 0x41 + (c.toNat - 0x41) = c.toNat by omega, Char.ofNat_toNat] at hc
  · have hc : c.toLower = c := dif_neg h
    rw [hc]
    exact same c

/-- Two texts are the same name when they differ in the case of ASCII letters at most. -/
def sameName (a b : String) : Bool :=
  lowered a == lowered b

theorem sameName_iff {a b : String} : sameName a b = true ↔ lowered a = lowered b := by
  simp [sameName]

theorem sameName_refl (a : String) : sameName a a = true := by
  simp [sameName]

theorem sameName_comm (a b : String) : sameName a b = sameName b a := by
  simp [sameName, Bool.beq_comm]

theorem sameName_trans {a b c : String} (hab : sameName a b = true) (hbc : sameName b c = true) :
    sameName a c = true := by
  rw [sameName_iff] at *
  exact hab.trans hbc

end AppAdmin.Text
