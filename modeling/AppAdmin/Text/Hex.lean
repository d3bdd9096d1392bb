/-!
Hexadecimal digits.
-/

namespace AppAdmin.Text

/-- The value of a hexadecimal digit of either case. -/
def hexDigit? (c : Char) : Option Nat :=
  let n := c.toNat
  if 0x30 ≤ n ∧ n ≤ 0x39 then some (n - 0x30)
  else if 0x41 ≤ n ∧ n ≤ 0x46 then some (n - 0x41 + 10)
  else if 0x61 ≤ n ∧ n ≤ 0x66 then some (n - 0x61 + 10)
  else none

theorem hexDigit?_lt {c : Char} {d : Nat} (h : hexDigit? c = some d) : d < 16 := by
  unfold hexDigit? at h
  grind

/-- The number that hexadecimal digits spell; other characters are skipped. -/
def hexNumber (digits : List Char) : Nat :=
  digits.foldl (fun n c => match hexDigit? c with
    | some d => n * 16 + d
    | none => n) 0

/-- The capital digit of a value below sixteen. -/
def upperHexDigit (d : Nat) : Char :=
  if d < 10 then Char.ofNat (0x30 + d) else Char.ofNat (0x41 + (d - 10))

theorem hexDigit?_upperHexDigit {d : Nat} (h : d < 16) : hexDigit? (upperHexDigit d) = some d := by
  have all : ∀ e ∈ List.range 16, hexDigit? (upperHexDigit e) = some e := by decide
  exact all d (List.mem_range.mpr h)

end AppAdmin.Text
