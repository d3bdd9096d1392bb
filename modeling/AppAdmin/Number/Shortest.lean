import AppAdmin.Number.Binary64

/-!
The fewest decimal digits that read back as a given number, and the two ways of writing them that
are used: positional throughout, and positional only for magnitudes near one.
-/

namespace AppAdmin.Binary64

open Number (tenPow twoPow)

/-- The larger of two candidates' distances decides; `lower` stands for itself plus a fraction. -/
def nearer (num den lower : Nat) : Nat :=
  if 2 * (num - lower * den) < den then lower
  else if den < 2 * (num - lower * den) then lower + 1
  else if lower % 2 = 0 then lower else lower + 1

/-- `num / den` after division by `10 ^ k`. -/
def overTen (num den : Nat) (k : Int) : Nat × Nat :=
  if k < 0 then (num * tenPow k.natAbs, den) else (num, den * tenPow k.natAbs)

/-- The exponent of the leading decimal digit of a positive fraction. -/
def leadingPlace (num den : Nat) : Int :=
  let guess : Int := (((num.log2 : Int) - den.log2) * 30103) / 100000
  let fits (k : Int) : Bool := let (n, d) := overTen num den k; d ≤ n
  if fits (guess + 1) then guess + 1 else if fits guess then guess else guess - 1

/-- The candidate with its last digit at place `k`, if one lies between the bounds. All three
fractions have the denominator `den`. -/
def candidate (value low high den : Nat) (closed : Bool) (k : Int) : Option Nat :=
  let (v, d) := overTen value den k
  let (l, _) := overTen low den k
  let (h, _) := overTen high den k
  let inside (c : Nat) : Bool :=
    if closed then l ≤ c * d && c * d ≤ h else l < c * d && c * d < h
  let floor := v / d
  match inside floor, inside (floor + 1) with
  | true, true => some (nearer v d floor)
  | true, false => some floor
  | false, true => some (floor + 1)
  | false, false => none

/-- The first place at which a candidate exists, going down from `k`. -/
def search (value low high den : Nat) (closed : Bool) : Nat → Int → Nat × Int
  | 0, k => (value * tenPow k.natAbs / den, k)
  | fuel + 1, k => match candidate value low high den closed k with
    | some digits => (digits, k)
    | none => search value low high den closed fuel (k - 1)

/-- Removes zeros at the end of a digit string, raising its exponent. -/
def trimZeros : Nat → Nat → Int → Nat × Int
  | 0, digits, k => (digits, k)
  | fuel + 1, digits, k =>
    if digits ≠ 0 ∧ digits % 10 = 0 then trimZeros fuel (digits / 10) (k + 1) else (digits, k)

/-- The shortest decimal `digits * 10 ^ k` for a positive finite number: the bounds are half way to
the neighbours and belong to the number when its mantissa is even. -/
def shortest (mantissa : Nat) (exponent : Int) : Nat × Int :=
  let (step, den) := ratio 1 exponent
  let value := 4 * mantissa * step
  let below := if mantissa = twoPow 52 ∧ leastExponent < exponent then step else 2 * step
  let (digits, k) := search value (value - below) (value + 2 * step) (4 * den) (mantissa % 2 == 0)
    20 (leadingPlace (mantissa * step) den)
  trimZeros 20 digits k

/-- Digits with a point `point` places after the first of them, and zeros where they are needed. -/
def positional (digits : List Char) (point : Int) : List Char :=
  if point ≤ 0 then '0' :: '.' :: List.replicate point.natAbs '0' ++ digits
  else if digits.length ≤ point.toNat then
    digits ++ List.replicate (point.toNat - digits.length) '0'
  else digits.take point.toNat ++ '.' :: digits.drop point.toNat

/-- The number without exponent; a whole number has no point. -/
def plainText : Binary64 → String
  | .nan => "NaN"
  | .infinite negative => if negative then "-inf" else "inf"
  | .finite negative m e =>
    let sign := if negative then "-" else ""
    if m = 0 then sign ++ "0"
    else
      let (n, k) := shortest m e
      let digits := Nat.toDigits 10 n
      sign ++ String.ofList (positional digits (k + digits.length))

/-- The number with at least one digit on each side of the point. Below `10 ^ -5` and from
`10 ^ 16` on it has an exponent, with a sign and two digits at least. -/
def scientificText : Binary64 → String
  | .nan => "NaN"
  | .infinite negative => if negative then "-inf" else "inf"
  | .finite negative m e =>
    let sign := if negative then "-" else ""
    if m = 0 then sign ++ "0.0"
    else
      let (n, k) := shortest m e
      let digits := Nat.toDigits 10 n
      let place := k + digits.length - 1
      if -5 ≤ place ∧ place < 16 then
        let text := positional digits (place + 1)
        sign ++ String.ofList (if text.contains '.' then text else text ++ ['.', '0'])
      else
        let mark := if place < 0 then "e-" else "e+"
        let exponent := Nat.toDigits 10 place.natAbs
        let exponent := if exponent.length < 2 then '0' :: exponent else exponent
        let digits := match digits with
          | [] => []
          | d :: [] => [d]
          | d :: more => d :: '.' :: more
        sign ++ String.ofList digits ++ mark ++ String.ofList exponent

end AppAdmin.Binary64
