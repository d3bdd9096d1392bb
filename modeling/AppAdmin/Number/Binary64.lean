/-!
Numbers of 64 bits. The whole ones are bounded. The floating point ones have exact arithmetic behind
them: a finite number is a whole number times a power of two, and every operation rounds the exact
result to the nearest number, ties to the even neighbour.
-/

namespace AppAdmin.Number

def twoPow (n : Nat) : Nat := Nat.pow 2 n

def tenPow (n : Nat) : Nat := Nat.pow 10 n

/-- The largest number of 64 bits without a sign. -/
def maxNatural64 : Nat := 18446744073709551615

/-- Whether a number has 64 bits at most, its sign included. -/
def isInteger64 (n : Int) : Bool := -9223372036854775808 ≤ n && n ≤ 9223372036854775807

end AppAdmin.Number

namespace AppAdmin

/-- A number of the 64-bit format. A finite one is worth `mantissa * 2 ^ exponent`. -/
inductive Binary64
  | finite (negative : Bool) (mantissa : Nat) (exponent : Int)
  | infinite (negative : Bool)
  | nan
deriving DecidableEq, Inhabited

namespace Binary64

open Number (tenPow twoPow)

/-- The exponent of the smallest numbers. -/
def leastExponent : Int := -1074

/-- The exponent from which on a number is too large for the format. -/
def exponentBound : Int := 972

def zero (negative : Bool) : Binary64 := .finite negative 0 leastExponent

/-- A fraction as a quotient of whole numbers after division by `2 ^ exponent`. -/
def scaled (num den : Nat) (exponent : Int) : Nat × Nat :=
  if exponent < 0 then (num * twoPow exponent.natAbs, den)
  else (num, den * twoPow exponent.natAbs)

/-- The whole number nearest to `num / den`, a tie going to the even one. -/
def roundHalfEven (num den : Nat) : Nat :=
  let q := num / den
  let r := num % den
  if 2 * r < den then q else if den < 2 * r then q + 1 else if q % 2 = 0 then q else q + 1

/-- The exponent of the number nearest to a positive fraction, before a carry of the rounding. -/
def exponentFor (num den : Nat) : Int :=
  let low := max leastExponent ((num.log2 : Int) - den.log2 - 53)
  let (n, d) := scaled num den low
  if n / d < twoPow 53 then low else low + 1

/-- The number nearest to a fraction. -/
def ofRatio (negative : Bool) (num den : Nat) : Binary64 :=
  if num = 0 then zero negative
  else
    let e := exponentFor num den
    let (n, d) := scaled num den e
    let m := roundHalfEven n d
    let (m, e) := if m = twoPow 53 then (twoPow 52, e + 1) else (m, e)
    if exponentBound ≤ e then .infinite negative else .finite negative m e

/-- The number nearest to a whole number. -/
def ofNat (negative : Bool) (n : Nat) : Binary64 := ofRatio negative n 1

/-- The number nearest to `digits * 10 ^ exponent`. Powers of ten that only an infinite or a zero
result can come from are not computed. -/
def ofDecimal (negative : Bool) (digits : Nat) (exponent : Int) : Binary64 :=
  let length : Int := (Nat.toDigits 10 digits).length
  if digits = 0 then zero negative
  else if 310 < length + exponent then .infinite negative
  else if length + exponent < -330 then zero negative
  else if exponent < 0 then ofRatio negative digits (tenPow exponent.natAbs)
  else ofRatio negative (digits * tenPow exponent.natAbs) 1

/-- Whether the number is neither infinite nor undefined. -/
def isFinite : Binary64 → Bool
  | .finite .. => true
  | _ => false

/-- Whether the number is zero of either sign. -/
def isZero : Binary64 → Bool
  | .finite _ m _ => m == 0
  | _ => false

/-- The same number with the other sign. -/
def negate : Binary64 → Binary64
  | .finite negative m e => .finite (!negative) m e
  | .infinite negative => .infinite (!negative)
  | .nan => .nan

/-- A positive finite number as a fraction. -/
def ratio (mantissa : Nat) (exponent : Int) : Nat × Nat :=
  if exponent < 0 then (mantissa, twoPow exponent.natAbs)
  else (mantissa * twoPow exponent.natAbs, 1)

/-- The product with a power of ten that the format holds. -/
def timesTenPow (x : Binary64) (k : Nat) : Binary64 :=
  match x, ofNat false (tenPow k) with
  | .finite negative m e, .finite _ n f =>
    let (num, den) := ratio (m * n) (e + f)
    ofRatio negative num den
  | _, _ => .nan

/-- The quotient by a power of ten that the format holds. -/
def overTenPow (x : Binary64) (k : Nat) : Binary64 :=
  match x, ofNat false (tenPow k) with
  | .finite negative m e, .finite _ n f =>
    let (num, den) := ratio m (e - f)
    ofRatio negative num (den * n)
  | _, _ => .nan

/-- The whole number nearest to the magnitude of a finite number, a half going up. -/
def magnitude (mantissa : Nat) (exponent : Int) : Nat :=
  let (num, den) := ratio mantissa exponent
  (2 * num + den) / (2 * den)

end Binary64

end AppAdmin
