import AppAdmin.Number.Binary64

/-!
Reading decimal text as numbers. A whole number may have a sign; a floating point number may also
have a point and an exponent, or be spelled as a word.
-/

namespace AppAdmin.Number

def ofDigits (s : List Char) : Nat := s.foldl (fun n c => n * 10 + (c.toNat - 0x30)) 0

/-- Digits and nothing else, at least one. -/
def digits? (s : List Char) : Option Nat :=
  if s ≠ [] ∧ s.all Char.isDigit then some (ofDigits s) else none

/-- Takes a sign; `true` stands for a minus. -/
def cutSign : List Char → Bool × List Char
  | '-' :: rest => (true, rest)
  | '+' :: rest => (false, rest)
  | s => (false, s)

/-- A whole number with a sign if there is one. -/
def integer? (s : List Char) : Option Int :=
  let (negative, s) := cutSign s
  (digits? s).map fun n => if negative then -(n : Int) else n

/-- A whole number of 64 bits. -/
def integer64? (s : List Char) : Option Int :=
  (integer? s).filter isInteger64

/-- A whole number of 64 bits without a minus. -/
def natural64? (s : List Char) : Option Nat :=
  match s with
  | '+' :: rest => (digits? rest).filter (· ≤ maxNatural64)
  | s => (digits? s).filter (· ≤ maxNatural64)

/-- An exponent, if its mark follows; nothing may follow it. -/
def exponent? : List Char → Option Int
  | [] => some 0
  | c :: rest => if c = 'e' ∨ c = 'E' then integer? rest else none

/-- Digits with a point and an exponent, both of which may be missing. -/
def decimal? (negative : Bool) (s : List Char) : Option Binary64 := do
  let whole := s.takeWhile Char.isDigit
  let (fraction, rest) := match s.dropWhile Char.isDigit with
    | '.' :: rest => (rest.takeWhile Char.isDigit, rest.dropWhile Char.isDigit)
    | rest => ([], rest)
  if whole = [] ∧ fraction = [] then none
  let exponent ← exponent? rest
  return .ofDecimal negative (ofDigits (whole ++ fraction)) (exponent - fraction.length)

/-- A floating point number; the words for the infinite and the undefined may be in any case. -/
def real? (s : List Char) : Option Binary64 :=
  let (negative, s) := cutSign s
  let word := String.ofList (s.map Char.toLower)
  if word = "inf" ∨ word = "infinity" then some (.infinite negative)
  else if word = "nan" then some .nan
  else decimal? negative s

end AppAdmin.Number
