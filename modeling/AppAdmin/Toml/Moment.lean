import AppAdmin.Number.Decimal

/-!
Points in time: a date, a time of day, or both with an offset if there is one. The usual spelling
has capitals for its marks and no zeros at the end of a fraction.
-/

namespace AppAdmin.Toml

open Number (ofDigits)

/-- Takes a number of so many digits within bounds. -/
def cutDigits? (count low high : Nat) (s : List Char) : Option (List Char × List Char) :=
  let digits := s.take count
  let n := ofDigits digits
  if digits.length = count ∧ digits.all Char.isDigit ∧ low ≤ n ∧ n ≤ high then
    some (digits, s.drop count)
  else none

def cutChar? (c : Char) : List Char → Option (List Char)
  | d :: rest => if d = c then some rest else none
  | [] => none

def daysOf (year month : Nat) : Nat :=
  if month = 2 then
    if year % 4 = 0 ∧ (year % 100 ≠ 0 ∨ year % 400 = 0) then 29 else 28
  else if month = 4 ∨ month = 6 ∨ month = 9 ∨ month = 11 then 30 else 31

def cutDate? (s : List Char) : Option (List Char × List Char) := do
  let (year, s) ← cutDigits? 4 0 9999 s
  let (month, s) ← cutDigits? 2 1 12 (← cutChar? '-' s)
  let (day, s) ← cutDigits? 2 1 (daysOf (ofDigits year) (ofDigits month)) (← cutChar? '-' s)
  return (year ++ '-' :: month ++ '-' :: day, s)

/-- The first nine digits of a fraction without the zeros at their end, one of them at least. -/
def fractionText (digits : List Char) : List Char :=
  let kept := ((digits.take 9).reverse.dropWhile (· == '0')).reverse
  if kept = [] then ['0'] else kept

/-- Takes the seconds of a time, if there are any, with their fraction. -/
def cutSeconds? (s : List Char) : Option (List Char × List Char) :=
  match s with
  | ':' :: s => do
    let (second, s) ← cutDigits? 2 0 60 s
    match s with
    | '.' :: s =>
      let fraction := s.takeWhile Char.isDigit
      if fraction = [] then none
      else return (':' :: second ++ '.' :: fractionText fraction, s.dropWhile Char.isDigit)
    | s => return (':' :: second, s)
  | s => some ([], s)

def cutTime? (s : List Char) : Option (List Char × List Char) := do
  let (hour, s) ← cutDigits? 2 0 23 s
  let (minute, s) ← cutDigits? 2 0 59 (← cutChar? ':' s)
  let (second, s) ← cutSeconds? s
  return (hour ++ ':' :: minute ++ second, s)

/-- Reads an offset, which may be missing. -/
def offset? (s : List Char) : Option (List Char) :=
  match s with
  | [] => some []
  | [c] => if c = 'Z' ∨ c = 'z' then some ['Z'] else none
  | sign :: s => do
    if sign ≠ '+' ∧ sign ≠ '-' then none
    let (hour, s) ← cutDigits? 2 0 23 s
    let (minute, s) ← cutDigits? 2 0 59 (← cutChar? ':' s)
    if s ≠ [] then none
    let sign := if ofDigits hour + ofDigits minute = 0 then '+' else sign
    return sign :: hour ++ ':' :: minute

/-- A point in time in its usual spelling. -/
def moment? (s : List Char) : Option (List Char) :=
  match cutDate? s with
  | some (date, []) => some date
  | some (date, mark :: s) => do
    if mark ≠ 'T' ∧ mark ≠ 't' ∧ mark ≠ ' ' then none
    let (time, s) ← cutTime? s
    return date ++ 'T' :: time ++ (← offset? s)
  | none => match cutTime? s with
    | some (time, []) => some time
    | _ => none

end AppAdmin.Toml
