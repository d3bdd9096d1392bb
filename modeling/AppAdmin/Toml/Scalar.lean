import AppAdmin.Number.Binary64
import AppAdmin.Text.Hex
import AppAdmin.Toml.Moment

/-!
The values of a TOML document, and the reading of those that are a single word: truth values, numbers
and points in time.
-/

namespace AppAdmin.Toml

/-- A value. Points in time are kept as text. -/
inductive Value
  | text (s : String)
  | integer (n : Int)
  | real (x : Binary64)
  | bool (b : Bool)
  | moment (s : String)
  | list (items : List Value)
  | table (entries : List (String × Value))
deriving Inhabited

/-- Digits without the underscores, each of which must stand between two of them. -/
def plainDigits? (isDigit : Char → Bool) (s : List Char) : Option (List Char) :=
  match s with
  | [] => none
  | [d] => if isDigit d then some [d] else none
  | d :: '_' :: rest =>
    if isDigit d then (plainDigits? isDigit rest).map (d :: ·) else none
  | d :: rest => if isDigit d then (plainDigits? isDigit rest).map (d :: ·) else none

/-- Whole digits, which have no needless zero in front. -/
def wholeDigits? (s : List Char) : Option (List Char) :=
  (plainDigits? Char.isDigit s).filter fun digits => digits.length = 1 || digits.head? != some '0'

/-- A whole number to a base. -/
def based? (base : Nat) (s : List Char) : Option Value := do
  let isDigit (c : Char) : Bool := (Text.hexDigit? c).any (· < base)
  let digits ← plainDigits? isDigit s
  let n := digits.foldl (fun n c => n * base + (Text.hexDigit? c).getD 0) 0
  if Number.isInteger64 n then some (.integer n) else none

/-- The exponent of a number, if its mark follows. -/
def exponent? : List Char → Option Int
  | [] => some 0
  | c :: s =>
    if c = 'e' ∨ c = 'E' then
      let (negative, s) := Number.cutSign s
      (plainDigits? Char.isDigit s).map fun digits =>
        if negative then -(Number.ofDigits digits : Int) else Number.ofDigits digits
    else none

/-- A whole number in decimal digits. -/
def integer? (negative : Bool) (digits : List Char) : Option Value :=
  let n : Int := Number.ofDigits digits
  let n := if negative then -n else n
  if Number.isInteger64 n then some (.integer n) else none

/-- The characters that digits are written in. -/
def isDigitPart (c : Char) : Bool := c.isDigit || c == '_'

/-- The digits behind a point, if it follows, and the rest. -/
def cutFraction? (s : List Char) : Option (List Char × List Char) :=
  match s with
  | '.' :: rest =>
    (plainDigits? Char.isDigit (rest.takeWhile isDigitPart)).map (·, rest.dropWhile isDigitPart)
  | s => some ([], s)

/-- A decimal number. With a point or an exponent it is a floating point number, which must not be
too large. -/
def decimal? (negative : Bool) (s : List Char) : Option Value := do
  let whole ← wholeDigits? (s.takeWhile isDigitPart)
  let rest := s.dropWhile isDigitPart
  if rest = [] then integer? negative whole
  else
    let (fraction, rest) ← cutFraction? rest
    let exponent ← exponent? rest
    let x := Binary64.ofDecimal negative (Number.ofDigits (whole ++ fraction))
      (exponent - fraction.length)
    if x.isFinite then some (.real x) else none

def number? (s : List Char) : Option Value :=
  match s with
  | '0' :: 'x' :: rest => based? 16 rest
  | '0' :: 'o' :: rest => based? 8 rest
  | '0' :: 'b' :: rest => based? 2 rest
  | _ =>
    let (negative, s) := Number.cutSign s
    if s = "inf".toList then some (.real (.infinite negative))
    else if s = "nan".toList then some (.real .nan)
    else decimal? negative s

def scalar? (s : List Char) : Option Value :=
  if s = "true".toList then some (.bool true)
  else if s = "false".toList then some (.bool false)
  else match moment? s with
    | some m => some (.moment (String.ofList m))
    | none => number? s

def isWordChar (c : Char) : Bool :=
  c.isAlphanum || c == '+' || c == '-' || c == '.' || c == ':' || c == '_'

/-- Takes a word. A date may have a blank before its time. -/
def cutWord (s : List Char) : List Char × List Char :=
  let word := s.takeWhile isWordChar
  let rest := s.dropWhile isWordChar
  match cutDate? word, rest with
  | some (_, []), ' ' :: c :: behind =>
    if c.isDigit then
      (word ++ ' ' :: c :: behind.takeWhile isWordChar, behind.dropWhile isWordChar)
    else (word, rest)
  | _, _ => (word, rest)

/-- Reads a value that is a word. -/
def readScalar? (s : List Char) : Option (Value × List Char) :=
  let (word, rest) := cutWord s
  (scalar? word).map (·, rest)

end AppAdmin.Toml
