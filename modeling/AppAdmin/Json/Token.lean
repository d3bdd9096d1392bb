import AppAdmin.Json.Fault

/-!
The smallest parts of a JSON text: blanks, words, numbers and texts. Each reader takes its part
from the front of the input and answers what is left.
-/

namespace AppAdmin.Json

/-- The four blanks of JSON. -/
def isBlank (b : UInt8) : Bool :=
  b == 0x20 || b == 0x0A || b == 0x09 || b == 0x0D

def skipBlank (s : Bytes) : Bytes := s.dropWhile isBlank

/-- Whether a byte is a decimal digit. -/
def isDigit (b : UInt8) : Bool := 0x30 ≤ b && b ≤ 0x39

def digitValue (b : UInt8) : Nat := b.toNat - 0x30

/-- Takes the letters of a word. -/
def readWord : Bytes → Bytes → Except Fault Bytes
  | [], s => .ok s
  | _ :: _, [] => .error ⟨.endInValue, []⟩
  | w :: word, b :: rest => if b = w then readWord word rest else .error ⟨.wordExpected, rest⟩

/-- The largest exponent that is read as a number. -/
def maxExponent : Nat := 2147483647

/-- Appends digits to a whole number as long as it stays within 64 bits, and counts those left. -/
def gather : Nat → Bytes → Nat × Nat
  | n, [] => (n, 0)
  | n, d :: rest =>
    if Number.maxNatural64 < n * 10 + digitValue d then (n, rest.length + 1)
    else gather (n * 10 + digitValue d) rest

/-- Brings a significand and a power of ten together in steps that the format holds: factors up to
`10 ^ 308`, each rounded. `none` when the result is too large. -/
def scale (x : Binary64) (exponent : Int) : Option Binary64 :=
  if exponent.natAbs ≤ 308 then
    if 0 ≤ exponent then
      let y := x.timesTenPow exponent.natAbs
      if y.isFinite then some y else none
    else some (x.overTenPow exponent.natAbs)
  else if x.isZero then some x
  else if 0 ≤ exponent then none
  else scale (x.overTenPow 308) (exponent + 308)
termination_by exponent.natAbs
decreasing_by omega

/-- Finishes a floating point number. -/
def finishReal (negative : Bool) (significand : Nat) (exponent : Int) (rest : Bytes) :
    Except Fault (Number × Bytes) :=
  match scale (Binary64.ofNat false significand) exponent with
  | some x => .ok (.real (if negative then x.negate else x), rest)
  | none => .error ⟨.numberOutOfRange, rest⟩

/-- Reads the digits of an exponent behind its first one. A number that is not zero overflows with
a positive exponent beyond all bounds, and vanishes with a negative one. -/
def readExponentDigits (negative : Bool) (significand : Nat) (start : Int) (positive : Bool) :
    Nat → Bytes → Except Fault (Number × Bytes)
  | e, [] => finishReal negative significand (if positive then start + e else start - e) []
  | e, b :: rest =>
    if isDigit b then
      if maxExponent < e * 10 + digitValue b then
        if significand ≠ 0 ∧ positive then .error ⟨.numberOutOfRange, rest⟩
        else .ok (.real (Binary64.zero negative), rest.dropWhile isDigit)
      else readExponentDigits negative significand start positive (e * 10 + digitValue b) rest
    else finishReal negative significand (if positive then start + e else start - e) (b :: rest)

/-- Takes the sign of an exponent; `true` stands for a positive one. -/
def readExponentSign : Bytes → Bool × Bytes
  | [] => (true, [])
  | b :: rest =>
    if b = 0x2B then (true, rest) else if b = 0x2D then (false, rest) else (true, b :: rest)

/-- Reads an exponent whose letter has been taken. -/
def readExponent (negative : Bool) (significand : Nat) (start : Int) (s : Bytes) :
    Except Fault (Number × Bytes) :=
  match readExponentSign s with
  | (_, []) => .error ⟨.endInValue, []⟩
  | (positive, b :: rest) =>
    if isDigit b then
      readExponentDigits negative significand start positive (digitValue b) rest
    else .error ⟨.invalidNumber, rest⟩

/-- Whether a byte is the letter of an exponent. -/
def isExponentMark (b : UInt8) : Bool := b == 0x65 || b == 0x45

/-- Reads an exponent if one follows. -/
def readExponentIfAny (negative : Bool) (significand : Nat) (start : Int) :
    Bytes → Except Fault (Number × Bytes)
  | [] => finishReal negative significand start []
  | b :: rest =>
    if isExponentMark b then readExponent negative significand start rest
    else finishReal negative significand start (b :: rest)

/-- Reads the digits behind a point. Those that do not fit the significand are dropped. -/
def readFraction (negative : Bool) (significand : Nat) (start : Int) (s : Bytes) :
    Except Fault (Number × Bytes) :=
  let digits := s.takeWhile isDigit
  let rest := s.dropWhile isDigit
  match digits, rest with
  | [], [] => .error ⟨.endInValue, []⟩
  | [], _ :: after => .error ⟨.invalidNumber, after⟩
  | _ :: _, _ =>
    let (significand, left) := gather significand digits
    readExponentIfAny negative significand (start - (digits.length - left : Nat)) rest

/-- Finishes a number whose whole digits have been read, `left` of them not fitting. -/
def finishNumber (negative : Bool) (significand left : Nat) (s : Bytes) :
    Except Fault (Number × Bytes) :=
  let whole : Except Fault (Number × Bytes) :=
    if left ≠ 0 then finishReal negative significand left s
    else if !negative then .ok (.natural significand, s)
    else if significand = 0 ∨ !Number.isInteger64 (-significand) then
      .ok (.real (Binary64.ofNat true significand), s)
    else .ok (.negative significand, s)
  match s with
  | [] => whole
  | b :: rest =>
    if b = 0x2E then readFraction negative significand left rest
    else if isExponentMark b then readExponent negative significand left rest
    else whole

/-- Reads a number whose sign has been taken. -/
def readNumber (negative : Bool) : Bytes → Except Fault (Number × Bytes)
  | [] => .error ⟨.endInValue, []⟩
  | b :: rest =>
    if b = 0x30 then
      match rest with
      | [] => finishNumber negative 0 0 []
      | c :: after =>
        if isDigit c then .error ⟨.invalidNumber, after⟩ else finishNumber negative 0 0 rest
    else if isDigit b then
      let (significand, left) := gather (digitValue b) (rest.takeWhile isDigit)
      finishNumber negative significand left (rest.dropWhile isDigit)
    else .error ⟨.invalidNumber, rest⟩

/-- The value of four hexadecimal digits. -/
def hexUnit? (a b c d : UInt8) : Option Nat := do
  let digit (x : UInt8) : Option Nat := Text.hexDigit? (Char.ofNat x.toNat)
  return (((← digit a) * 16 + (← digit b)) * 16 + (← digit c)) * 16 + (← digit d)

/-- The byte that a one-letter escape stands for. -/
def simpleEscape? (b : UInt8) : Option UInt8 :=
  if b = 0x22 ∨ b = 0x5C ∨ b = 0x2F then some b
  else if b = 0x62 then some 0x08
  else if b = 0x66 then some 0x0C
  else if b = 0x6E then some 0x0A
  else if b = 0x72 then some 0x0D
  else if b = 0x74 then some 0x09
  else none

/-- The first and the second half of a surrogate pair. -/
def isLeading (n : Nat) : Bool := 0xD800 ≤ n && n < 0xDC00

/-- The second half of a surrogate pair. -/
def isTrailing (n : Nat) : Bool := 0xDC00 ≤ n && n < 0xE000

/-- The bytes of the character with a code point, in front of bytes already read in reverse. -/
def pushCodePoint (n : Nat) (acc : Bytes) : Bytes :=
  (Text.Utf8.encodeChar (Char.ofNat n)).reverse ++ acc

/-- Reads the rest of a text whose opening quote has been taken. The bytes read so far are in `acc`,
latest first. -/
def readTextFrom (acc : Bytes) : Bytes → Except Fault (Bytes × Bytes)
  | [] => .error ⟨.endInText, []⟩
  | b :: rest =>
    if b = 0x22 then .ok (acc.reverse, rest)
    else if b = 0x5C then
      match rest with
      | [] => .error ⟨.endInText, []⟩
      | e :: rest =>
        if e = 0x75 then
          match rest with
          | h₁ :: h₂ :: h₃ :: h₄ :: rest =>
            match hexUnit? h₁ h₂ h₃ h₄ with
            | none => .error ⟨.invalidEscape, rest⟩
            | some n =>
              if isTrailing n then .error ⟨.loneSurrogate, rest⟩
              else if isLeading n then
                match rest with
                | [] => .error ⟨.endInText, []⟩
                | c₁ :: rest =>
                  if c₁ ≠ 0x5C then .error ⟨.unfinishedHexEscape, rest⟩
                  else match rest with
                  | [] => .error ⟨.endInText, []⟩
                  | c₂ :: rest =>
                    if c₂ ≠ 0x75 then .error ⟨.unfinishedHexEscape, rest⟩
                    else match rest with
                    | l₁ :: l₂ :: l₃ :: l₄ :: rest =>
                      match hexUnit? l₁ l₂ l₃ l₄ with
                      | none => .error ⟨.invalidEscape, rest⟩
                      | some m =>
                        if isTrailing m then
                          readTextFrom (pushCodePoint
                            (0x10000 + (n - 0xD800) * 0x400 + (m - 0xDC00)) acc) rest
                        else .error ⟨.loneSurrogate, rest⟩
                    | _ => .error ⟨.endInText, []⟩
              else readTextFrom (pushCodePoint n acc) rest
          | _ => .error ⟨.endInText, []⟩
        else match simpleEscape? e with
          | some c => readTextFrom (c :: acc) rest
          | none => .error ⟨.invalidEscape, rest⟩
    else if b < 0x20 then .error ⟨.controlCharacter, rest⟩
    else readTextFrom (b :: acc) rest

/-- Reads the rest of a text whose opening quote has been taken; its bytes must be UTF-8, which is
found out before the closing quote is taken. -/
def readText (s : Bytes) : Except Fault (String × Bytes) :=
  match readTextFrom [] s with
  | .error fault => .error fault
  | .ok (bytes, rest) => match Text.Utf8.decode? bytes with
    | some text => .ok (text, rest)
    | none => .error ⟨.invalidCodePoint, 0x22 :: rest⟩

end AppAdmin.Json
