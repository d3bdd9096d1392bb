import AppAdmin.Json.Token
import AppAdmin.Proofs.Text.Utf8

/-!
The grammar of JSON, said without the readers. A tree holds everything that a text shows: the blanks,
the spelling of each character and numeral, and the members of a record in their order, repeated
names included. The JSON texts are what the trees are written as.
-/

namespace AppAdmin.Json

open Text.Utf8 (encodeChar)

/-! ### Texts -/

/-- A hexadecimal digit; one that is a letter may be a capital. -/
structure HexDigit where
  value : Fin 16
  capital : Bool

def HexDigit.sign (d : HexDigit) : UInt8 :=
  UInt8.ofNat
    (if d.value.val < 10 then 0x30 + d.value.val
    else (if d.capital then 0x37 else 0x57) + d.value.val)

/-- The characters that an escape of one letter stands for. -/
inductive Letter
  | quote
  | backslash
  | slash
  | backspace
  | formFeed
  | lineFeed
  | carriageReturn
  | tab

namespace Letter

/-- The byte behind the backslash. -/
def sign : Letter → UInt8
  | .quote => 0x22
  | .backslash => 0x5C
  | .slash => 0x2F
  | .backspace => 0x62
  | .formFeed => 0x66
  | .lineFeed => 0x6E
  | .carriageReturn => 0x72
  | .tab => 0x74

def char : Letter → Char
  | .quote => '"'
  | .backslash => '\\'
  | .slash => '/'
  | .backspace => '\x08'
  | .formFeed => '\x0c'
  | .lineFeed => '\n'
  | .carriageReturn => '\r'
  | .tab => '\t'

end Letter

/-- A character that may stand in a text as it is. -/
structure Unescaped (c : Char) : Prop where
  quote : c ≠ '"'
  backslash : c ≠ '\\'
  control : 0x20 ≤ c.toNat

instance (c : Char) : Decidable (Unescaped c) :=
  decidable_of_iff (c ≠ '"' ∧ c ≠ '\\' ∧ 0x20 ≤ c.toNat)
    ⟨fun ⟨quote, backslash, control⟩ => ⟨quote, backslash, control⟩,
      fun ⟨quote, backslash, control⟩ => ⟨quote, backslash, control⟩⟩

/-- One step in the spelling of a text. -/
inductive Glyph
  | plain (c : Char) (unescaped : Unescaped c)
  | letter (l : Letter)
  /-- An escape of four digits, which spell a unit of UTF-16. -/
  | unit (d₁ d₂ d₃ d₄ : HexDigit)

def Glyph.bytes : Glyph → Bytes
  | .plain c _ => encodeChar c
  | .letter l => [0x5C, l.sign]
  | .unit d₁ d₂ d₃ d₄ => [0x5C, 0x75, d₁.sign, d₂.sign, d₃.sign, d₄.sign]

/-- The unit that four digits spell. -/
def unitOf (d₁ d₂ d₃ d₄ : HexDigit) : Nat :=
  ((d₁.value.val * 16 + d₂.value.val) * 16 + d₃.value.val) * 16 + d₄.value.val

/-- The character that the two halves of a surrogate pair stand for. -/
def pairOf (leading trailing : Nat) : Char :=
  Char.ofNat (0x10000 + (leading - 0xD800) * 0x400 + (trailing - 0xDC00))

/-- What stands between the quotes of a text. -/
abbrev Spelling := List Glyph

namespace Spelling

def bytes (s : Spelling) : Bytes := s.flatMap Glyph.bytes

/-- The characters of a spelling. The leading half of a surrogate pair may be waiting for the other
one; no half can stand alone. -/
def charsFrom : Option Nat → Spelling → Option (List Char)
  | none, [] => some []
  | none, .plain c _ :: rest => (charsFrom none rest).map (c :: ·)
  | none, .letter l :: rest => (charsFrom none rest).map (l.char :: ·)
  | none, .unit d₁ d₂ d₃ d₄ :: rest =>
    let n := unitOf d₁ d₂ d₃ d₄
    if isTrailing n then none
    else if isLeading n then charsFrom (some n) rest
    else (charsFrom none rest).map (Char.ofNat n :: ·)
  | some leading, .unit d₁ d₂ d₃ d₄ :: rest =>
    let n := unitOf d₁ d₂ d₃ d₄
    if isTrailing n then (charsFrom none rest).map (pairOf leading n :: ·) else none
  | some _, _ => none

/-- The text of a spelling, if that is well-formed. -/
def text? (s : Spelling) : Option String := (charsFrom none s).map String.ofList

end Spelling

/-! ### Numbers -/

def digitSign (d : Fin 10) : UInt8 := UInt8.ofNat (0x30 + d.val)

/-- One digit or more. -/
structure Digits where
  first : Fin 10
  more : List (Fin 10)

namespace Digits

def toList (d : Digits) : List (Fin 10) := d.first :: d.more

def bytes (d : Digits) : Bytes := d.toList.map digitSign

end Digits

structure Exponent where
  capital : Bool
  /-- The sign, if there is one; `true` stands for a plus. -/
  sign : Option Bool
  digits : Digits

/-- What stands behind the letter of an exponent. -/
def Exponent.tail (e : Exponent) : Bytes :=
  (match e.sign with
    | none => []
    | some true => [0x2B]
    | some false => [0x2D]) ++ e.digits.bytes

def Exponent.bytes (e : Exponent) : Bytes := (if e.capital then 0x45 else 0x65) :: e.tail

/-- A number as it is written. -/
structure Numeral where
  negative : Bool
  whole : Digits
  unpadded : whole.first = 0 → whole.more = []
  fraction : Option Digits
  exponent : Option Exponent

namespace Numeral

def fractionBytes (n : Numeral) : Bytes :=
  match n.fraction with
  | none => []
  | some digits => 0x2E :: digits.bytes

def exponentBytes (n : Numeral) : Bytes :=
  match n.exponent with
  | none => []
  | some e => e.bytes

/-- The numeral behind its sign. -/
def unsigned (n : Numeral) : Bytes := n.whole.bytes ++ (n.fractionBytes ++ n.exponentBytes)

def bytes (n : Numeral) : Bytes := if n.negative then 0x2D :: n.unsigned else n.unsigned

end Numeral

/-! ### Values -/

/-- Blanks between the parts of a text. -/
structure Blanks where
  bytes : Bytes
  blank : ∀ b ∈ bytes, isBlank b = true

def Blanks.none : Blanks := ⟨[], nofun⟩

mutual

/-- A value as it is written. -/
inductive Tree
  | null
  | bool (b : Bool)
  | number (n : Numeral)
  | text (s : Spelling)
  | list (items : Items)
  | record (members : Members)

/-- What stands behind the opening bracket of a list. A comma comes between `gap` and `lead`, but not
in front of the first item. -/
inductive Items
  | close (gap : Blanks)
  | item (gap lead : Blanks) (value : Tree) (rest : Items)

/-- What stands behind the opening bracket of a record. -/
inductive Members
  | close (gap : Blanks)
  | member (gap lead : Blanks) (name : Spelling) (colon space : Blanks) (value : Tree)
      (rest : Members)

end

def commaBytes (first : Bool) : Bytes := if first then [] else [0x2C]

mutual

def Tree.bytes : Tree → Bytes
  | .null => [0x6E, 0x75, 0x6C, 0x6C]
  | .bool true => [0x74, 0x72, 0x75, 0x65]
  | .bool false => [0x66, 0x61, 0x6C, 0x73, 0x65]
  | .number n => n.bytes
  | .text s => 0x22 :: (s.bytes ++ [0x22])
  | .list items => 0x5B :: items.bytes true
  | .record members => 0x7B :: members.bytes true

def Items.bytes (first : Bool) : Items → Bytes
  | .close gap => gap.bytes ++ [0x5D]
  | .item gap lead value rest =>
    gap.bytes ++ (commaBytes first ++ (lead.bytes ++ (value.bytes ++ rest.bytes false)))

def Members.bytes (first : Bool) : Members → Bytes
  | .close gap => gap.bytes ++ [0x7D]
  | .member gap lead name colon space value rest =>
    gap.bytes ++ (commaBytes first ++ (lead.bytes ++ (0x22 :: (name.bytes ++ (0x22 ::
      (colon.bytes ++ (0x3A :: (space.bytes ++ (value.bytes ++ rest.bytes false)))))))))

end

/-- A whole text: a value with blanks around it. -/
structure Script where
  before : Blanks
  value : Tree
  after : Blanks

def Script.bytes (s : Script) : Bytes := s.before.bytes ++ (s.value.bytes ++ s.after.bytes)

/-- The members of a record in order, with their names as they are spelled. -/
def Members.toList : Members → List (Spelling × Tree)
  | .close _ => []
  | .member _ _ name _ _ value rest => (name, value) :: rest.toList

def Items.toList : Items → List Tree
  | .close _ => []
  | .item _ _ value rest => value :: rest.toList

end AppAdmin.Json
