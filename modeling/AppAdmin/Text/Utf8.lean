/-!
UTF-8 as a machine that takes one byte at a time. An ill-formed sequence is cut at its longest
well-formed beginning, so the lossy reading puts one replacement character for each such piece and
the strict reading fails when there is one.
-/

namespace AppAdmin

/-- Bytes as they travel. -/
abbrev Bytes := List UInt8

namespace Text.Utf8

/-- What the reader waits for: a new character, or `left` continuation bytes of which the next one
lies between `low` and `high`, after a beginning worth `value`. -/
inductive Awaiting
  | start
  | more (left value low high : Nat)
deriving DecidableEq

/-- The reader before a character takes its first byte. -/
def first (b : Nat) : List (Option Char) × Awaiting :=
  if b < 0x80 then ([some (Char.ofNat b)], .start)
  else if b < 0xC2 then ([none], .start)
  else if b < 0xE0 then ([], .more 1 (b - 0xC0) 0x80 0xBF)
  else if b = 0xE0 then ([], .more 2 0 0xA0 0xBF)
  else if b = 0xED then ([], .more 2 0xD 0x80 0x9F)
  else if b < 0xF0 then ([], .more 2 (b - 0xE0) 0x80 0xBF)
  else if b = 0xF0 then ([], .more 3 0 0x90 0xBF)
  else if b < 0xF4 then ([], .more 3 (b - 0xF0) 0x80 0xBF)
  else if b = 0xF4 then ([], .more 3 4 0x80 0x8F)
  else ([none], .start)

/-- The reader takes one byte; what it has finished with comes first, ill-formed pieces as `none`. -/
def feed : Awaiting → Nat → List (Option Char) × Awaiting
  | .start, b => first b
  | .more left value low high, b =>
    if low ≤ b ∧ b ≤ high then
      let value := value * 64 + (b - 0x80)
      if left ≤ 1 then ([some (Char.ofNat value)], .start)
      else ([], .more (left - 1) value 0x80 0xBF)
    else
      let (pieces, state) := first b
      (none :: pieces, state)

/-- The pieces of a byte string, with `acc` holding the earlier ones, latest first. -/
def piecesFrom (state : Awaiting) (acc : List (Option Char)) : Bytes → List (Option Char)
  | [] => match state with
    | .start => acc.reverse
    | .more .. => (none :: acc).reverse
  | b :: rest =>
    let (pieces, state) := feed state b.toNat
    piecesFrom state (pieces.reverse ++ acc) rest

/-- The characters of a byte string in order, with `none` for each ill-formed piece. -/
def pieces (bytes : Bytes) : List (Option Char) :=
  piecesFrom .start [] bytes

/-- The text, if the bytes are well-formed UTF-8. -/
def decode? (bytes : Bytes) : Option String :=
  ((pieces bytes).mapM id).map String.ofList

/-- The text with U+FFFD for each ill-formed piece. -/
def decodeLossy (bytes : Bytes) : String :=
  String.ofList ((pieces bytes).map fun piece => piece.getD '\uFFFD')

def encodeChar (c : Char) : Bytes :=
  let n := c.toNat
  let byte (k : Nat) : UInt8 := UInt8.ofNat k
  if n < 0x80 then [byte n]
  else if n < 0x800 then [byte (0xC0 + n / 64), byte (0x80 + n % 64)]
  else if n < 0x10000 then
    [byte (0xE0 + n / 4096), byte (0x80 + n / 64 % 64), byte (0x80 + n % 64)]
  else
    [byte (0xF0 + n / 262144), byte (0x80 + n / 4096 % 64), byte (0x80 + n / 64 % 64),
      byte (0x80 + n % 64)]

def encode (s : String) : Bytes :=
  s.toList.flatMap encodeChar

end Text.Utf8

end AppAdmin
