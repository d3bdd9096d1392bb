import AppAdmin.Text.Hex
import AppAdmin.Text.Utf8

/-!
Percent escapes. Each part of a URL has its own set of characters that must be escaped; the sets
grow from the fragment, where almost everything may stand, to the user name.
-/

namespace AppAdmin.Url

/-- Controls, and all characters beyond ASCII. -/
def isControl (c : Char) : Bool := c.toNat < 0x20 || 0x7F ≤ c.toNat

/-- The characters that are escaped in a fragment. -/
def escapedInFragment (c : Char) : Bool :=
  isControl c || c == ' ' || c == '"' || c == '<' || c == '>' || c == '\x60'

/-- The characters that are escaped in a query; the schemes of the web escape the apostrophe too. -/
def escapedInQuery (special : Bool) (c : Char) : Bool :=
  isControl c || c == ' ' || c == '"' || c == '#' || c == '<' || c == '>'
    || special && c == '\''

/-- The characters that are escaped in a path. -/
def escapedInPath (c : Char) : Bool :=
  escapedInFragment c || c == '#' || c == '?' || c == '\x7b' || c == '\x7d'

/-- The characters that are escaped in a user name or password. -/
def escapedInUserinfo (c : Char) : Bool :=
  escapedInPath c || c == '/' || c == ':' || c == ';' || c == '=' || c == '@' || c == '['
    || c == '\\' || c == ']' || c == '^' || c == '|'

/-- A byte as a percent sign with two hexadecimal digits. -/
def percentByte (b : UInt8) : List Char :=
  ['%', Text.upperHexDigit (b.toNat / 16), Text.upperHexDigit (b.toNat % 16)]

/-- A character, escaped if it is in the set. -/
def percentChar (escaped : Char → Bool) (c : Char) : List Char :=
  if escaped c then (Text.Utf8.encodeChar c).flatMap percentByte else [c]

/-- A text with the characters of a set escaped. -/
def percentEncode (escaped : Char → Bool) (s : List Char) : List Char :=
  s.flatMap (percentChar escaped)

theorem percentEncode_append (escaped : Char → Bool) (s t : List Char) :
    percentEncode escaped (s ++ t) = percentEncode escaped s ++ percentEncode escaped t := by
  simp [percentEncode]

/-- The byte that two hexadecimal digits spell. -/
def escapedByte? (high low : UInt8) : Option UInt8 := do
  let h ← Text.hexDigit? (Char.ofNat high.toNat)
  let l ← Text.hexDigit? (Char.ofNat low.toNat)
  return UInt8.ofNat (h * 16 + l)

/-- Bytes with the escapes replaced. A percent sign without two digits stands for itself. -/
def percentDecode : Bytes → Bytes
  | a :: b :: c :: rest =>
    if a = 0x25 then
      match escapedByte? b c with
      | some byte => byte :: percentDecode rest
      | none => a :: percentDecode (b :: c :: rest)
    else a :: percentDecode (b :: c :: rest)
  | bytes => bytes

end AppAdmin.Url
