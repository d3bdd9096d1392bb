import AppAdmin.Url.Idna.Label
import AppAdmin.Url.Idna.Punycode
import AppAdmin.Url.Split

/-!
International host names in ASCII: each label that needs it is written in an escaped form. Labels
may be of any length, and hyphens may stand anywhere.
-/

namespace AppAdmin.Url.Idna

/-- The ASCII characters that no host name may have. -/
def isForbidden (c : Char) : Bool :=
  c.toNat ≤ 0x20 || c.toNat == 0x7F || "%#/:<>?@[\\]^|".toList.contains c

/-- What begins a label in escaped form. -/
def escapeMark : List Char := ['x', 'n', '-', '-']

/-- The longest label that is escaped, and the longest escaped form that is read. -/
def longestLabel : Nat × Nat := (1000, 2000)

/-- A label with its ASCII form. -/
structure Label where
  text : List Char
  ascii : List Char

/-- The label that a text stands for, if it is one. -/
def Label.ofText? (s : List Char) : Option Label :=
  if escapeMark.isPrefixOf s then do
    let escaped := s.drop escapeMark.length
    if longestLabel.2 < escaped.length then none
    let text ← Punycode.decode? escaped
    if isEscapable text && isWellFormed text then some ⟨text, s⟩ else none
  else if s.all (·.toNat < 0x80) then some ⟨s, s⟩
  else if isWellFormed s && s.length ≤ longestLabel.1 then
    some ⟨s, escapeMark ++ Punycode.encode s⟩
  else none

def labels? (s : List Char) : Option (List Label) := do
  let mapped ← s.mapM mapChar
  let composed := compose mapped.flatten
  if composed.any isForbidden then none
  (pieces (· == '.') composed).mapM Label.ofText?

/-- The ASCII form of a host name. If anything in it is written from right to left, all its labels
must keep to their directions. -/
def toAscii? (s : List Char) : Option (List Char) := do
  let labels ← labels? s
  if labels.any (fun label => label.text.any isRightToLeft)
      && !labels.all (fun label => keepsDirection label.text) then none
  return joinPieces '.' (labels.map (·.ascii))

end AppAdmin.Url.Idna
