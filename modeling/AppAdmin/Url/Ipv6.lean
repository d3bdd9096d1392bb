import AppAdmin.Number.Decimal
import AppAdmin.Text.Hex
import AppAdmin.Url.Split

/-!
IPv6 addresses: eight groups of hexadecimal digits with colons between them. Two colons stand for
one or more groups of zeros, and the last two groups may be written as four decimal bytes.
-/

namespace AppAdmin.Url

/-- An IPv6 address as its eight groups. -/
structure Ipv6 where
  groups : List UInt16
  eight : groups.length = 8
deriving DecidableEq

namespace Ipv6

/-- The text before the first two colons in a row, and the text behind them if there are any. -/
def cutGap : List Char → List Char × Option (List Char)
  | ':' :: ':' :: rest => ([], some rest)
  | c :: rest =>
    let (before, behind) := cutGap rest
    (c :: before, behind)
  | [] => ([], none)

/-- Reads a group of one to four digits. -/
def group? (s : List Char) : Option UInt16 :=
  if s = [] ∨ 4 < s.length then none
  else (s.mapM Text.hexDigit?).map fun ds => UInt16.ofNat (ds.foldl (fun n d => n * 16 + d) 0)

/-- Reads a decimal byte without needless zeros. -/
def byte? (s : List Char) : Option Nat :=
  if s = [] ∨ 3 < s.length ∨ !s.all Char.isDigit ∨ (s.head? = some '0' ∧ 1 < s.length) then none
  else
    let n := Number.ofDigits s
    if n < 256 then some n else none

/-- Reads four decimal bytes with dots between them as two groups. -/
def dotted? (s : List Char) : Option (List UInt16) :=
  match (pieces (· == '.') s).mapM byte? with
  | some [a, b, c, d] => some [UInt16.ofNat (a * 256 + b), UInt16.ofNat (c * 256 + d)]
  | _ => none

/-- Reads groups; the last one may be dotted if `dots` allows it. -/
def groups? (dots : Bool) : List (List Char) → Option (List UInt16)
  | [] => some []
  | [last] =>
    if dots && last.contains '.' then dotted? last else (group? last).map fun g => [g]
  | first :: rest => do return (← group? first) :: (← groups? dots rest)

/-- Reads a side of the gap, which may be empty. -/
def side? (dots : Bool) (s : List Char) : Option (List UInt16) :=
  if s = [] then some [] else groups? dots (pieces (· == ':') s)

/-- The address with some groups, if they are eight. -/
def ofGroups? (groups : List UInt16) : Option Ipv6 :=
  if h : groups.length = 8 then some ⟨groups, h⟩ else none

/-- Reads an address without its brackets. -/
def parse? (s : List Char) : Option Ipv6 :=
  match cutGap s with
  | (whole, none) => (side? true whole).bind ofGroups?
  | (before, some behind) => do
    let left ← side? false before
    let right ← side? true behind
    if 7 < left.length + right.length then none
    else ofGroups? (left ++ List.replicate (8 - left.length - right.length) 0 ++ right)

/-- The number of zeros in front. -/
def leadingZeros (groups : List UInt16) : Nat := (groups.takeWhile (· == 0)).length

/-- The longest run of zeros, at least two, as its place and length; of equals the first. -/
def longestGap (groups : List UInt16) : Option (Nat × Nat) :=
  (List.range groups.length).foldl (fun best i =>
    let n := leadingZeros (groups.drop i)
    if (best.map (·.2)).getD 1 < n then some (i, n) else best) none

/-- Groups in small hexadecimal digits with colons between them. -/
def groupsText (groups : List UInt16) : List Char :=
  joinPieces ':' (groups.map fun g => Nat.toDigits 16 g.toNat)

/-- The address without brackets, the longest run of zeros left out. -/
def text (a : Ipv6) : List Char :=
  match longestGap a.groups with
  | none => groupsText a.groups
  | some (i, n) => groupsText (a.groups.take i) ++ [':', ':'] ++ groupsText (a.groups.drop (i + n))

end Ipv6

end AppAdmin.Url
