import AppAdmin.Text.Hex

/-!
Sets of code points written down as text: hexadecimal ranges such as `AD` or `300-36F` with a blank
between two of them. Tables of character properties are kept in this form.
-/

namespace AppAdmin.Text

/-- A set of code points, each range with both its ends. -/
structure CodePoints where
  ranges : Array (Nat × Nat)

namespace CodePoints

def readRange (s : String) : Nat × Nat :=
  let low := s.toList.takeWhile (· != '-')
  match s.toList.dropWhile (· != '-') with
  | _ :: high => (hexNumber low, hexNumber high)
  | [] => (hexNumber low, hexNumber low)

/-- Reads lines of ranges. -/
def ofLines (lines : List String) : CodePoints :=
  ⟨(lines.flatMap fun line => (line.splitOn " ").map readRange).toArray⟩

/-- Whether a code point lies in one of the ranges. -/
def contains (set : CodePoints) (n : Nat) : Bool :=
  set.ranges.any fun (low, high) => low ≤ n && n ≤ high

end CodePoints

end AppAdmin.Text
