import AppAdmin.Number.Decimal
import AppAdmin.Number.Shortest
import AppAdmin.Settings.Tree
import AppAdmin.Text.Ascii
import AppAdmin.Text.Outline

/-!
Settings read as fields of a type. Most values can be read as a text, and many as a number; the
others are refused with what was found and what was expected.
-/

namespace AppAdmin.Settings

/-- A setting that cannot be read as its field. -/
structure Mismatch where
  found : String
  expected : String
  key : String
  /-- The source of the setting, unless it is a table. -/
  source : Option String
deriving DecidableEq

def Mismatch.message (m : Mismatch) : String :=
  "invalid type: " ++ m.found ++ ", expected " ++ m.expected ++ " for key `" ++ m.key ++ "`"
    ++ match m.source with
      | some source => " in " ++ source
      | none => ""

/-- A whole number in decimal digits. -/
def integerText (n : Int) : String :=
  (if n < 0 then "-" else "") ++ String.ofList (Nat.toDigits 10 n.natAbs)

namespace Field

/-- The name of a setting's shape, where it is all that counts. -/
def shape : Tree → String
  | .table _ => "map"
  | .list .. => "sequence"
  | .leaf _ .null => "unit value"
  | .leaf _ (.integer n) => "64-bit integer `" ++ integerText n ++ "`"
  | .leaf _ (.text s) => "string " ++ Text.quoted s
  | .leaf _ (.bool b) => "boolean `" ++ (if b then "true" else "false") ++ "`"
  | .leaf _ (.real x) => "floating point `" ++ x.plainText ++ "`"

def source : Tree → Option String
  | .table _ => none
  | .list source _ | .leaf source _ => source

/-- The complaint about a setting. -/
def mismatch (key expected : String) (t : Tree) : Mismatch := ⟨shape t, expected, key, source t⟩

def text (key : String) (t : Tree) : Except Mismatch String :=
  match t with
  | .leaf _ (.text s) => .ok s
  | .leaf _ (.bool b) => .ok (if b then "true" else "false")
  | .leaf _ (.integer n) => .ok (integerText n)
  | .leaf _ (.real x) => .ok x.plainText
  | t => .error (mismatch key "a string" t)

/-- The number of a text: a word for yes or no, or digits. -/
def numberOfText? (s : String) : Option Nat :=
  let word := Text.lowered s
  if word = "true" ∨ word = "on" ∨ word = "yes" then some 1
  else if word = "false" ∨ word = "off" ∨ word = "no" then some 0
  else Number.natural64? s.toList

/-- The number of a floating point number: the nearest one of the field, a half going up. -/
def numberOfReal : Binary64 → Nat
  | .nan => 0
  | .infinite negative => if negative then 0 else Number.maxNatural64
  | .finite negative m e => if negative then 0 else min Number.maxNatural64 (Binary64.magnitude m e)

/-- A setting as a number of 64 bits without sign. -/
def number (key : String) (t : Tree) : Except Mismatch Nat :=
  match t with
  | .leaf _ (.integer n) =>
    if 0 ≤ n then .ok n.toNat
    else .error (mismatch key "an unsigned 64 bit or less integer" t)
  | .leaf _ (.bool b) => .ok (if b then 1 else 0)
  | .leaf _ (.real x) => .ok (numberOfReal x)
  | .leaf _ (.text s) => match numberOfText? s with
    | some n => .ok n
    | none => .error (mismatch key "an integer" t)
  | t => .error (mismatch key "an integer" t)

end Field

end AppAdmin.Settings
