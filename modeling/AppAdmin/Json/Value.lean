import AppAdmin.Number.Binary64

/-!
JSON values. A number keeps its exact value when it is a whole number of 64 bits and is otherwise a
floating point number.
-/

namespace AppAdmin.Json

/-- A number as its text was read: `negative n` is worth `-n`. -/
inductive Number
  | natural (n : Nat)
  | negative (n : Nat)
  | real (x : Binary64)
deriving DecidableEq, Inhabited

/-- A JSON value; the members of a record keep the order of the text. -/
inductive Value
  | null
  | bool (b : Bool)
  | number (n : Number)
  | text (s : String)
  | list (items : List Value)
  | record (members : List (String × Value))
deriving Inhabited

namespace Value

/-- The member of a name in a list of members; the last one wins. -/
def lookup (name : String) : List (String × Value) → Option Value
  | [] => none
  | (key, value) :: rest => (lookup name rest).or (if key = name then some value else none)

end Value

end AppAdmin.Json
