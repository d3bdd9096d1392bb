import AppAdmin.Number.Decimal

/-!
Keys that lead into tables and lists: `a.b` is the entry `b` of the table `a`, and `a[0]` the first
item of the list `a`. A negative number counts from the end.
-/

namespace AppAdmin.Settings

/-- A step into a table or a list. -/
inductive Step
  | entry (key : String)
  | item (index : Int)
deriving DecidableEq

/-- A key and the steps behind it. -/
structure KeyPath where
  key : String
  steps : List Step
deriving DecidableEq

namespace KeyPath

def isKeyChar (c : Char) : Bool := c.isAlphanum || c == '_' || c == '-'

/-- Reads steps, at most so many. -/
def readSteps? : Nat → List Char → Option (List Step)
  | _, [] => some []
  | 0, _ => none
  | fuel + 1, '.' :: rest =>
    match rest.takeWhile isKeyChar with
    | [] => none
    | key => (readSteps? fuel (rest.dropWhile isKeyChar)).map (.entry (String.ofList key) :: ·)
  | fuel + 1, '[' :: rest =>
    let inner := rest.takeWhile (· != ']')
    match rest.dropWhile (· != ']') with
    | _ :: behind => do
      if inner.head? = some '+' then none
      return .item (← Number.integer64? inner) :: (← readSteps? fuel behind)
    | [] => none
  | _ + 1, _ => none

/-- The key path that a text spells. -/
def parse? (s : List Char) : Option KeyPath :=
  match s.takeWhile isKeyChar with
  | [] => none
  | key => (readSteps? s.length (s.dropWhile isKeyChar)).map (⟨String.ofList key, ·⟩)

/-- The key path of a text; one that spells none is a key as a whole. -/
def ofText (s : String) : KeyPath := (parse? s.toList).getD ⟨s, []⟩

end KeyPath

end AppAdmin.Settings
