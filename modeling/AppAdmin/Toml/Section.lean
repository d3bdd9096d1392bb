import AppAdmin.Toml.Scalar

/-!
Tables while a document is read. A table may come into being by a header, by dotted keys, or because
it lies on the way to another, and this decides how it may be added to later.
-/

namespace AppAdmin.Toml.Section

/-- How a table came into being. -/
inductive Origin
  /-- It lies on the way that a header names. -/
  | implied
  /-- Dotted keys lead through it. -/
  | dotted
  /-- A header names it. -/
  | declared
deriving DecidableEq

/-- What a key stands for. -/
inductive Node
  | value (v : Value)
  | table (origin : Origin) (entries : List (String × Node))
  /-- A list of tables; the last one is still open. -/
  | tables (done : List (List (String × Node))) (last : List (String × Node))
deriving Inhabited

/-- The entries of a table. -/
abbrev Entries := List (String × Node)

/-- What a key stands for, if it is there. -/
def find? (key : String) (entries : Entries) : Option Node :=
  (entries.find? (·.1 == key)).map (·.2)

/-- Gives a key a new meaning. -/
def put (key : String) (node : Node) : Entries → Entries
  | [] => [(key, node)]
  | (k, old) :: rest => if k = key then (k, node) :: rest else (k, old) :: put key node rest

/-- Changes the table that keys lead to. Headers pass through all tables, and through the last one of
a list; dotted keys pass only through tables that no header names. -/
def changeAt (dotted : Bool) (change : Entries → Option Entries) :
    List String → Entries → Option Entries
  | [], entries => change entries
  | key :: keys, entries => match find? key entries with
    | none => do
      let inner ← changeAt dotted change keys []
      return put key (.table (if dotted then .dotted else .implied) inner) entries
    | some (.table origin inner) =>
      if dotted ∧ origin = .declared then none
      else do return put key (.table origin (← changeAt dotted change keys inner)) entries
    | some (.tables done last) =>
      if dotted then none
      else do return put key (.tables done (← changeAt dotted change keys last)) entries
    | some (.value _) => none

/-- Changes what the last of some keys stands for. -/
def changeLast (dotted : Bool) (change : Option Node → Option Node) (keys : List String)
    (entries : Entries) : Option Entries :=
  match keys.reverse with
  | [] => none
  | last :: before =>
    changeAt dotted (fun inner => do return put last (← change (find? last inner)) inner)
      before.reverse entries

/-- Begins a table. -/
def declare (keys : List String) (entries : Entries) : Option Entries :=
  changeLast false (fun
    | none => some (.table .declared [])
    | some (.table .implied inner) => some (.table .declared inner)
    | some _ => none) keys entries

/-- Begins the next table of a list. -/
def declareItem (keys : List String) (entries : Entries) : Option Entries :=
  changeLast false (fun
    | none => some (.tables [] [])
    | some (.tables done last) => some (.tables (done ++ [last]) [])
    | some _ => none) keys entries

/-- Gives a new key a value. -/
def assign (keys : List String) (value : Value) (entries : Entries) : Option Entries :=
  changeLast true (fun
    | none => some (.value value)
    | some _ => none) keys entries

mutual

def Node.toValue : Node → Value
  | .value v => v
  | .table _ entries => .table (toEntries entries)
  | .tables done last => .list (toTables done ++ [.table (toEntries last)])

def toEntries : List (String × Node) → List (String × Value)
  | [] => []
  | (key, node) :: rest => (key, node.toValue) :: toEntries rest

def toTables : List (List (String × Node)) → List Value
  | [] => []
  | entries :: rest => .table (toEntries entries) :: toTables rest

end

end AppAdmin.Toml.Section
