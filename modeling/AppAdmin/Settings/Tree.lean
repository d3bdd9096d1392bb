import AppAdmin.Json.Value
import AppAdmin.Settings.KeyPath
import AppAdmin.Toml.Scalar

/-!
Settings before it is known what they are for: a tree of tables and lists. Trees from several
sources are laid over each other; tables are merged, and all else is replaced.
-/

namespace AppAdmin.Settings

/-- A value without parts. -/
inductive Scalar
  | null
  | bool (b : Bool)
  | integer (n : Int)
  | real (x : Binary64)
  | text (s : String)
deriving DecidableEq

/-- A setting, with the source that it is from. A table is from no source of its own. -/
inductive Tree
  | leaf (source : Option String) (value : Scalar)
  | list (source : Option String) (items : List Tree)
  | table (entries : List (String × Tree))
deriving Inhabited

/-- Entries of which no two have the same key. -/
def Distinct {α : Type} (es : List (String × α)) : Prop := (es.map Prod.fst).Nodup

instance {α : Type} (es : List (String × α)) : Decidable (Distinct es) :=
  inferInstanceAs (Decidable (es.map Prod.fst).Nodup)

namespace Tree

/-- The setting before anything is known of it. -/
def absent : Tree := .leaf none .null

/-- The entries of a table; other settings have none. -/
def entries : Tree → List (String × Tree)
  | .table es => es
  | _ => []

/-- The items of a list with its source; other settings have none. -/
def items : Tree → Option String × List Tree
  | .list source ts => (source, ts)
  | _ => (none, [])

def find? (key : String) (es : List (String × Tree)) : Option Tree :=
  (es.find? (·.1 == key)).map (·.2)

def change (key : String) (f : Tree → Tree) : List (String × Tree) → List (String × Tree)
  | [] => [(key, f absent)]
  | (k, t) :: rest => if k = key then (k, f t) :: rest else (k, t) :: change key f rest

mutual

/-- Lays a setting over another. -/
def cover : Tree → Tree → Tree
  | .table es, below => .table (coverAll es below.entries)
  | t, _ => t

/-- Lays entries over others. -/
def coverAll : List (String × Tree) → List (String × Tree) → List (String × Tree)
  | [], below => below
  | (key, t) :: rest, below => coverAll rest (change key (cover t) below)

end

/-- Changes an item of a list, which grows at the end or in front if it has no such item. -/
def changeItem (index : Int) (f : Tree → Tree) (ts : List Tree) : List Tree :=
  if 0 ≤ index then
    let i := index.toNat
    if i < ts.length then ts.take i ++ f (ts.getD i absent) :: ts.drop (i + 1)
    else ts ++ List.replicate (i - ts.length) absent ++ [f absent]
  else
    let back := index.natAbs
    if back ≤ ts.length then
      let i := ts.length - back
      ts.take i ++ f (ts.getD i absent) :: ts.drop (i + 1)
    else f absent :: List.replicate (back - ts.length - 1) absent ++ ts

/-- Changes what steps lead to, turning settings on the way into tables and lists. -/
def changeAt (f : Tree → Tree) : List Step → Tree → Tree
  | [], t => f t
  | .entry key :: steps, t => .table (change key (changeAt f steps) t.entries)
  | .item index :: steps, t =>
    .list t.items.1 (changeItem index (changeAt f steps) t.items.2)

/-- Lays settings of key paths over a table, one after the other. -/
def layer (below : List (String × Tree)) (above : List (String × Tree)) : List (String × Tree) :=
  above.foldl (fun es (key, t) =>
    let path := KeyPath.ofText key
    change path.key (changeAt (cover t) path.steps) es) below

/-- A whole number, which is not kept exactly beyond 64 bits with a sign. -/
def ofInteger (n : Int) : Scalar :=
  if Number.isInteger64 n then .integer n else .real (.ofNat (decide (n < 0)) n.natAbs)

def ofNumber : Json.Number → Scalar
  | .natural n => ofInteger n
  | .negative n => ofInteger (-n)
  | .real x => .real x

mutual

def ofJson (source : String) : Json.Value → Tree
  | .null => .leaf source .null
  | .bool b => .leaf source (.bool b)
  | .number n => .leaf source (ofNumber n)
  | .text s => .leaf source (.text s)
  | .list items => .list source (ofJsonItems source items)
  | .record members => .table (ofJsonMembers source members)

def ofJsonItems (source : String) : List Json.Value → List Tree
  | [] => []
  | v :: rest => ofJson source v :: ofJsonItems source rest

/-- Settings of a record in JSON; of members with one name the last counts. -/
def ofJsonMembers (source : String) : List (String × Json.Value) → List (String × Tree)
  | [] => []
  | (key, v) :: rest =>
    let more := ofJsonMembers source rest
    if (find? key more).isSome then more else (key, ofJson source v) :: more

end

mutual

def ofToml (source : String) : Toml.Value → Tree
  | .text s => .leaf source (.text s)
  | .integer n => .leaf source (.integer n)
  | .real x => .leaf source (.real x)
  | .bool b => .leaf source (.bool b)
  | .moment s => .leaf source (.text s)
  | .list items => .list source (ofTomlItems source items)
  | .table es => .table (ofTomlEntries source es)

def ofTomlItems (source : String) : List Toml.Value → List Tree
  | [] => []
  | v :: rest => ofToml source v :: ofTomlItems source rest

def ofTomlEntries (source : String) : List (String × Toml.Value) → List (String × Tree)
  | [] => []
  | (key, v) :: rest => (key, ofToml source v) :: ofTomlEntries source rest

end

end Tree

end AppAdmin.Settings
