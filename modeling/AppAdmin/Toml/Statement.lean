import AppAdmin.Toml.Quoted
import AppAdmin.Toml.Scalar
import AppAdmin.Toml.Section

/-!
The statements of a TOML document: headers, which name the table that follows, and assignments of
values to keys. Values may nest to a bounded depth.
-/

namespace AppAdmin.Toml

inductive Statement
  /-- `[a.b]` begins a table. -/
  | header (keys : List String)
  /-- `[[a.b]]` begins the next table of a list. -/
  | itemHeader (keys : List String)
  /-- `a.b = 1` -/
  | assignment (keys : List String) (value : Value)

/-- The characters of a key without quotes. -/
def isKeyChar (c : Char) : Bool := c.isAlphanum || c == '_' || c == '-'

def readKey? (s : List Char) : Option (String × List Char) :=
  match s.takeWhile isKeyChar with
  | [] => (readQuoted? s).map fun (key, rest) => (String.ofList key, rest)
  | key => some (String.ofList key, s.dropWhile isKeyChar)

/-- Reads keys with dots between them, at most so many, and the blanks behind them. -/
def readKeysIn? : Nat → List Char → Option (List String × List Char)
  | 0, _ => none
  | fuel + 1, s => do
    let (key, rest) ← readKey? (skipBlanks s)
    match skipBlanks rest with
    | '.' :: rest =>
      let (keys, rest) ← readKeysIn? fuel rest
      return (key :: keys, rest)
    | rest => return ([key], rest)

def readKeys? (s : List Char) : Option (List String × List Char) := readKeysIn? (s.length + 1) s

/-- The items in front of a bracket with commas between them; one more comma may stand behind the
last. An item that takes nothing from the text ends the reading. -/
def readItems? {α : Type} (close : Char) (read : List Char → Option (α × List Char))
    (acc : List α) (s : List Char) : Option (List α × List Char) :=
  match skipLines true s with
  | [] => none
  | c :: rest =>
    if c = close then some (acc.reverse, rest)
    else match read (c :: rest) with
    | none => none
    | some (item, rest) => match skipLines true rest with
      | [] => none
      | d :: rest =>
        if d = close then some ((item :: acc).reverse, rest)
        else if d = ',' ∧ rest.length < s.length then readItems? close read (item :: acc) rest
        else none
termination_by s.length

/-- How deep values may nest. -/
def depthLimit : Nat := 80

/-- Reads an assignment, given how values are read. -/
def readAssignment? (read : List Char → Option (Value × List Char)) (s : List Char) :
    Option ((List String × Value) × List Char) := do
  let (keys, rest) ← readKeys? s
  match rest with
  | '=' :: rest =>
    let (value, rest) ← read (skipBlanks rest)
    return ((keys, value), rest)
  | _ => none

/-- The table with some assignments. -/
def tableOf? (assignments : List (List String × Value)) : Option Value :=
  (assignments.foldlM (fun entries (keys, value) => Section.assign keys value entries) []).map
    fun entries => .table (Section.toEntries entries)

/-- Reads a value that nests at most so deep. -/
def readValue? : Nat → List Char → Option (Value × List Char)
  | depth, '[' :: rest => match depth with
    | 0 => none
    | depth + 1 => (readItems? ']' (readValue? depth) [] rest).map fun (items, rest) =>
        (.list items, rest)
  | depth, '\x7b' :: rest => match depth with
    | 0 => none
    | depth + 1 => do
      let (assignments, rest) ← readItems? '\x7d' (readAssignment? (readValue? depth)) [] rest
      return (← tableOf? assignments, rest)
  | _, s => match readText? s with
    | some (text, rest) => some (.text (String.ofList text), rest)
    | none => readScalar? s

/-- Reads a statement that begins here. -/
def readStatement? (s : List Char) : Option (Statement × List Char) :=
  match s with
  | '[' :: '[' :: rest => do
    match ← readKeys? rest with
    | (keys, ']' :: ']' :: rest) => return (.itemHeader keys, rest)
    | _ => none
  | '[' :: rest => do
    match ← readKeys? rest with
    | (keys, ']' :: rest) => return (.header keys, rest)
    | _ => none
  | _ => (readAssignment? (readValue? depthLimit) s).map fun ((keys, value), rest) =>
    (.assignment keys value, rest)

/-- Reads statements, each on a line of its own, at most so many. -/
def readStatementsIn? : Nat → List Char → Option (List Statement)
  | 0, _ => none
  | fuel + 1, s => match skipLines true s with
    | [] => some []
    | s => do
      let (statement, rest) ← readStatement? s
      match ← endLine? rest with
      | [] => return [statement]
      | rest => return statement :: (← readStatementsIn? fuel rest)

def readStatements? (s : List Char) : Option (List Statement) := readStatementsIn? (s.length + 1) s

end AppAdmin.Toml
