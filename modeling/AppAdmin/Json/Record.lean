import AppAdmin.Json.Reader
import AppAdmin.Json.Skip

/-!
Reading values of known types: texts, lists, and records with named fields. A field may be missing
or `null` and then has its default; members with other names are passed over; a record may also be
written as the list of its fields in order.
-/

namespace AppAdmin.Json

/-- Takes a value of some type from the front of the input. -/
abbrev Reader (α : Type) := Bytes → Except Fault (α × Bytes)

/-- The fault of a value that has another type than the expected one. A scalar is used up before
the place of the fault is taken, a bracket is not. -/
def wrongType (expected : String) : Bytes → Fault
  | [] => ⟨.endInValue, []⟩
  | b :: rest =>
    let report (found : Found) (unread : Bytes) : Fault := ⟨.wrongType found expected, unread⟩
    let word (letters : Bytes) (found : Found) : Fault :=
      match readWord letters rest with
      | .ok rest => report found rest
      | .error fault => fault
    let number (negative : Bool) (s : Bytes) : Fault :=
      match readNumber negative s with
      | .ok (n, rest) => report (.number n) rest
      | .error fault => fault
    if b = 0x6E then word [0x75, 0x6C, 0x6C] .null
    else if b = 0x74 then word [0x72, 0x75, 0x65] (.bool true)
    else if b = 0x66 then word [0x61, 0x6C, 0x73, 0x65] (.bool false)
    else if b = 0x2D then number true rest
    else if isDigit b then number false (b :: rest)
    else if b = 0x22 then
      match readText rest with
      | .ok (text, rest) => report (.text text) rest
      | .error fault => fault
    else if b = 0x5B then report .list (b :: rest)
    else if b = 0x7B then report .record (b :: rest)
    else ⟨.valueExpected, rest⟩

def text : Reader String := fun s =>
  match skipBlank s with
  | [] => .error ⟨.endInValue, []⟩
  | b :: rest =>
    if b = 0x22 then readText rest else .error (wrongType "a string" (b :: rest))

/-- Reads the items of a list with a reader for one of them, up to its end. -/
def listFrom {α : Type} (item : Reader α) : Nat → Bool → Reader (List α)
  | 0, _, s => .error ⟨.valueExpected, s⟩
  | fuel + 1, first, s => do
    match ← nextItem first s with
    | .close rest => return ([], rest)
    | .item rest =>
      let (value, rest) ← item rest
      let (values, rest) ← listFrom item fuel false rest
      return (value :: values, rest)

def list {α : Type} (item : Reader α) : Reader (List α) := fun s =>
  match skipBlank s with
  | [] => .error ⟨.endInValue, []⟩
  | b :: rest =>
    if b = 0x5B then listFrom item (rest.length + 1) true rest
    else .error (wrongType "a sequence" (b :: rest))

def orDefault {α : Type} (default : α) (read : Reader α) : Reader α := fun s =>
  match skipBlank s with
  | b :: rest =>
    if b = 0x6E then (readWord [0x75, 0x6C, 0x6C] rest).map fun rest => (default, rest)
    else read (b :: rest)
  | [] => read []

/-- A field of a record: its name and a reader for the change that its value makes. -/
structure Field (σ : Type) where
  name : String
  read : Reader (σ → σ)

def Field.text {σ : Type} (name : String) (set : String → σ → σ) : Field σ where
  name := name
  read s := (orDefault "" Json.text s).map fun (value, rest) => (set value, rest)

def Field.list {σ α : Type} (name : String) (item : Reader α) (set : List α → σ → σ) :
    Field σ where
  name := name
  read s := (orDefault [] (Json.list item) s).map fun (value, rest) => (set value, rest)

/-- The input not used yet when a record with a repeated field is given up: the end of the record
is taken if it is next. -/
def afterDuplicate (s : Bytes) : Bytes :=
  match skipBlank s with
  | [] => []
  | b :: rest => if b = 0x7D then rest else b :: rest

/-- Reads the members of a record up to its end. `seen` holds the names of the fields met so far. -/
def membersFrom {σ : Type} (fields : List (Field σ)) :
    Nat → Bool → List String → σ → Reader σ
  | 0, _, _, _, s => .error ⟨.valueExpected, s⟩
  | fuel + 1, first, seen, value, s => do
    match ← nextMember first s with
    | .close rest => return (value, rest)
    | .item rest =>
      let (name, rest) ← readText rest
      match fields.find? (·.name == name) with
      | none =>
        let rest ← readColon rest
        let rest ← skipValue rest
        membersFrom fields fuel false seen value rest
      | some field =>
        if seen.contains name then .error ⟨.duplicateField name, afterDuplicate rest⟩
        else
          let rest ← readColon rest
          let (change, rest) ← field.read rest
          membersFrom fields fuel false (name :: seen) (change value) rest

/-- Reads the end of a list that has no more fields to hold. -/
def endOfList (s : Bytes) : Except Fault Bytes :=
  match skipBlank s with
  | [] => .error ⟨.endInList, []⟩
  | b :: rest =>
    if b = 0x5D then .ok rest
    else if b = 0x2C then
      match skipBlank rest with
      | c :: after =>
        if c = 0x5D then .error ⟨.trailingComma, after⟩ else .error ⟨.trailingCharacters, after⟩
      | [] => .error ⟨.trailingCharacters, []⟩
    else .error ⟨.trailingCharacters, rest⟩

/-- Reads the fields of a record that is written as a list. -/
def positionalFrom {σ : Type} : List (Field σ) → Bool → σ → Reader σ
  | [], _, value, s => (endOfList s).map fun rest => (value, rest)
  | field :: fields, first, value, s => do
    match ← nextItem first s with
    | .close rest => return (value, rest)
    | .item rest =>
      let (change, rest) ← field.read rest
      positionalFrom fields false (change value) rest

/-- Reads a record with the given fields, starting from its default value. -/
def record {σ : Type} (title : String) (fields : List (Field σ)) (blank : σ) : Reader σ := fun s =>
  match skipBlank s with
  | [] => .error ⟨.endInValue, []⟩
  | b :: rest =>
    if b = 0x7B then membersFrom fields (rest.length + 1) true [] blank rest
    else if b = 0x5B then positionalFrom fields true blank rest
    else .error (wrongType ("struct " ++ title) (b :: rest))

end AppAdmin.Json
