import AppAdmin.Json.Token

/-!
Reading a whole JSON value. Brackets may be nested 127 deep.
-/

namespace AppAdmin.Json

/-- How many brackets may be open at a time, plus one. -/
def depthLimit : Nat := 128

/-- What a list or a record may hold next. -/
inductive Turn
  /-- The bracket closes here; the rest of the input is behind it. -/
  | close (rest : Bytes)
  /-- An item starts here. -/
  | item (rest : Bytes)

/-- Finds the next item of a list, or its end. -/
def nextItem (first : Bool) (s : Bytes) : Except Fault Turn :=
  match skipBlank s with
  | [] => .error ⟨.endInList, []⟩
  | b :: rest =>
    if b = 0x5D then .ok (.close rest)
    else if first then .ok (.item (b :: rest))
    else if b = 0x2C then
      match skipBlank rest with
      | [] => .error ⟨.endInValue, []⟩
      | c :: after =>
        if c = 0x5D then .error ⟨.trailingComma, after⟩ else .ok (.item (c :: after))
    else .error ⟨.listCommaOrEndExpected, rest⟩

/-- Finds the next member of a record, or its end; the opening quote of the name is taken. -/
def nextMember (first : Bool) (s : Bytes) : Except Fault Turn :=
  match skipBlank s with
  | [] => .error ⟨.endInRecord, []⟩
  | b :: rest =>
    if b = 0x7D then .ok (.close rest)
    else if first then
      if b = 0x22 then .ok (.item rest) else .error ⟨.keyNotText, rest⟩
    else if b = 0x2C then
      match skipBlank rest with
      | [] => .error ⟨.endInValue, []⟩
      | c :: after =>
        if c = 0x22 then .ok (.item after)
        else if c = 0x7D then .error ⟨.trailingComma, after⟩
        else .error ⟨.keyNotText, after⟩
    else .error ⟨.recordCommaOrEndExpected, rest⟩

/-- Takes the colon between the name of a member and its value. -/
def readColon (s : Bytes) : Except Fault Bytes :=
  match skipBlank s with
  | [] => .error ⟨.endInRecord, []⟩
  | b :: rest => if b = 0x3A then .ok rest else .error ⟨.colonExpected, rest⟩

mutual

/-- Reads a value inside fewer than `depth` brackets. Each step uses a byte, so the length of the
input is fuel enough. -/
def readValue : Nat → Nat → Bytes → Except Fault (Value × Bytes)
  | 0, _, s => .error ⟨.valueExpected, s⟩
  | fuel + 1, depth, s =>
    match skipBlank s with
    | [] => .error ⟨.endInValue, []⟩
    | b :: rest =>
      if b = 0x6E then (readWord [0x75, 0x6C, 0x6C] rest).map fun rest => (.null, rest)
      else if b = 0x74 then (readWord [0x72, 0x75, 0x65] rest).map fun rest => (.bool true, rest)
      else if b = 0x66 then
        (readWord [0x61, 0x6C, 0x73, 0x65] rest).map fun rest => (.bool false, rest)
      else if b = 0x2D then (readNumber true rest).map fun (n, rest) => (.number n, rest)
      else if isDigit b then
        (readNumber false (b :: rest)).map fun (n, rest) => (.number n, rest)
      else if b = 0x22 then (readText rest).map fun (text, rest) => (.text text, rest)
      else if b = 0x5B then
        if depth ≤ 1 then .error ⟨.tooDeep, rest⟩
        else (readItems fuel (depth - 1) true rest).map fun (items, rest) => (.list items, rest)
      else if b = 0x7B then
        if depth ≤ 1 then .error ⟨.tooDeep, rest⟩
        else (readMembers fuel (depth - 1) true rest).map fun (members, rest) =>
          (.record members, rest)
      else .error ⟨.valueExpected, rest⟩

/-- Reads the items of a list up to its end. -/
def readItems : Nat → Nat → Bool → Bytes → Except Fault (List Value × Bytes)
  | 0, _, _, s => .error ⟨.valueExpected, s⟩
  | fuel + 1, depth, first, s => do
    match ← nextItem first s with
    | .close rest => return ([], rest)
    | .item rest =>
      let (value, rest) ← readValue fuel depth rest
      let (values, rest) ← readItems fuel depth false rest
      return (value :: values, rest)

/-- Reads the members of a record up to its end. -/
def readMembers : Nat → Nat → Bool → Bytes → Except Fault (List (String × Value) × Bytes)
  | 0, _, _, s => .error ⟨.valueExpected, s⟩
  | fuel + 1, depth, first, s => do
    match ← nextMember first s with
    | .close rest => return ([], rest)
    | .item rest =>
      let (name, rest) ← readText rest
      let rest ← readColon rest
      let (value, rest) ← readValue fuel depth rest
      let (members, rest) ← readMembers fuel depth false rest
      return ((name, value) :: members, rest)

end

/-- Refuses anything but blanks behind a value. -/
def expectEnd (s : Bytes) : Except Fault Unit :=
  match skipBlank s with
  | [] => .ok ()
  | _ :: rest => .error ⟨.trailingCharacters, rest⟩

/-- Reads a text with a given reader, up to its end. -/
def decodeWith {α : Type} (read : Bytes → Except Fault (α × Bytes)) (input : Bytes) :
    Except Error α :=
  let run : Except Fault α := do
    let (value, rest) ← read input
    expectEnd rest
    return value
  run.mapError (Fault.locate input)

def Value.decode (input : Bytes) : Except Error Value :=
  decodeWith (readValue (2 * input.length + 2) depthLimit) input

end AppAdmin.Json
