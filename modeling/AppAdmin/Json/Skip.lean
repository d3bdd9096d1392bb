import AppAdmin.Json.Token

/-!
Passing over a value that nobody asked for. Only its grammar is checked: texts may spell anything
and numbers may have any size, and the nesting may be of any depth because the open brackets are
kept in a list.
-/

namespace AppAdmin.Json

inductive Bracket
  | list
  | record
deriving DecidableEq

/-- What comes next while a value is passed over. -/
inductive SkipState
  | value
  /-- The first item of the innermost bracket, or its end. -/
  | first
  /-- A comma or the end of the innermost bracket. -/
  | next
  /-- The name of a member and its colon. -/
  | name
deriving DecidableEq

/-- Passes over the rest of a text whose opening quote has been taken. -/
def skipText : Bytes → Except Fault Bytes
  | [] => .error ⟨.endInText, []⟩
  | b :: rest =>
    if b = 0x22 then .ok rest
    else if b = 0x5C then
      match rest with
      | [] => .error ⟨.endInText, []⟩
      | e :: rest =>
        if e = 0x75 then
          match rest with
          | h₁ :: h₂ :: h₃ :: h₄ :: rest =>
            match hexUnit? h₁ h₂ h₃ h₄ with
            | some _ => skipText rest
            | none => .error ⟨.invalidEscape, rest⟩
          | _ => .error ⟨.endInText, []⟩
        else match simpleEscape? e with
          | some _ => skipText rest
          | none => .error ⟨.invalidEscape, rest⟩
    else if b < 0x20 then .error ⟨.controlCharacter, b :: rest⟩
    else skipText rest

/-- Passes over an exponent whose letter has been taken. -/
def skipExponent (s : Bytes) : Except Fault Bytes :=
  match (readExponentSign s).2 with
  | [] => .error ⟨.invalidNumber, []⟩
  | b :: rest =>
    if isDigit b then .ok (rest.dropWhile isDigit) else .error ⟨.invalidNumber, rest⟩

/-- Passes over an exponent if one follows. -/
def skipExponentIfAny : Bytes → Except Fault Bytes
  | [] => .ok []
  | b :: rest => if isExponentMark b then skipExponent rest else .ok (b :: rest)

/-- Passes over a point with its digits and an exponent, if they follow. -/
def skipFractionIfAny : Bytes → Except Fault Bytes
  | [] => .ok []
  | b :: rest =>
    if b = 0x2E then
      match rest.takeWhile isDigit with
      | [] => .error (.ahead .invalidNumber rest)
      | _ :: _ => skipExponentIfAny (rest.dropWhile isDigit)
    else skipExponentIfAny (b :: rest)

/-- Passes over a number whose sign has been taken. -/
def skipNumber : Bytes → Except Fault Bytes
  | [] => .error ⟨.invalidNumber, []⟩
  | b :: rest =>
    if b = 0x30 then
      match rest with
      | [] => .ok []
      | c :: after =>
        if isDigit c then .error ⟨.invalidNumber, after⟩ else skipFractionIfAny rest
    else if isDigit b then skipFractionIfAny (rest.dropWhile isDigit)
    else .error ⟨.invalidNumber, rest⟩

/-- Passes over the name of a member and the colon behind it. -/
def skipName (s : Bytes) : Except Fault Bytes :=
  match skipBlank s with
  | [] => .error ⟨.endInRecord, []⟩
  | b :: rest =>
    if b ≠ 0x22 then .error ⟨.keyNotText, rest⟩
    else match skipText rest with
    | .error fault => .error fault
    | .ok rest => match skipBlank rest with
      | [] => .error ⟨.endInRecord, []⟩
      | c :: rest => if c = 0x3A then .ok rest else .error ⟨.colonExpected, rest⟩

/-- What comes behind the opening of a bracket or behind a comma in it. -/
def Bracket.inside : Bracket → SkipState
  | .list => .value
  | .record => .name

def Bracket.closing : Bracket → UInt8
  | .list => 0x5D
  | .record => 0x7D

/-- The fault of a text that ends inside a bracket. -/
def Bracket.unfinished : Bracket → Cause
  | .list => .endInList
  | .record => .endInRecord

/-- The fault of anything but a comma or the end behind an item. -/
def Bracket.commaOrEnd : Bracket → Cause
  | .list => .listCommaOrEndExpected
  | .record => .recordCommaOrEndExpected

/-- Passes over the rest of a value inside the given brackets, innermost first. Each step uses a
byte or turns from a bracket to its contents, so twice the length of the input is fuel enough. -/
def skipFrom : Nat → SkipState → List Bracket → Bytes → Except Fault Bytes
  | 0, _, _, s => .error ⟨.valueExpected, s⟩
  | _ + 1, .next, [], s => .ok s
  | fuel + 1, .value, outer, s =>
    match skipBlank s with
    | [] => .error ⟨.endInValue, []⟩
    | b :: rest =>
      let scalar (r : Except Fault Bytes) : Except Fault Bytes :=
        match r with
        | .ok rest => skipFrom fuel .next outer rest
        | .error fault => .error fault
      if b = 0x6E then scalar (readWord [0x75, 0x6C, 0x6C] rest)
      else if b = 0x74 then scalar (readWord [0x72, 0x75, 0x65] rest)
      else if b = 0x66 then scalar (readWord [0x61, 0x6C, 0x73, 0x65] rest)
      else if b = 0x2D then scalar (skipNumber rest)
      else if isDigit b then scalar (skipNumber (b :: rest))
      else if b = 0x22 then scalar (skipText rest)
      else if b = 0x5B then skipFrom fuel .first (.list :: outer) rest
      else if b = 0x7B then skipFrom fuel .first (.record :: outer) rest
      else .error ⟨.valueExpected, rest⟩
  | fuel + 1, .name, outer, s =>
    match skipName s with
    | .ok rest => skipFrom fuel .value outer rest
    | .error fault => .error fault
  | _ + 1, .first, [], s => .ok s
  | fuel + 1, .first, bracket :: outer, s =>
    match skipBlank s with
    | [] => .error ⟨bracket.unfinished, []⟩
    | b :: rest =>
      if b = bracket.closing then skipFrom fuel .next outer rest
      else skipFrom fuel bracket.inside (bracket :: outer) (b :: rest)
  | fuel + 1, .next, bracket :: outer, s =>
    match skipBlank s with
    | [] => .error ⟨bracket.unfinished, []⟩
    | b :: rest =>
      if b = 0x2C then skipFrom fuel bracket.inside (bracket :: outer) rest
      else if b = bracket.closing then skipFrom fuel .next outer rest
      else .error ⟨bracket.commaOrEnd, rest⟩

def skipValue (s : Bytes) : Except Fault Bytes :=
  skipFrom (2 * s.length + 2) .value [] s

end AppAdmin.Json
