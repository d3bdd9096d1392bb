import AppAdmin.Json.Value
import AppAdmin.Number.Shortest
import AppAdmin.Text.Outline
import AppAdmin.Text.Utf8

/-!
What can be wrong with a JSON text. A reader reports a fault together with the input that it had
not used yet; the place in the text follows from it once the reading is over.
-/

namespace AppAdmin.Json

/-- What stands where a value of another type was expected. -/
inductive Found
  | null
  | bool (b : Bool)
  | number (n : Number)
  | text (s : String)
  | list
  | record

/-- The reasons for refusing a text. -/
inductive Cause
  | endInList
  | endInRecord
  | endInText
  | endInValue
  | colonExpected
  | listCommaOrEndExpected
  | recordCommaOrEndExpected
  | wordExpected
  | valueExpected
  | invalidEscape
  | invalidNumber
  | numberOutOfRange
  | invalidCodePoint
  | controlCharacter
  | keyNotText
  | loneSurrogate
  | trailingComma
  | trailingCharacters
  | unfinishedHexEscape
  | tooDeep
  | wrongType (found : Found) (expected : String)
  | duplicateField (name : String)

namespace Found

def describe : Found → String
  | .null => "null"
  | .bool true => "boolean `true`"
  | .bool false => "boolean `false`"
  | .number (.natural n) => "integer `" ++ toString n ++ "`"
  | .number (.negative n) => "integer `-" ++ toString n ++ "`"
  | .number (.real x) => "floating point `" ++ x.scientificText ++ "`"
  | .text s => "string " ++ Text.quoted s
  | .list => "sequence"
  | .record => "map"

end Found

namespace Cause

/-- The cause in words, without its place. -/
def message : Cause → String
  | .endInList => "EOF while parsing a list"
  | .endInRecord => "EOF while parsing an object"
  | .endInText => "EOF while parsing a string"
  | .endInValue => "EOF while parsing a value"
  | .colonExpected => "expected `:`"
  | .listCommaOrEndExpected => "expected `,` or `]`"
  | .recordCommaOrEndExpected => "expected `,` or `\x7d`"
  | .wordExpected => "expected ident"
  | .valueExpected => "expected value"
  | .invalidEscape => "invalid escape"
  | .invalidNumber => "invalid number"
  | .numberOutOfRange => "number out of range"
  | .invalidCodePoint => "invalid unicode code point"
  | .controlCharacter => "control character (\\u0000-\\u001F) found while parsing a string"
  | .keyNotText => "key must be a string"
  | .loneSurrogate => "lone leading surrogate in hex escape"
  | .trailingComma => "trailing comma"
  | .trailingCharacters => "trailing characters"
  | .unfinishedHexEscape => "unexpected end of hex escape"
  | .tooDeep => "recursion limit exceeded"
  | .wrongType found expected => "invalid type: " ++ found.describe ++ ", expected " ++ expected
  | .duplicateField name => "duplicate field `" ++ name ++ "`"

end Cause

/-- A cause and the input not used when it was found. -/
structure Fault where
  cause : Cause
  unread : Bytes

namespace Fault

/-- A fault that the next byte shows: its place is behind that byte. -/
def ahead (cause : Cause) (rest : Bytes) : Fault := ⟨cause, rest.tail⟩

end Fault

/-- A cause with its place: lines count from one and columns are the bytes used of the line. -/
structure Error where
  cause : Cause
  line : Nat
  column : Nat

namespace Error

def message (e : Error) : String :=
  e.cause.message ++ " at line " ++ toString e.line ++ " column " ++ toString e.column

end Error

/-- Walks over the bytes used, counting lines and columns. -/
def place : Nat → Nat → Bytes → Nat × Nat
  | line, column, [] => (line, column)
  | line, column, b :: rest =>
    if b = 0x0A then place (line + 1) 0 rest else place line (column + 1) rest

/-- The place of a fault in the text that was read. -/
def Fault.locate (input : Bytes) (fault : Fault) : Error :=
  let (line, column) := place 1 0 (input.take (input.length - fault.unread.length))
  ⟨fault.cause, line, column⟩

end AppAdmin.Json
