import AppAdmin.Json.Value
import AppAdmin.Number.Shortest
import AppAdmin.Text.CodePoints

/-!
Writing JSON texts, either without any blanks or with one member or item a line, two blanks to the
level.
-/

namespace AppAdmin.Json

/-- A character inside a text. Quote, backslash and controls are escaped, all else is written as
it is. -/
def escape (c : Char) : List Char :=
  if c = '"' then ['\\', '"']
  else if c = '\\' then ['\\', '\\']
  else if c = '\n' then ['\\', 'n']
  else if c = '\r' then ['\\', 'r']
  else if c = '\t' then ['\\', 't']
  else if c = '\x08' then ['\\', 'b']
  else if c = '\x0c' then ['\\', 'f']
  else if c.toNat < 0x20 then
    ['\\', 'u', '0', '0', Nat.digitChar (c.toNat / 16), Nat.digitChar (c.toNat % 16)]
  else [c]

def printText (s : String) : List Char :=
  '"' :: s.toList.flatMap escape ++ ['"']

def Number.print : Number → List Char
  | .natural n => Nat.toDigits 10 n
  | .negative n => '-' :: Nat.toDigits 10 n
  | .real x => x.scientificText.toList

mutual

/-- A value without blanks. -/
def Value.print : Value → List Char
  | .null => ['n', 'u', 'l', 'l']
  | .bool true => ['t', 'r', 'u', 'e']
  | .bool false => ['f', 'a', 'l', 's', 'e']
  | .number n => n.print
  | .text s => printText s
  | .list items => '[' :: printItems items ++ [']']
  | .record members => '\x7b' :: printMembers members ++ ['\x7d']

/-- Items with commas between them. -/
def printItems : List Value → List Char
  | [] => []
  | [value] => value.print
  | value :: rest => value.print ++ ',' :: printItems rest

/-- Members with commas between them. -/
def printMembers : List (String × Value) → List Char
  | [] => []
  | [(name, value)] => printText name ++ ':' :: value.print
  | (name, value) :: rest => printText name ++ ':' :: value.print ++ ',' :: printMembers rest

end

/-- The end of a line and the indentation of the next one. -/
def newLine (level : Nat) : List Char :=
  '\n' :: List.replicate (2 * level) ' '

mutual

/-- A value over several lines, inside `level` brackets. -/
def Value.printLines (level : Nat) : Value → List Char
  | .list [] => ['[', ']']
  | .list items =>
    '[' :: newLine (level + 1) ++ printItemLines (level + 1) items ++ newLine level ++ [']']
  | .record [] => ['\x7b', '\x7d']
  | .record members =>
    '\x7b' :: newLine (level + 1) ++ printMemberLines (level + 1) members ++ newLine level
      ++ ['\x7d']
  | .null => Value.print .null
  | .bool b => Value.print (.bool b)
  | .number n => n.print
  | .text s => printText s

/-- Items, one a line. -/
def printItemLines (level : Nat) : List Value → List Char
  | [] => []
  | [value] => value.printLines level
  | value :: rest => value.printLines level ++ ',' :: newLine level ++ printItemLines level rest

/-- Members, one a line. -/
def printMemberLines (level : Nat) : List (String × Value) → List Char
  | [] => []
  | [(name, value)] => printText name ++ ':' :: ' ' :: value.printLines level
  | (name, value) :: rest =>
    printText name ++ ':' :: ' ' :: value.printLines level ++ ',' :: newLine level
      ++ printMemberLines level rest

end

/-- The JSON text of a value without blanks. -/
def Value.compact (v : Value) : String := String.ofList v.print

/-- The JSON text of a value over several lines. -/
def Value.pretty (v : Value) : String := String.ofList (v.printLines 0)

end AppAdmin.Json
