import AppAdmin.Text.Printable

/-!
How messages show values. A text stands between double quotes, so that there is no doubt about where it
ends: the quote, the backslash and every character without a visible form are written as escapes. An
outline is a line with a title and the fields that may be shown; fields that are left out are hinted at
by two dots.
-/

namespace AppAdmin.Text

/-- A character inside quotes. -/
def escape (c : Char) : List Char :=
  if c = '"' then ['\\', '"']
  else if c = '\\' then ['\\', '\\']
  else if c = '\n' then ['\\', 'n']
  else if c = '\r' then ['\\', 'r']
  else if c = '\t' then ['\\', 't']
  else if c = '\x00' then ['\\', '0']
  else if isPrintable c then [c]
  else ['\\', 'u', '\x7b'] ++ Nat.toDigits 16 c.toNat ++ ['\x7d']

def quoted (s : String) : String :=
  String.ofList ('"' :: s.toList.flatMap escape ++ ['"'])

/-- Texts with a comma and a blank between them. -/
def commaList (items : List String) : String :=
  String.intercalate ", " items

/-- Items in square brackets. -/
def outlineList (items : List String) : String :=
  "[" ++ commaList items ++ "]"

/-- Entries in curly brackets, each a key and a value. -/
def outlineMap (entries : List (String × String)) : String :=
  "\x7b" ++ commaList (entries.map fun (key, value) => key ++ ": " ++ value) ++ "\x7d"

/-- A title with named fields; `complete` says that no field is left out. -/
def outline (title : String) (fields : List (String × String)) (complete : Bool) : String :=
  let shown := fields.map fun (name, value) => name ++ ": " ++ value
  let shown := if complete then shown else shown ++ [".."]
  title ++ " \x7b " ++ commaList shown ++ " \x7d"

end AppAdmin.Text
