import AppAdmin.Json.Reader
import AppAdmin.Settings.Tree
import AppAdmin.Toml

/-!
The formats of settings files, and the platform that settings are loaded on. TOML and JSON are read
here. What the other formats look like is left to readers that the platform has; of these it is known
that a file gives a table, and no more.
-/

namespace AppAdmin.Settings

/-- The formats that are not read here. -/
inductive Foreign
  | yaml
  | ini
  | ron
  | json5
deriving DecidableEq

/-- The formats of settings files. -/
inductive Format
  | toml
  | json
  | foreign (f : Foreign)
deriving DecidableEq

namespace Format

/-- What the names of files end in, behind a dot. -/
def extensions : Format → List String
  | .toml => ["toml"]
  | .json => ["json"]
  | .foreign .yaml => ["yaml", "yml"]
  | .foreign .ini => ["ini"]
  | .foreign .ron => ["ron"]
  | .foreign .json5 => ["json5"]

def all : List Format :=
  [.toml, .json, .foreign .yaml, .foreign .ini, .foreign .ron, .foreign .json5]

theorem mem_all (format : Format) : format ∈ all := by
  cases format with
  | toml => decide
  | json => decide
  | foreign f => cases f <;> decide

end Format

/-- A reader of files, which is told the name of the source as well. It may refuse a text, and what
it gives is a table: no key comes twice. -/
structure Reader where
  entries? (source content : String) : Option (List (String × Tree))
  distinct {source content : String} {entries : List (String × Tree)} :
    entries? source content = some entries → Distinct entries

/-- A reader that refuses every text. -/
def Reader.refusing : Reader := ⟨fun _ _ => none, nofun⟩

/-- What the loading of settings rests on besides files and variables. -/
structure Platform where
  /-- The home folder that is written down for the account of the user. -/
  home : Option String
  reader : Foreign → Reader
  /-- The order in which formats are tried. They stand in a table that has none, so it may be any. -/
  order : List Format
  complete : ∀ format, format ∈ order

namespace Platform

/-- A platform that leaves all but TOML and JSON unread. -/
def bare (home : Option String) : Platform := ⟨home, fun _ => .refusing, Format.all, Format.mem_all⟩

/-- What the names of files may end in, with the formats that show in it, in the order of trial. -/
def ends (p : Platform) : List (String × Format) :=
  p.order.flatMap fun format => format.extensions.map fun e => (e, format)

/-- The entries of a file. -/
def entries? (p : Platform) (source content : String) : Format → Option (List (String × Tree))
  | .toml => (Toml.parse? content).map (Tree.ofTomlEntries source)
  | .json => match Json.Value.decode (Text.Utf8.encode content) with
    | .ok (.record members) => some (Tree.ofJsonMembers source members)
    | _ => none
  | .foreign f => (p.reader f).entries? source content

end Platform

/-- What the name of a file ends in behind its last dot, which does not begin the name. -/
def extension? (name : String) : Option String :=
  let ending := (name.toList.reverse.takeWhile (· != '.')).reverse
  match name.toList.reverse.dropWhile (· != '.') with
  | _ :: _ :: _ => if name = ".." then none else some (String.ofList ending)
  | _ => none

/-- The format that the name of a file shows. -/
def Platform.formatOf? (p : Platform) (name : String) : Option Format :=
  (extension? name).bind fun e => (p.ends.find? (·.1 == e)).map (·.2)

end AppAdmin.Settings
