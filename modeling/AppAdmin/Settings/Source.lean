import AppAdmin.Disk
import AppAdmin.Settings.Format
import AppAdmin.Text.Ascii

/-!
The sources of settings: files, whose format shows in the end of their name, and environment
variables, whose values are taken for what they look like.
-/

namespace AppAdmin.Settings

/-- The reasons for a settings file to be of no use. -/
inductive FileFault
  | missing (path : String)
  | unknownFormat (path : String)
  | malformed
deriving DecidableEq

/-- The error text. What is wrong in a malformed file is not told. -/
def FileFault.message : FileFault → String
  | .missing path => "configuration file \"" ++ path ++ "\" not found"
  | .unknownFormat path =>
    "configuration file \"" ++ path ++ "\" is not of a registered file format"
  | .malformed => "malformed settings file"

/-- The path as a text from the root. -/
def fromRoot (d : Disk) (path : String) : String :=
  if Disk.isAbsolute path then path
  else Disk.join ("/" ++ String.intercalate "/" d.directory) path

/-- The places where a settings file may be, each with its format: the path itself if it is a file,
else the path with the ends of each format added. -/
def places (p : Platform) (d : Disk) (path : String) :
    Except FileFault (List (Location × Format)) :=
  let place := d.locate path
  match d.read path with
  | .ok _ => match p.formatOf? (place.getLast?.getD "") with
    | some format => .ok [(place, format)]
    | none => .error (.unknownFormat (fromRoot d path))
  | .error _ => match place.reverse with
    | [] => .ok []
    | name :: folders =>
      if name = ".." then .ok []
      else .ok (p.ends.map fun e => (folders.reverse ++ [name ++ "." ++ e.1], e.2))

/-- The bytes of a file at a place. -/
def readPlace (d : Disk) (l : Location) : Except Disk.Fault Bytes := do
  let place ← d.walk [] l
  match d.file? place with
  | some bytes => return bytes
  | none => throw .missing

/-- The text of a file: a mark of the byte order in front is dropped, and what is no text is
replaced. -/
def contentText (bytes : Bytes) : String :=
  Text.Utf8.decodeLossy (match bytes with
    | 0xEF :: 0xBB :: 0xBF :: rest => rest
    | bytes => bytes)

/-- The first of some places that has a file, and what is in it. -/
def firstFile? (d : Disk) (places : List (Location × Format)) :
    Option (Location × Format × Bytes) :=
  places.findSome? fun (l, format) => (readPlace d l).toOption.map fun bytes => (l, format, bytes)

/-- The entries of the file that a path leads to. -/
def readFile (p : Platform) (d : Disk) (path : String) :
    Except FileFault (List (String × Tree)) := do
  match firstFile? d (← places p d path) with
  | none => throw (.missing path)
  | some (l, format, bytes) =>
    match p.entries? (d.relative l) (contentText bytes) format with
    | some entries => return entries
    | none => throw .malformed

/-- Names and values of the environment. -/
abbrev Environment := List (String × String)

def Environment.get? (env : Environment) (name : String) : Option String :=
  (env.find? (·.1 == name)).map (·.2)

/-- What the names of the variables that hold settings begin with. -/
def variableStart : String := "STITCH"

/-- What a value looks like: a truth value, a whole number, a number, or else a text. -/
def guess (s : String) : Scalar :=
  let word := Text.lowered s
  if word = "true" then .bool true
  else if word = "false" then .bool false
  else match Number.integer64? s.toList with
    | some n => .integer n
    | none => match Number.real? s.toList with
      | some x => .real x
      | none => .text s

/-- The source of settings from the environment. -/
def environmentSource : String := "the environment"

/-- The settings in the environment. Case does not count in the names. -/
def ofEnvironment (env : Environment) : List (String × Tree) :=
  let start := (Text.lowered variableStart ++ "_").toList
  env.filterMap fun (name, value) =>
    let name := (Text.lowered name).toList
    if start.isPrefixOf name then
      some (String.ofList (name.drop start.length), .leaf environmentSource (guess value))
    else none

end AppAdmin.Settings
