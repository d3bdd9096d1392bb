import AppAdmin.Text.Utf8
import AppAdmin.Url.Split

/-!
Files in folders. A path is a text with slashes; what it names depends on the working directory.
Reading and creating files can fail, and a failure leaves the disk as it was.
-/

namespace AppAdmin

/-- The names from the root to a file or folder. Two dots among them still lead back. -/
abbrev Location := List String

/-- The files and folders that are known. A folder is also known by what is in it. -/
structure Disk where
  directory : Location
  folders : List Location
  files : List (Location × Bytes)

/-- The reasons for a path to lead nowhere. -/
inductive Disk.Fault
  | missing
  | notFolder
  | isFolder
  /-- No path has a zero in it. -/
  | hasZero
deriving DecidableEq

def Disk.Fault.message : Disk.Fault → String
  | .missing => "No such file or directory (os error 2)"
  | .notFolder => "Not a directory (os error 20)"
  | .isFolder => "Is a directory (os error 21)"
  | .hasZero => "file name contained an unexpected NUL byte"

namespace Disk

/-- What stands in a path between its slashes. -/
def pieces (path : String) : List String :=
  (Url.pieces (· == '/') path.toList).map String.ofList

/-- The names in a path. Empty names and single dots do not count. -/
def namesOf (path : String) : List String :=
  (pieces path).filter fun name => name != "" && name != "."

/-- Whether a path begins at the root. -/
def isAbsolute (path : String) : Bool := path.toList.head? == some '/'

/-- A part of a path. -/
inductive Part
  | root
  /-- A single dot; it only counts in front. -/
  | here
  | up
  | name (s : String)
deriving DecidableEq

/-- The part that a name in a path is. -/
def Part.ofName (name : String) : Part := if name = ".." then .up else .name name

/-- Where a path begins, if it is not a name. -/
def beginning (path : String) : List Part :=
  if isAbsolute path then [.root]
  else if (pieces path).head? = some "." then [.here]
  else []

def parts (path : String) : List Part := beginning path ++ (namesOf path).map .ofName

/-- The name that a path ends with, if it ends with one. -/
def lastName? (path : String) : Option String :=
  match (parts path).getLast? with
  | some (.name s) => some s
  | _ => none

/-- Whether a path can only name a folder. -/
def namesFolder (path : String) : Bool :=
  match path.toList.reverse with
  | [] => true
  | '/' :: _ => true
  | ['.'] => true
  | '.' :: '/' :: _ => true
  | _ => false

/-- Where a path leads. -/
def locate (d : Disk) (path : String) : Location :=
  if isAbsolute path then namesOf path else d.directory ++ namesOf path

/-- A path below another. -/
def join (folder path : String) : String :=
  if isAbsolute path ∨ folder = "" then path
  else if folder.toList.getLast? = some '/' then folder ++ path
  else folder ++ "/" ++ path

/-- The bytes of a file, if there is one. -/
def file? (d : Disk) (l : Location) : Option Bytes :=
  (d.files.find? (·.1 == l)).map (·.2)

def isFolder (d : Disk) (l : Location) : Bool :=
  l.isPrefixOf d.directory || d.folders.any (l.isPrefixOf ·)
    || d.files.any fun (at', _) => l.isPrefixOf at' && at' != l

/-- Goes from a folder along names, the last of which may name a file. -/
def walk (d : Disk) (here : Location) : List String → Except Fault Location
  | [] => .ok here
  | name :: rest =>
    if (d.file? here).isSome then .error .notFolder
    else if !d.isFolder here then .error .missing
    else if name = ".." then walk d here.dropLast rest
    else walk d (here ++ [name]) rest

/-- The place that a path names. -/
def resolve (d : Disk) (path : String) : Except Fault Location := do
  if path.toList.contains '\x00' then throw .hasZero
  let place ← d.walk [] (d.locate path)
  if namesFolder path ∧ (d.file? place).isSome then throw .notFolder
  return place

def read (d : Disk) (path : String) : Except Fault Bytes := do
  let place ← d.resolve path
  match d.file? place with
  | some bytes => return bytes
  | none => throw (if d.isFolder place then .isFolder else .missing)

/-- Creates a file, or empties the one that is there, and gives it bytes. -/
def write (d : Disk) (path : String) (bytes : Bytes) : Except Fault Disk := do
  let place ← d.resolve path
  if d.isFolder place ∨ namesFolder path then throw .isFolder
  return { d with files := d.files.filter (·.1 != place) ++ [(place, bytes)] }

/-- The way from the working directory to a location. -/
def relative (d : Disk) (l : Location) : String :=
  let rec drop : Location → Location → Location × Location
    | a :: here, b :: there => if a = b then drop here there else (a :: here, b :: there)
    | here, there => (here, there)
  let (up, down) := drop d.directory l
  String.intercalate "/" (up.map (fun _ => "..") ++ down)

end Disk

end AppAdmin
