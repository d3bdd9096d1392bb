import AppAdmin.Url.Authority
import AppAdmin.Url.Path

/-!
URLs: reading a text as a URL, and the text of a URL. Reading is forgiving, so that many texts are
read as one URL, but the text of a URL is always of the same form.
-/

namespace AppAdmin

/-- A URL; all parts are as they stand in its text. -/
structure Url where
  scheme : List Char
  authority : Option Url.Authority
  path : Url.Path
  query : Option (List Char)
  fragment : Option (List Char)
deriving DecidableEq

namespace Url

/-- The text from the authority to the path. A path that would begin like an authority is kept
apart by a dot. -/
def hierarchyText (u : Url) : List Char :=
  match u.authority with
  | some a => ['/', '/'] ++ a.text ++ u.path.toText
  | none =>
    let path := u.path.toText
    if ['/', '/'].isPrefixOf path then ['/', '.'] ++ path else path

/-- A part behind its mark, if there is one. -/
def markedText (mark : Char) : Option (List Char) → List Char
  | some s => mark :: s
  | none => []

def chars (u : Url) : List Char :=
  u.scheme ++ ':' :: u.hierarchyText ++ markedText '?' u.query ++ markedText '#' u.fragment

def text (u : Url) : String := String.ofList u.chars

def hasHost (u : Url) : Bool :=
  match u.authority with
  | some a => a.host ≠ .empty
  | none => false

/-- The URL without user name and password. -/
def withoutUserinfo (u : Url) : Url :=
  { u with authority := u.authority.map fun a => { a with username := [], password := none } }

/-- The characters that a scheme may have behind its first letter. -/
def isSchemeChar (c : Char) : Bool := c.isAlphanum || c == '+' || c == '-' || c == '.'

/-- The scheme, in small letters, and the text behind its colon. -/
def cutScheme? (s : List Char) : Option (List Char × List Char) :=
  match s.dropWhile isSchemeChar with
  | ':' :: rest =>
    if (s.head?.map Char.isAlpha).getD false then
      some ((s.takeWhile isSchemeChar).map Char.toLower, rest)
    else none
  | _ => none

/-- The text without the controls and blanks at its ends and without any tabs and line ends. -/
def clean (s : List Char) : List Char :=
  let isBlank (c : Char) : Bool := c.toNat ≤ 0x20
  let trimmed := ((s.dropWhile isBlank).reverse.dropWhile isBlank).reverse
  trimmed.filter fun c => c != '\t' && c != '\n' && c != '\r'

/-- The slashes of the schemes of the web. -/
def isAnySlash (c : Char) : Bool := c == '/' || c == '\\'

/-- A text between scheme and query. `ends` says that neither query nor fragment follow it. -/
structure Hierarchy where
  text : List Char
  ends : Bool

/-- Reads an authority and the path behind it. -/
def readAuthority (scheme : List Char) (isSlash : Char → Bool) (s : Hierarchy) :
    Except Fault (Authority × List Char) := do
  let authorityText := s.text.takeWhile (!isSlash ·)
  let behind := s.text.dropWhile (!isSlash ·)
  let (authority, rest) ← Authority.read scheme authorityText (s.ends && behind.isEmpty)
  return (authority, rest ++ behind)

/-- Reads the hierarchy of a web scheme: any number of slashes, an authority and a path. -/
def readWeb (scheme : List Char) (s : Hierarchy) : Except Fault (Option Authority × Path) := do
  let (authority, path) ←
    readAuthority scheme isAnySlash { s with text := s.text.dropWhile isAnySlash }
  return (some authority, .ofText isAnySlash path)

/-- Reads the hierarchy of any other scheme: an authority behind two slashes, a path behind one, or
a text. -/
def readPlain (scheme : List Char) (s : Hierarchy) : Except Fault (Option Authority × Path) := do
  match s.text with
  | '/' :: '/' :: rest =>
    let (authority, path) ← readAuthority scheme (· == '/') { s with text := rest }
    return (some authority, if path = [] then .segments [] else .ofText (· == '/') path)
  | '/' :: rest => return (none, .ofText (· == '/') ('/' :: rest))
  | s => return (none, .text (percentEncode isControl s))

/-- A drive in its usual spelling. -/
def usualDrive (drive : List Char) : List Char := drive.take 1 ++ [':']

/-- The path of a file: a drive is spelled with a colon, and empty segments in front are dropped. -/
def filePath (s : List Char) : Path × Bool :=
  match Path.ofText isAnySlash s with
  | .text t => (.text t, false)
  | .segments list => match list.dropWhile (·.isEmpty) with
    | [] => (.segments [[]], false)
    | first :: rest =>
      if Path.isDrive first && list.head? == some first then
        (.segments (usualDrive first :: rest), true)
      else (.segments (first :: rest), false)

/-- Reads the hierarchy of a file: a host behind two slashes, and a path. The host of this computer
is no host, and a drive is on no other. -/
def readFile (s : List Char) : Except Fault (Option Authority × Path) := do
  let (host, path) ← match s with
    | a :: b :: rest =>
      if isAnySlash a && isAnySlash b then
        let hostText := rest.takeWhile (!isAnySlash ·)
        if hostText = [] ∨ Path.isDrive hostText then pure (Host.empty, rest)
        else do
          let host ← Host.readSpecial hostText
          let host := if host = .name "localhost".toList then .empty else host
          pure (host, rest.dropWhile (!isAnySlash ·))
      else pure (.empty, s)
    | _ => pure (.empty, s)
  let (path, onDrive) := filePath path
  return (some (.ofHost (if onDrive then .empty else host)), path)

/-- Reads what is between scheme and query. -/
def readHierarchy (scheme : List Char) (s : Hierarchy) : Except Fault (Option Authority × Path) :=
  if scheme = "file".toList then readFile s.text
  else if (usualPort? scheme).isSome then readWeb scheme s
  else readPlain scheme s

/-- Whether a scheme is one of the web or of files. -/
def isSpecial (scheme : List Char) : Bool :=
  (usualPort? scheme).isSome || scheme = "file".toList

def ofChars (s : List Char) : Except Fault Url := do
  match cutScheme? (clean s) with
  | none => throw .noScheme
  | some (scheme, rest) =>
    let (rest, fragment) := cut '#' rest
    let (rest, query) := cut '?' rest
    let ends := query.isNone && fragment.isNone
    let (authority, path) ← readHierarchy scheme ⟨rest, ends⟩
    return ⟨scheme, authority, path, query.map (percentEncode (escapedInQuery (isSpecial scheme))),
      fragment.map (percentEncode escapedInFragment)⟩

def parse (s : String) : Except Fault Url := ofChars s.toList

end Url

end AppAdmin
