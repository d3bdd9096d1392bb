import AppAdmin.Url.Percent
import AppAdmin.Url.Split

/-!
The path of a URL: segments behind slashes, or a text that has no parts. A segment of one dot stays
where it is and one of two dots takes the segment before it away, so that no path has such segments.
-/

namespace AppAdmin.Url

inductive Path
  | segments (list : List (List Char))
  | text (s : List Char)
deriving DecidableEq

namespace Path

/-- The path as it stands in a URL. -/
def toText : Path → List Char
  | .segments list => list.flatMap ('/' :: ·)
  | .text s => s

/-- A segment with its escaped dots replaced. -/
def undotted : List Char → List Char
  | '%' :: '2' :: 'e' :: rest => '.' :: undotted rest
  | '%' :: '2' :: 'E' :: rest => '.' :: undotted rest
  | c :: rest => c :: undotted rest
  | [] => []

/-- What a segment asks for. -/
inductive Move
  | stay
  | up
  | into (segment : List Char)
deriving DecidableEq

def Move.of (segment : List Char) : Move :=
  match undotted segment with
  | ['.'] => .stay
  | ['.', '.'] => .up
  | _ => .into (percentEncode escapedInPath segment)

/-- A letter and a colon, or a bar in its place, name a drive. -/
def isDrive : List Char → Bool
  | [c, mark] => c.isAlpha && (mark == ':' || mark == '|')
  | _ => false

/-- The segments, latest first, without the last one. A drive is never left. -/
def leave : List (List Char) → List (List Char)
  | [] => []
  | last :: before => if isDrive last then last :: before else before

/-- Follows segments from where others, latest first, have led. -/
def follow (done : List (List Char)) : List (List Char) → List (List Char)
  | [] => done.reverse
  | segment :: rest =>
    let done := match Move.of segment with
      | .stay => if rest = [] then [] :: done else done
      | .up => if rest = [] then [] :: leave done else leave done
      | .into segment => segment :: done
    follow done rest

/-- Drops a slash in front. -/
def dropSlash (isSlash : Char → Bool) : List Char → List Char
  | c :: rest => if isSlash c then rest else c :: rest
  | [] => []

/-- The segments of a text, behind its first slash. -/
def ofText (isSlash : Char → Bool) (s : List Char) : Path :=
  .segments (follow [] (pieces isSlash (dropSlash isSlash s)))

end Path

end AppAdmin.Url
