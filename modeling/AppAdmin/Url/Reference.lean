import AppAdmin.Url

/-!
References: what a text means where a URL is known already. A reference may leave out what it shares
with that URL, from the front.
-/

namespace AppAdmin.Url

/-- What counts as a slash in the URLs of a scheme. -/
def isSlashOf (scheme : List Char) (c : Char) : Bool :=
  if isSpecial scheme then isAnySlash c else c == '/'

/-- The path that segments lead to from the folder of another path. -/
def Path.beside (here : Path) (segments : List (List Char)) : Path :=
  match here with
  | .segments list => .segments (follow list.dropLast.reverse segments)
  | .text _ => .segments (follow [] segments)

/-- Authority and path of a reference, read as far as it gives them. -/
def referredPlace (base : Url) (s : Hierarchy) : Except Fault (Option Authority × Path) :=
  let isSlash := isSlashOf base.scheme
  match s.text with
  | [] => .ok (base.authority, base.path)
  | a :: rest =>
    if !isSlash a then .ok (base.authority, base.path.beside (pieces isSlash s.text))
    else if (rest.head?.map isSlash).getD false then readHierarchy base.scheme s
    else .ok (base.authority, .ofText isSlash s.text)

/-- The URL that a reference without a scheme of its own means. -/
def referredFrom (base : Url) (s : List Char) : Except Fault Url := do
  let (rest, fragment) := cut '#' s
  let (rest, query) := cut '?' rest
  let (authority, path) ← referredPlace base ⟨rest, query.isNone && fragment.isNone⟩
  let escaped := query.map (percentEncode (escapedInQuery (isSpecial base.scheme)))
  let query := if rest = [] then escaped.or base.query else escaped
  return ⟨base.scheme, authority, path, query, fragment.map (percentEncode escapedInFragment)⟩

/-- The URL that a reference means. The scheme may be given even where the rest is left out. -/
def refer (base : Url) (s : List Char) : Except Fault Url :=
  match cutScheme? (clean s) with
  | none => referredFrom base (clean s)
  | some (scheme, rest) =>
    if scheme = base.scheme ∧ isSpecial scheme ∧ !(['/', '/'].isPrefixOf rest) then
      referredFrom base rest
    else ofChars s

end AppAdmin.Url
