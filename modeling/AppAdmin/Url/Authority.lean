import AppAdmin.Number.Decimal
import AppAdmin.Url.Host

/-!
The authority of a URL: who asks, and which host and port are asked.
-/

namespace AppAdmin.Url

/-- The schemes that are looked up in the web, with their usual ports. -/
def usualPort? (scheme : List Char) : Option Nat :=
  if scheme = "http".toList ∨ scheme = "ws".toList then some 80
  else if scheme = "https".toList ∨ scheme = "wss".toList then some 443
  else if scheme = "ftp".toList then some 21
  else none

/-- An authority. A password is not empty, and a port is not the usual one. -/
structure Authority where
  username : List Char
  password : Option (List Char)
  host : Host
  port : Option Nat
deriving DecidableEq

namespace Authority

/-- The authority of a host alone. -/
def ofHost (host : Host) : Authority := ⟨[], none, host, none⟩

/-- Whether user name or password are given. -/
def hasUserinfo (a : Authority) : Bool := a.username ≠ [] || a.password.isSome

/-- User name and password, with an at sign behind them. -/
def userinfoText (a : Authority) : List Char :=
  if a.hasUserinfo then
    a.username ++ (match a.password with
      | some p => ':' :: p
      | none => []) ++ ['@']
  else []

def portText (a : Authority) : List Char :=
  match a.port with
  | some n => ':' :: Nat.toDigits 10 n
  | none => []

/-- The authority as it stands in a URL. -/
def text (a : Authority) : List Char := a.userinfoText ++ a.host.text ++ a.portText

/-- Reads user name and password. An empty password is none. -/
def readUserinfo (s : List Char) : List Char × Option (List Char) :=
  match cut ':' s with
  | (name, some (c :: password)) =>
    (percentEncode escapedInUserinfo name, some (percentEncode escapedInUserinfo (c :: password)))
  | (name, _) => (percentEncode escapedInUserinfo name, none)

/-- The text of the host and what follows it. A colon ends the host unless it is in brackets. -/
def cutHost (bracketed : Bool) : List Char → List Char × List Char
  | [] => ([], [])
  | c :: rest =>
    if c = ':' ∧ !bracketed then ([], c :: rest)
    else
      let (host, behind) :=
        cutHost (if c = '[' then true else if c = ']' then false else bracketed) rest
      (c :: host, behind)

/-- Reads a port behind its colon. The digits end at a backslash or at the end. -/
def readPort (usual : Option Nat) (s : List Char) : Except Fault (Option Nat × List Char) :=
  let digits := s.takeWhile Char.isDigit
  let behind := s.dropWhile Char.isDigit
  let n := Number.ofDigits digits
  if 65535 < n then .error .invalidPort
  else if behind.head?.getD '\\' ≠ '\\' then .error .invalidPort
  else .ok (if digits = [] ∨ some n = usual then none else some n, behind)

/-- Reads host and port; what is left over belongs to the path. -/
def readHostPort (scheme s : List Char) : Except Fault (Host × Option Nat × List Char) := do
  let usual := usualPort? scheme
  let (hostText, behind) := cutHost false s
  let host ← if usual.isSome then Host.readSpecial hostText else Host.readPlain hostText
  match behind with
  | [] => return (host, none, [])
  | _ :: portText =>
    if host = .empty then throw .emptyHost
    let (port, rest) ← readPort usual portText
    return (host, port, rest)

/-- Reads an authority; what is left over belongs to the path. `ends` says that nothing at all
follows the text. -/
def read (scheme s : List Char) (ends : Bool) : Except Fault (Authority × List Char) := do
  match cutLast '@' s with
  | (none, s) =>
    let (host, port, rest) ← readHostPort scheme s
    return (⟨[], none, host, port⟩, rest)
  | (some userinfo, s) =>
    if userinfo = [] ∧ s = [] ∧ !ends then throw .emptyHost
    let (username, password) := readUserinfo userinfo
    let (host, port, rest) ← readHostPort scheme s
    let authority : Authority := ⟨username, password, host, port⟩
    if host = .empty ∧ authority.hasUserinfo then throw .emptyHost
    return (authority, rest)

end Authority

end AppAdmin.Url
