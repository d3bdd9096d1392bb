import AppAdmin.Message.Redirect
import AppAdmin.Settings

/-!
The connection to the service. A request is put together with the base URL into a message, which a
network delivers. What cannot be put together is never sent.
-/

namespace AppAdmin

/-- A call of the transport: a request, and the token that goes with it. -/
structure Call where
  token : Option String
  request : Request
deriving DecidableEq

/-- A line to the service: the state of the network, and the calls that were made. -/
structure Line (ν : Type) where
  network : ν
  calls : List Call

structure Connection where
  base : Url
  timeoutSeconds : Nat
  userAgent : Option String
  token : Option String

namespace Connection

/-- Whether a text can stand in a header: it has no controls but the tab. -/
def isHeaderValue (s : String) : Bool :=
  s.toList.all fun c => c == '\t' || 0x20 ≤ c.toNat && c.toNat != 0x7F

/-- Whether a text can name a header. -/
def isHeaderName (s : String) : Bool :=
  s != "" && s.length < 65536
    && s.toList.all fun c => c.isAlphanum || "!#$%&'*+-.^_\x60|~".toList.contains c

/-- The complaint about a text that no header can have. -/
def badHeader : TransportError := .other "builder error"

/-- The complaint about a URL that cannot be asked. -/
def badUrl (u : Url) : TransportError :=
  .invalidUrl ("builder error for url (" ++ u.text ++ "): " ++ u.text)

/-- The connection that settings describe. -/
def ofSettings (s : Settings) : Except TransportError Connection := do
  match s.url with
  | .error e => throw (.invalidUrl e.message)
  | .ok base =>
    if isHeaderValue s.userAgent then return ⟨base, s.timeoutSeconds, s.userAgent, none⟩
    else throw badHeader

/-- The connection to any base URL. -/
def plain (base : Url) (timeoutSeconds : Nat) : Connection := ⟨base, timeoutSeconds, none, none⟩

def withToken (c : Connection) (token : String) : Connection := { c with token := token }

/-- The outline, without token and user agent. -/
def outline (c : Connection) : String :=
  Text.outline "ReqwestHttpClient" [("base_url", Text.quoted c.base.text),
    ("timeout", Settings.spanText c.timeoutSeconds),
    ("authenticated", if c.token.isSome then "true" else "false")] false

/-- Drops the slashes at the end. -/
def trimSlashes (s : List Char) : List Char := (s.reverse.dropWhile (· == '/')).reverse

/-- The text of the base URL without slashes at its end, and a path behind it. -/
def target (base : Url) (path : String) : List Char := trimSlashes base.chars ++ path.toList

def resolve (c : Connection) (path : String) : Except TransportError Url :=
  match Url.ofChars (target c.base path) with
  | .ok u => .ok u
  | .error e =>
    .error (.invalidUrl (e.message ++ ": " ++ String.ofList (target c.base path)))

/-- A text with its escapes replaced, if it is a text then. -/
def unescaped? (s : List Char) : Option String :=
  Text.Utf8.decode? (Url.percentDecode (Text.Utf8.encode (String.ofList s)))

/-- User name and password of a URL, as far as they are texts; a URL that gives them is sent without
them. -/
def cutLogin (u : Url) : Option (String × Option String) × Url :=
  match u.authority with
  | none => (none, u)
  | some a => match unescaped? a.username with
    | none => (none, u)
    | some name =>
      let password := a.password.bind unescaped?
      if name ≠ "" ∨ password.isSome then (some (name, password), u.withoutUserinfo)
      else (none, u)

/-- Whether a URL can be asked for over the web. Some characters that a host may have elsewhere are
no part of a request. -/
def canAsk (u : Url) : Bool :=
  let host := (u.authority.map (·.host.text)).getD []
  (u.scheme = "http".toList || u.scheme = "https".toList)
    && !host.any (fun c => c == '"' || c == '\x60' || c == '\x7b' || c == '\x7d')
    && u.chars.length < 65535

def message (c : Connection) (r : Request) : Except TransportError Message := do
  let u ← c.resolve r.path
  if !u.hasHost then throw (badUrl u)
  let (login, u) := cutLogin u
  if !(c.token.all isHeaderValue) then throw badHeader
  if !(r.content.headers.items.all fun h => isHeaderName h.name && isHeaderValue h.value) then
    throw badHeader
  if !canAsk u then throw (badUrl u)
  return {
    method := r.method
    url := u
    login := login
    token := c.token
    userAgent := c.userAgent
    headers := r.content.headers
    body := r.content.body
    patience := c.timeoutSeconds }

/-- The timeout in milliseconds, as far as 64 bits go. -/
def timeoutMilliseconds (c : Connection) : Nat :=
  min (c.timeoutSeconds * 1000) Number.maxNatural64

/-- The transport error of a message that got no reply. -/
def failure (c : Connection) (f : Network.Failure) : TransportError :=
  match f.fault with
  | .timedOut => .timeout c.timeoutMilliseconds
  | .unreachable => .connectionFailed ("error sending request for url (" ++ f.url.text ++ ")")
  | .broken => .other ("error sending request for url (" ++ f.url.text ++ ")")
  | .sentOnTooOften => .other ("error following redirect for url (" ++ f.url.text ++ ")")

/-- How often a message may be sent on. -/
def redirectLimit : Nat := 10

/-- The transport over a connection. -/
def transport {ν : Type} (c : Connection) (network : Network ν) : Transport (Line ν)
  | r, line =>
    let line := { line with calls := line.calls ++ [⟨c.token, r⟩] }
    match c.message r with
    | .error e => (.error e, line)
    | .ok m =>
      let (reply, state) := network.sendingOn redirectLimit m line.network
      (reply.mapError c.failure, { line with network := state })

end Connection

end AppAdmin
