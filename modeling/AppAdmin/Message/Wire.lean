import AppAdmin.Message
import AppAdmin.Number.Decimal
import AppAdmin.Text.Hex

/-!
Messages and replies as bytes on a wire: lines of text, an empty line, and a body. Each message has
a wire of its own, which the other side closes behind its reply. A login is written in the base of 64
signs: three bytes make four signs, and equals signs fill the last four.
-/

namespace AppAdmin.Text.Base64

/-- The sign of a value below 64. -/
def sign (n : Nat) : Char :=
  if n < 26 then Char.ofNat (0x41 + n)
  else if n < 52 then Char.ofNat (0x61 + (n - 26))
  else if n < 62 then Char.ofNat (0x30 + (n - 52))
  else if n = 62 then '+' else '/'

/-- The signs for up to three bytes, which are put together to one number. -/
def signs (n count : Nat) : List Char :=
  let all := [n / 262144, n / 4096 % 64, n / 64 % 64, n % 64].map sign
  all.take (count + 1) ++ List.replicate (3 - count) '='

/-- The text of bytes. -/
def encode : Bytes → List Char
  | a :: b :: c :: rest =>
    signs (a.toNat * 65536 + b.toNat * 256 + c.toNat) 3 ++ encode rest
  | [a, b] => signs (a.toNat * 65536 + b.toNat * 256) 2
  | [a] => signs (a.toNat * 65536) 1
  | [] => []

end AppAdmin.Text.Base64

namespace AppAdmin

namespace Message

/-- The headers that a message has of its own, unless others of their names are given. -/
def usualHeaders (m : Message) : List (String × String) :=
  let host := (m.url.authority.map fun a => a.host.text ++ a.portText).getD []
  let all := [("host", String.ofList host), ("accept", "*/*")]
    ++ (m.userAgent.map fun name => ("user-agent", name)).toList
  all.filter fun (name, _) => (m.headers.get? name).isNone

/-- The headers that prove who is asking. -/
def proofs (m : Message) : List (String × String) :=
  let ofLogin (name : String) (password : Option String) : String :=
    "Basic " ++ String.ofList
      (Text.Base64.encode (Text.Utf8.encode (name ++ ":" ++ password.getD "")))
  (m.login.map fun (name, password) => ("authorization", ofLogin name password)).toList
    ++ (m.token.map fun token => ("authorization", "Bearer " ++ token)).toList

/-- The headers that say where the message ends. -/
def endHeaders (m : Message) : List (String × String) :=
  (m.body.map fun body => ("content-length", toString body.length)).toList
    ++ [("connection", "close")]

/-- What is asked for: path and query. -/
def target (m : Message) : String :=
  String.ofList (m.url.path.toText ++ Url.markedText '?' m.url.query)

def toWire (m : Message) : Bytes :=
  let given := m.headers.items.map fun h => (h.name, h.value)
  let headers := m.usualHeaders ++ m.proofs ++ given ++ m.endHeaders
  let lines := (m.method.name ++ " " ++ m.target ++ " HTTP/1.1")
    :: headers.map fun (name, value) => name ++ ": " ++ value
  Text.Utf8.encode (String.join (lines.map (· ++ "\r\n")) ++ "\r\n") ++ m.body.getD []

end Message

namespace Reply

/-- A line and what is behind it, if it has an end; `line` holds the bytes before, latest first. -/
def cutLine? (line : Bytes) : Bytes → Option (Bytes × Bytes)
  | [] => none
  | b :: rest =>
    if b = 0x0A then
      some ((if line.head? = some 0x0D then line.drop 1 else line).reverse, rest)
    else cutLine? (b :: line) rest

theorem length_cutLine? {line s a b : Bytes} (h : cutLine? line s = some (a, b)) :
    b.length < s.length := by
  induction s generalizing line with
  | nil => simp [cutLine?] at h
  | cons c rest ih =>
    simp only [cutLine?] at h
    split at h
    · simp only [Option.some.injEq, Prod.mk.injEq] at h
      simp [← h.2]
    · have := ih h
      simp only [List.length_cons]
      omega

/-- The lines before an empty one, and what is behind that. -/
def cutLines? (s : Bytes) : Option (List Bytes × Bytes) :=
  match h : cutLine? [] s with
  | none => none
  | some ([], rest) => some ([], rest)
  | some (line, rest) =>
    have := length_cutLine? h
    (cutLines? rest).map fun (lines, behind) => (line :: lines, behind)
termination_by s.length

/-- The status in the first line of a reply. -/
def statusIn? (line : Bytes) : Option Status :=
  match (Text.Utf8.decodeLossy line).splitOn " " with
  | version :: code :: _ =>
    if "HTTP/1.".toList.isPrefixOf version.toList ∧ code.length = 3 then
      (Number.digits? code.toList).map fun n => ⟨UInt16.ofNat n⟩
    else none
  | _ => none

/-- A text without blanks at its ends. -/
def trimmed (s : List Char) : String :=
  let isBlank (c : Char) : Bool := c == ' ' || c == '\t'
  String.ofList ((s.dropWhile isBlank).reverse.dropWhile isBlank).reverse

/-- The header in a line. -/
def headerIn? (line : Bytes) : Option Header :=
  let s := (Text.Utf8.decodeLossy line).toList
  match s.dropWhile (· != ':') with
  | _ :: value => some ⟨Text.lowered (String.ofList (s.takeWhile (· != ':'))), trimmed value⟩
  | [] => none

/-- The failure of a body that breaks off. -/
def brokenOff : Arrival := .failure ⟨"Other", "error decoding response body"⟩

/-- A body of a known length. -/
def bodyOfLength (n : Nat) (s : Bytes) : Body :=
  .piece (s.take n) :: if s.length < n then [brokenOff] else []

/-- The length of a chunk, in hexadecimal digits, of which there is one at least. -/
def chunkLength? (line : Bytes) : Option Nat :=
  let s := (Text.Utf8.decodeLossy line).toList.takeWhile fun c => (Text.hexDigit? c).isSome
  if s = [] then none else some (Text.hexNumber s)

/-- A body in chunks. Each has its length in a line before it and an empty line behind it; the one
of length zero is the last. -/
def bodyOfChunks (s : Bytes) : Body :=
  match h : cutLine? [] s with
  | none => [brokenOff]
  | some (line, rest) => match chunkLength? line with
    | none => [brokenOff]
    | some 0 => []
    | some n =>
      have := length_cutLine? h
      if rest.length < n + 2 then [.piece (rest.take n), brokenOff]
      else .piece (rest.take n) :: bodyOfChunks (rest.drop (n + 2))
termination_by s.length
decreasing_by simp only [List.length_drop]; omega

/-- The body behind the headers of a reply. -/
def bodyIn (status : Status) (headers : Headers) (s : Bytes) : Body :=
  if status = .noContent ∨ status.code = 304 then []
  else if ((headers.get? "transfer-encoding").map Text.lowered) = some "chunked" then bodyOfChunks s
  else match (headers.get? "content-length").bind (Number.digits? ·.toList) with
    | some n => bodyOfLength n s
    | none => [.piece s]

/-- The reply in the bytes of a wire. -/
def ofWire? (s : Bytes) : Option Reply := do
  match ← cutLines? s with
  | ([], _) => none
  | (first :: lines, rest) =>
    let status ← statusIn? first
    let headers : Headers := ⟨lines.filterMap headerIn?⟩
    return ⟨status, headers, bodyIn status headers rest⟩

end Reply

end AppAdmin
