import AppAdmin.Disposition.Parameters
import AppAdmin.Text.Ascii
import AppAdmin.Text.Blank
import AppAdmin.Text.Hex
import AppAdmin.Text.Outline
import AppAdmin.Text.Utf8

/-!
The value of a `Content-Disposition` header: a kind, which is a token or a pair of tokens with a
slash, and parameters `; name=value` whose values are tokens or quoted. A parameter whose name ends
in a star spells its value in percent escapes with a charset in front; if it can be decoded it takes
the place of the parameter without the star.
-/

namespace AppAdmin

/-- A parsed header value. -/
structure Disposition where
  kind : String
  params : Parameters
deriving DecidableEq

namespace Disposition

/-- The reasons for refusing a header value. -/
inductive Fault
  | noMediaType
  | expectedSlash
  | expectedToken
  | invalidParameter
  | duplicateParameter (name : String)
deriving DecidableEq

def Fault.message : Fault → String
  | .noMediaType => "no media type"
  | .expectedSlash => "expected slash after first token"
  | .expectedToken => "expected token after slash"
  | .invalidParameter => "invalid media parameter"
  | .duplicateParameter name => "duplicate parameter name: " ++ name

/-- The characters that separate tokens. -/
def isSpecial (c : Char) : Bool :=
  c == '(' || c == ')' || c == '<' || c == '>' || c == '@' || c == ',' || c == ';' || c == ':'
    || c == '\\' || c == '"' || c == '/' || c == '[' || c == ']' || c == '?' || c == '='

/-- The characters of a token: visible ASCII without the special ones. -/
def isTokenChar (c : Char) : Bool :=
  0x20 < c.toNat && c.toNat < 0x7F && !isSpecial c

/-- The longest token in front. -/
def tokenOf (s : List Char) : List Char := s.takeWhile isTokenChar

/-- What follows the longest token in front. -/
def afterToken (s : List Char) : List Char := s.dropWhile isTokenChar

/-- Checks the kind: a token, or two with a slash between them. -/
def checkKind (s : List Char) : Except Fault Unit :=
  if tokenOf s = [] then .error .noMediaType
  else match afterToken s with
  | [] => .ok ()
  | c :: rest =>
    if c ≠ '/' then .error .expectedSlash
    else if tokenOf rest = [] ∨ afterToken rest ≠ [] then .error .expectedToken
    else .ok ()

/-- Reads a quoted value whose opening quote has been taken. A backslash before a special character
stands for that character, any other backslash for itself; `escaped` says that one came last. -/
def readQuoted (acc : List Char) (escaped : Bool) : List Char → Option (List Char × List Char)
  | [] => none
  | c :: rest =>
    if escaped && isSpecial c then readQuoted (c :: acc) false rest
    else
      let acc := if escaped then '\\' :: acc else acc
      if c = '"' then some (acc.reverse, rest)
      else if c = '\\' then readQuoted acc true rest
      else if c = '\r' ∨ c = '\n' then none
      else readQuoted (c :: acc) false rest

/-- Reads a value: a token or a quoted text. -/
def readValue (s : List Char) : Option (List Char × List Char) :=
  match s with
  | '"' :: rest => readQuoted [] false rest
  | _ => if tokenOf s = [] then none else some (tokenOf s, afterToken s)

/-- Takes an expected character, with white space allowed before and behind it. -/
def readMark (mark : Char) (s : List Char) : Option (List Char) :=
  match Text.trimStart s with
  | [] => none
  | c :: rest => if c = mark then some (Text.trimStart rest) else none

/-- Reads `; name=value`. The name is made lower case. -/
def readParameter (s : List Char) : Option ((List Char × List Char) × List Char) :=
  match readMark ';' s with
  | none => none
  | some s =>
    if tokenOf s = [] then none
    else match readMark '=' (afterToken s) with
    | none => none
    | some rest => match readValue rest with
      | none => none
      | some (value, rest) => some (((tokenOf s).map Char.toLower, value), rest)

theorem length_afterToken_le (s : List Char) : (afterToken s).length ≤ s.length :=
  (List.dropWhile_suffix isTokenChar).length_le

theorem length_readQuoted {acc s value rest : List Char} {escaped : Bool}
    (h : readQuoted acc escaped s = some (value, rest)) : rest.length < s.length := by
  induction s generalizing acc escaped with
  | nil => simp [readQuoted] at h
  | cons c s ih =>
    simp only [readQuoted] at h
    split at h
    · exact Nat.lt_succ_of_lt (ih h)
    · split at h
      · simp only [Option.some.injEq, Prod.mk.injEq] at h
        simp [← h.2]
      · split at h
        · exact Nat.lt_succ_of_lt (ih h)
        · split at h
          · simp at h
          · exact Nat.lt_succ_of_lt (ih h)

theorem length_readValue {s value rest : List Char} (h : readValue s = some (value, rest)) :
    rest.length ≤ s.length := by
  unfold readValue at h
  split at h
  · have := length_readQuoted h
    simp only [List.length_cons]
    omega
  · split at h
    · simp at h
    · simp only [Option.some.injEq, Prod.mk.injEq] at h
      rw [← h.2]
      exact length_afterToken_le s

theorem length_readMark {mark : Char} {s rest : List Char} (h : readMark mark s = some rest) :
    rest.length < s.length := by
  unfold readMark at h
  split at h
  · simp at h
  · rename_i c after htrim
    split at h
    · simp only [Option.some.injEq] at h
      subst h
      have h₁ := Text.length_trimStart_le s
      have h₂ := Text.length_trimStart_le after
      rw [htrim] at h₁
      simp only [List.length_cons] at h₁
      omega
    · simp at h

/-- A parameter uses up at least one character. -/
theorem length_readParameter {s rest : List Char} {param : List Char × List Char}
    (h : readParameter s = some (param, rest)) : rest.length < s.length := by
  unfold readParameter at h
  split at h
  · simp at h
  · rename_i s₁ h₁
    split at h
    · simp at h
    · split at h
      · simp at h
      · rename_i s₂ h₂
        split at h
        · simp at h
        · rename_i value s₃ h₃
          simp only [Option.some.injEq, Prod.mk.injEq] at h
          have l₁ := length_readMark h₁
          have l₂ := length_readMark h₂
          have l₃ := length_readValue h₃
          have l₄ := length_afterToken_le s₁
          rw [← h.2]
          omega

/-- Reads parameters up to the end, the plain ones and the ones with a star apart. One semicolon may
trail; a name may not come twice. -/
def readParameters (plain starred : Parameters) (s : List Char) :
    Except Fault (Parameters × Parameters) :=
  if Text.trimStart s = [] then .ok (plain, starred)
  else match _h : readParameter (Text.trimStart s) with
  | none => if Text.trim s = [';'] then .ok (plain, starred) else .error .invalidParameter
  | some ((name, value), rest) =>
    let key := String.ofList name
    let value := String.ofList value
    if name.getLast? = some '*' then
      if (starred.get? key).isSome then .error (.duplicateParameter key)
      else readParameters plain (starred.insert key value) rest
    else if (plain.get? key).isSome then .error (.duplicateParameter key)
    else readParameters (plain.insert key value) starred rest
termination_by s.length
decreasing_by
  all_goals
    have h₁ := length_readParameter _h
    have h₂ := Text.length_trimStart_le s
    omega

/-- The bytes that a text with percent escapes spells. -/
def percentBytes : List Char → Option Bytes
  | [] => some []
  | c :: rest =>
    if c = '%' then
      match rest with
      | a :: b :: rest => do
        let high ← Text.hexDigit? a
        let low ← Text.hexDigit? b
        return UInt8.ofNat (high * 16 + low) :: (← percentBytes rest)
      | _ => none
    else (percentBytes rest).map (Text.Utf8.encodeChar c ++ ·)

/-- The charsets of starred values. -/
def isKnownCharset (charset : List Char) : Bool :=
  let name := String.ofList (charset.map Char.toLower)
  name == "utf-8" || name == "us-ascii"

/-- Decodes the value `charset'language'escapes` of a starred parameter. -/
def decodeStarred (raw : List Char) : Option String :=
  let afterMark (s : List Char) : Option (List Char) := (s.dropWhile (· != '\'')).tail?
  do
    let rest ← afterMark raw
    let escapes ← afterMark rest
    if isKnownCharset (raw.takeWhile (· != '\'')) then
      Text.Utf8.decode? (← percentBytes escapes)
    else none

/-- The name without the stars behind it. -/
def dropStars (name : String) : String :=
  String.ofList (name.toList.reverse.dropWhile (· == '*')).reverse

/-- Adds a starred parameter to the plain ones: decoded under the plain name, or else as it is. -/
def addStarred (params : Parameters) (entry : String × String) : Parameters :=
  match decodeStarred entry.2.toList with
  | some value => params.insert (dropStars entry.1) value
  | none => params.insert entry.1 entry.2

def parse (header : String) : Except Fault Disposition := do
  let base := header.toList.takeWhile (· != ';')
  let kind := (Text.trim base).map Char.toLower
  checkKind kind
  let (plain, starred) ← readParameters .empty .empty (header.toList.dropWhile (· != ';'))
  return ⟨String.ofList kind, starred.entries.foldl addStarred plain⟩

/-- The value of a parameter; the case of its name does not matter. -/
def param? (d : Disposition) (name : String) : Option String :=
  d.params.get? (Text.lowered name)

/-- The file name, if there is one that is not empty. -/
def filename? (d : Disposition) : Option String :=
  (d.param? "filename").filter (· ≠ "")

def outline (d : Disposition) : String :=
  Text.outline "ContentDisposition" [("disposition", Text.quoted d.kind),
    ("params", Text.outlineMap (d.params.entries.map fun (name, value) =>
      (Text.quoted name, Text.quoted value)))] true

end Disposition

end AppAdmin
