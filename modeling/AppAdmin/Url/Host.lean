import AppAdmin.Url.Idna
import AppAdmin.Url.Ipv4
import AppAdmin.Url.Ipv6
import AppAdmin.Url.Percent

/-!
The host of a URL: a name or an address. The schemes of the web look names up, so that they are
brought into ASCII; for other schemes a name is any text.
-/

namespace AppAdmin.Url

/-- The reasons for refusing a text as a URL. -/
inductive Fault
  | noScheme
  | emptyHost
  | invalidDomain
  | invalidPort
  | invalidIpv4
  | invalidIpv6
  | forbiddenCharacter
deriving DecidableEq

def Fault.message : Fault → String
  | .noScheme => "relative URL without a base"
  | .emptyHost => "empty host"
  | .invalidDomain => "invalid international domain name"
  | .invalidPort => "invalid port number"
  | .invalidIpv4 => "invalid IPv4 address"
  | .invalidIpv6 => "invalid IPv6 address"
  | .forbiddenCharacter => "invalid domain character"

inductive Host
  /-- No host, although the URL has a place for one. -/
  | empty
  | name (s : List Char)
  | ipv4 (address : Ipv4)
  | ipv6 (address : Ipv6)
deriving DecidableEq

namespace Host

/-- The host as it stands in a URL. -/
def text : Host → List Char
  | .empty => []
  | .name s => s
  | .ipv4 a => a.text
  | .ipv6 a => '[' :: a.text ++ [']']

/-- Reads an address in brackets, of which the first has been taken. -/
def readBracketed (s : List Char) : Except Fault Host :=
  match s.getLast? with
  | some ']' => match Ipv6.parse? s.dropLast with
    | some a => .ok (.ipv6 a)
    | none => .error .invalidIpv6
  | _ => .error .invalidIpv6

/-- Reads the ASCII form of a name; if its last part is a number it must be an address. -/
def ofAscii (s : List Char) : Except Fault Host :=
  if s = [] then .error .emptyHost
  else if Ipv4.looksLike s then
    match Ipv4.parse? s with
    | some a => .ok (.ipv4 a)
    | none => .error .invalidIpv4
  else .ok (.name s)

/-- Reads a host that can be looked up. -/
def readSpecial (s : List Char) : Except Fault Host :=
  match s with
  | [] => .error .emptyHost
  | '[' :: rest => readBracketed rest
  | _ =>
    let bytes := percentDecode (Text.Utf8.encode (String.ofList s))
    match Idna.toAscii? (Text.Utf8.decodeLossy bytes).toList with
    | some ascii => ofAscii ascii
    | none => .error .invalidDomain

/-- The characters that no name may have, whatever the scheme. -/
def isForbidden (c : Char) : Bool :=
  c == '\x00' || c == '\t' || c == '\n' || c == '\r' || " #/:<>?@[\\]^|".toList.contains c

/-- Reads a host of any other scheme. -/
def readPlain (s : List Char) : Except Fault Host :=
  match s with
  | [] => .ok .empty
  | '[' :: rest => readBracketed rest
  | _ =>
    if s.any isForbidden then .error .forbiddenCharacter
    else .ok (.name (percentEncode isControl s))

end Host

end AppAdmin.Url
