import AppAdmin.Json.Printer
import AppAdmin.Text.Outline
import AppAdmin.Text.Utf8

/-!
Credentials and the logins that they make: the name of a provider, which picks the route, and a
payload, which is the body of the request.
-/

namespace AppAdmin

/-- Why a value cannot be written as JSON: a key of it is nothing that is written as a text, or its
type has a reason of its own. -/
inductive PayloadFault
  | keyNotText
  | other (detail : String)
deriving DecidableEq

def PayloadFault.message : PayloadFault → String
  | .keyNotText => "key must be a string"
  | .other detail => detail

/-- What a login sends. -/
inductive Payload
  /-- A JSON value. -/
  | json (value : Json.Value)
  /-- A value of another type, of which only what comes of writing it counts: which values can be
  written, and how, is left to their types. -/
  | written (outcome : Except PayloadFault Bytes)

/-- The payload as JSON text in UTF-8. -/
def Payload.encode : Payload → Except PayloadFault Bytes
  | .json value => .ok (Text.Utf8.encode value.compact)
  | .written outcome => outcome

/-- A login: provider and payload. -/
structure Login where
  provider : String
  payload : Payload

/-- The credentials that the service knows of by itself. -/
inductive Credential
  | apiKey (username secret : String)
  | password (username secret : String)
deriving DecidableEq

namespace Credential

/-- The provider of programmatic keys. -/
def apiKeyProvider : String := "mongodb-cloud"

/-- The provider of local users. -/
def passwordProvider : String := "local-userpass"

def toJson : Credential → Json.Value
  | .apiKey username secret => .record [("username", .text username), ("apiKey", .text secret)]
  | .password username secret =>
    .record [("username", .text username), ("password", .text secret)]

/-- The provider that checks the credential. -/
def provider : Credential → String
  | .apiKey .. => apiKeyProvider
  | .password .. => passwordProvider

/-- The login with the credential. -/
def login (c : Credential) : Login := ⟨c.provider, .json c.toJson⟩

/-- The outline, without the secret. -/
def outline : Credential → String
  | .apiKey username _ => Text.outline "ApiKeyProvider"
    [("username", Text.quoted username), ("api_key", Text.quoted "<redacted>")] true
  | .password username _ => Text.outline "UserPasswordProvider"
    [("username", Text.quoted username), ("password", Text.quoted "<redacted>")] true

end Credential

end AppAdmin
