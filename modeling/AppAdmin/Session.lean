import AppAdmin.Json.Printer
import AppAdmin.Json.Record
import AppAdmin.Text.Outline

/-!
The session that a login opens. Its tokens are secrets: no outline shows them.
-/

namespace AppAdmin

structure Session where
  accessToken : String
  refreshToken : String
  userId : String
  deviceId : String
deriving DecidableEq

namespace Session

/-- The session that nothing is known of. -/
def blank : Session := ⟨"", "", "", ""⟩

/-- The members of a session in JSON, in order. -/
def fields : List (Json.Field Session) := [
  .text "access_token" fun s session => { session with accessToken := s },
  .text "refresh_token" fun s session => { session with refreshToken := s },
  .text "user_id" fun s session => { session with userId := s },
  .text "device_id" fun s session => { session with deviceId := s }]

def read : Json.Reader Session := Json.record "AuthResponse" fields blank

def toJson (session : Session) : Json.Value := .record [
  ("access_token", .text session.accessToken), ("refresh_token", .text session.refreshToken),
  ("user_id", .text session.userId), ("device_id", .text session.deviceId)]

/-- The outline, without the tokens. -/
def outline (session : Session) : String :=
  Text.outline "AuthResponse" [("access_token", Text.quoted "<redacted>"),
    ("refresh_token", Text.quoted "<redacted>"), ("user_id", Text.quoted session.userId),
    ("device_id", Text.quoted session.deviceId)] true

end Session

end AppAdmin
