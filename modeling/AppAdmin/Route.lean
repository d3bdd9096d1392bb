import AppAdmin.Text.Hex
import AppAdmin.Text.Utf8

/-!
The routes of the admin API. A route is a path and, for imports, a query in form encoding.
-/

namespace AppAdmin

/-- Form encoding of names and values: a blank becomes a plus, and every byte that is not an ASCII
letter, a digit or one of `*-._` becomes a percent sign with two hexadecimal digits. -/
def formByte (b : UInt8) : List Char :=
  let c := Char.ofNat b.toNat
  if b < 0x80 && (c.isAlphanum || c == '*' || c == '-' || c == '.' || c == '_') then [c]
  else if c = ' ' then ['+']
  else ['%', Text.upperHexDigit (b.toNat / 16), Text.upperHexDigit (b.toNat % 16)]

def formEncode (s : String) : String :=
  String.ofList ((Text.Utf8.encode s).flatMap formByte)

/-- The resources of the admin API that are used. -/
inductive Route
  | login (provider : String)
  /-- The profile of the user who is logged in. -/
  | profile
  | apps (group : String)
  /-- The archive of an app. -/
  | exportApp (group app : String)
  /-- The import of an archive into an app, or with `dryRun` the list of its changes. -/
  | importApp (group app strategy : String) (dryRun : Bool)
deriving DecidableEq

namespace Route

/-- The beginning of all paths. -/
def base : String := "/api/admin/v3.0"

/-- The path with its query. -/
def path : Route → String
  | .login provider => base ++ "/auth/providers/" ++ provider ++ "/login"
  | .profile => base ++ "/auth/profile"
  | .apps group => base ++ "/groups/" ++ group ++ "/apps"
  | .exportApp group app => base ++ "/groups/" ++ group ++ "/apps/" ++ app ++ "/export"
  | .importApp group app strategy dryRun =>
    base ++ "/groups/" ++ group ++ "/apps/" ++ app ++ "/import?strategy=" ++ formEncode strategy
      ++ if dryRun then "&diff=true" else ""

end Route

end AppAdmin
