import AppAdmin.App
import AppAdmin.Credential
import AppAdmin.Profile
import AppAdmin.Proofs.Json.Records
import AppAdmin.Session

/-!
What the service and the program tell each other. Reader and writer of each type name the same
fields, so that each reads back what the other has written; a login says its two texts and no more.
-/

namespace AppAdmin

open Json (Entry ReadsBack readsBack_record)

namespace App

def entries (app : App) : List (Entry App) := [
  .text "_id" (fun s app => { app with id := s }) app.id,
  .text "client_app_id" (fun s app => { app with clientAppId := s }) app.clientAppId,
  .text "name" (fun s app => { app with name := s }) app.name,
  .text "group_id" (fun s app => { app with groupId := s }) app.groupId]

theorem readsBack (app : App) : ReadsBack read app.toJson app := by
  have hnames : (app.entries.map Entry.name).Nodup :=
    (by decide : ["_id", "client_app_id", "name", "group_id"].Nodup)
  exact readsBack_record "App" app.entries blank hnames

end App

namespace Role

def entries (role : Role) : List (Entry Role) := [
  .text "role_name" (fun s role => { role with name := s }) role.name,
  .text "group_id" (fun s role => { role with groupId := s }) role.groupId]

theorem readsBack (role : Role) : ReadsBack read role.toJson role := by
  have hnames : (role.entries.map Entry.name).Nodup :=
    (by decide : ["role_name", "group_id"].Nodup)
  exact readsBack_record "Role" role.entries blank hnames

end Role

namespace Profile

def entries (profile : Profile) : List (Entry Profile) := [
  .list "roles" Role.read (fun roles _ => ⟨roles⟩) Role.toJson Role.readsBack nofun profile.roles]

theorem readsBack (profile : Profile) : ReadsBack read profile.toJson profile := by
  have hnames : (profile.entries.map Entry.name).Nodup := (by decide : ["roles"].Nodup)
  exact readsBack_record "UserProfile" profile.entries ⟨[]⟩ hnames

end Profile

namespace Session

def entries (session : Session) : List (Entry Session) := [
  .text "access_token" (fun s session => { session with accessToken := s }) session.accessToken,
  .text "refresh_token" (fun s session => { session with refreshToken := s }) session.refreshToken,
  .text "user_id" (fun s session => { session with userId := s }) session.userId,
  .text "device_id" (fun s session => { session with deviceId := s }) session.deviceId]

theorem readsBack (session : Session) : ReadsBack read session.toJson session := by
  have hnames : (session.entries.map Entry.name).Nodup :=
    (by decide : ["access_token", "refresh_token", "user_id", "device_id"].Nodup)
  exact readsBack_record "AuthResponse" session.entries blank hnames

end Session

/-- The members of a login, and their texts. -/
def Credential.members : Credential → List (String × String)
  | .apiKey username secret => [("username", username), ("apiKey", secret)]
  | .password username secret => [("username", username), ("password", secret)]

/-- A login is a record of two texts, whatever these are. -/
theorem Credential.decode_login (c : Credential) :
    ∃ body, c.login.payload.encode = .ok body ∧ Json.Value.decode body =
      .ok (.record (c.members.map fun (name, s) => (name, .text s))) := by
  refine ⟨Text.Utf8.encode c.toJson.compact, rfl, ?_⟩
  have hrecord : c.toJson = .record (c.members.map fun (name, s) => (name, .text s)) := by
    cases c <;> rfl
  rw [← hrecord]
  refine Json.decode_compact ?_
  cases c <;> simp [toJson, Json.Value.FitsIn, Json.MembersFitIn, Json.depthLimit]

end AppAdmin
