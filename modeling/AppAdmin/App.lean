import AppAdmin.Json.Printer
import AppAdmin.Json.Record
import AppAdmin.Text.Outline

/-!
Apps as the service describes them.
-/

namespace AppAdmin

/-- An app. The service knows it by `id`, its users by `clientAppId`. -/
structure App where
  id : String
  clientAppId : String
  name : String
  groupId : String
deriving DecidableEq

namespace App

/-- The app that nothing is known of. -/
def blank : App := ⟨"", "", "", ""⟩

/-- The members of an app in JSON, in order. -/
def fields : List (Json.Field App) := [
  .text "_id" fun s app => { app with id := s },
  .text "client_app_id" fun s app => { app with clientAppId := s },
  .text "name" fun s app => { app with name := s },
  .text "group_id" fun s app => { app with groupId := s }]

def read : Json.Reader App := Json.record "App" fields blank

def toJson (app : App) : Json.Value := .record [
  ("_id", .text app.id), ("client_app_id", .text app.clientAppId), ("name", .text app.name),
  ("group_id", .text app.groupId)]

/-- The first app that users know by the given id. -/
def find? (apps : List App) (clientAppId : String) : Option App :=
  apps.find? (·.clientAppId == clientAppId)

def outline (app : App) : String :=
  Text.outline "App" [("id", Text.quoted app.id), ("client_app_id", Text.quoted app.clientAppId),
    ("name", Text.quoted app.name), ("group_id", Text.quoted app.groupId)] true

end App

end AppAdmin
