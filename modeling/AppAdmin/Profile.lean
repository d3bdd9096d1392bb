import AppAdmin.Json.Printer
import AppAdmin.Json.Record
import AppAdmin.Text.Outline

/-!
The profile of the user who is logged in: the roles held, and the groups that they reach.
-/

namespace AppAdmin

/-- A role. One without a group is held everywhere. -/
structure Role where
  name : String
  groupId : String
deriving DecidableEq

namespace Role

/-- The role that nothing is known of. -/
def blank : Role := ⟨"", ""⟩

/-- The members of a role in JSON, in order. -/
def fields : List (Json.Field Role) := [
  .text "role_name" fun s role => { role with name := s },
  .text "group_id" fun s role => { role with groupId := s }]

def read : Json.Reader Role := Json.record "Role" fields blank

def toJson (role : Role) : Json.Value :=
  .record [("role_name", .text role.name), ("group_id", .text role.groupId)]

def outline (role : Role) : String :=
  Text.outline "Role"
    [("role_name", Text.quoted role.name), ("group_id", Text.quoted role.groupId)] true

end Role

structure Profile where
  roles : List Role
deriving DecidableEq

namespace Profile

/-- The member of a profile in JSON. -/
def fields : List (Json.Field Profile) :=
  [.list "roles" Role.read fun roles _ => ⟨roles⟩]

def read : Json.Reader Profile := Json.record "UserProfile" fields ⟨[]⟩

def toJson (profile : Profile) : Json.Value :=
  .record [("roles", .list (profile.roles.map Role.toJson))]

/-- Adds the group of a role to the groups found before it. -/
def addGroup (groups : List String) (role : Role) : List String :=
  if role.groupId = "" ∨ role.groupId ∈ groups then groups else groups ++ [role.groupId]

/-- The groups of the roles, each once, in the order of the first role that names it. -/
def groupIds (profile : Profile) : List String :=
  profile.roles.foldl addGroup []

end Profile

end AppAdmin
