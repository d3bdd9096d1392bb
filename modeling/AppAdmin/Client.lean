import AppAdmin.App
import AppAdmin.Credential
import AppAdmin.Disposition
import AppAdmin.Exchange
import AppAdmin.Profile
import AppAdmin.Route
import AppAdmin.ServiceError
import AppAdmin.Session

/-!
The operations of the admin API. Each sends a request over a transport, compares the status with the
one that means success, and reads the body as an answer or as a refusal. No body stays open but the
archive of an export.
-/

namespace AppAdmin

/-- The reasons for an operation to fail. -/
inductive ClientError
  | transport (cause : TransportError)
  | serialization (cause : PayloadFault)
  | bodyRead (cause : ReadFailure)
  | protocol (cause : Json.Error)
  | service (cause : ServiceError)
  | authentication (status : Status) (cause : ServiceError)
  | disposition (cause : Disposition.Fault)
  | exportMissingFilename
  | appNotFound (clientAppId : String)

/-- The kinds of failure: no response came, the exchange broke, the service refused, or the answer
does not serve the purpose. -/
inductive ClientError.Kind
  | transport
  | protocol
  | service
  | domain
deriving DecidableEq

namespace ClientError

def kind : ClientError → Kind
  | .transport _ => .transport
  | .serialization _ | .bodyRead _ | .protocol _ => .protocol
  | .service _ | .authentication .. => .service
  | .disposition _ | .exportMissingFilename | .appNotFound _ => .domain

/-- The refusal, if the service refused. -/
def serviceError? : ClientError → Option ServiceError
  | .service cause | .authentication _ cause => some cause
  | _ => none

def message : ClientError → String
  | .transport cause => cause.message
  | .serialization cause => "failed to serialize request payload: " ++ cause.message
  | .bodyRead cause => "failed to read response body: " ++ cause.message
  | .protocol cause => "failed to decode response body: " ++ cause.message
  | .service cause => cause.describe
  | .authentication status cause =>
    status.describe ++ ": failed to authenticate: " ++ cause.describe
  | .disposition cause => "invalid Content-Disposition header: " ++ cause.message
  | .exportMissingFilename => "the app export response did not specify a filename"
  | .appNotFound id => "unable to find app with ID: " ++ Text.quoted id

/-- The texts of the errors behind an error that are not part of its own kind. -/
def causes : ClientError → List String
  | .serialization cause => [cause.message]
  | .bodyRead cause => [cause.message]
  | .protocol cause => [cause.message]
  | .authentication _ cause => [cause.describe]
  | .disposition cause => [cause.message]
  | .transport _ | .service _ | .exportMissingFilename | .appNotFound _ => []

end ClientError

/-- An exported app: its file name and the body that holds the archive, still open. -/
structure ExportedApp where
  filename : String
  archive : OpenBody

/-- The outline, without the archive. -/
def ExportedApp.outline (e : ExportedApp) : String :=
  Text.outline "ExportedApp" [("filename", Text.quoted e.filename)] false

/-- An operation: a piece of an exchange that may fail. -/
abbrev Operation (σ : Type) := ExceptT ClientError (Conversation σ)

/-- A piece of an exchange that does not fail by itself. -/
def Operation.always {σ α : Type} (part : Conversation σ α) : Operation σ α := ExceptT.lift part

namespace Client

open Operation (always)

/-- The outline of a client, of which nothing is shown. -/
def outline : String := "BasicStitchClient \x7b .. \x7d"

def send {σ : Type} (transport : Transport σ) (method : Method) (route : Route)
    (content : Content) : Operation σ Response := do
  match ← always (Conversation.send transport ⟨method, route.path, content⟩) with
  | .ok response => return response
  | .error e => throw (.transport e)

def readAnswer {σ α : Type} (read : Json.Reader α) (body : OpenBody) : Operation σ α := do
  match ← always (Conversation.readAll body) with
  | .error f => throw (.bodyRead f)
  | .ok bytes => match Json.decodeWith read bytes with
    | .ok value => return value
    | .error e => throw (.protocol e)

/-- Reads a body as a refusal, and fails with it. -/
def refuse {σ α : Type} (body : OpenBody) (refusal : ServiceError → ClientError) :
    Operation σ α := do
  match ← always (Conversation.readAll body) with
  | .error f => throw (.bodyRead f)
  | .ok bytes => throw (refusal (ServiceError.ofBytes bytes))

/-- The content of a login: the payload as JSON. -/
def loginContent (body : Bytes) : Content :=
  (Content.none.withBody body).withHeader "Content-Type" "application/json"

def authenticate {σ : Type} (transport : Transport σ) (login : Login) : Operation σ Session := do
  match login.payload.encode with
  | .error fault => throw (.serialization fault)
  | .ok body =>
    let response ← send transport .post (.login login.provider) (loginContent body)
    if response.status = .ok then readAnswer Session.read response.body
    else refuse response.body (.authentication response.status)

/-- The file name that the headers of an export announce. -/
def announcedFilename (headers : Headers) : Except ClientError String :=
  match Disposition.parse ((headers.get? "Content-Disposition").getD "") with
  | .error fault => .error (.disposition fault)
  | .ok disposition => match disposition.filename? with
    | some filename => .ok filename
    | none => .error .exportMissingFilename

def exportApp {σ : Type} (transport : Transport σ) (group app : String) :
    Operation σ ExportedApp := do
  let response ← send transport .get (.exportApp group app) .none
  if response.status = .ok then
    match announcedFilename response.headers with
    | .ok filename => return ⟨filename, response.body⟩
    | .error e =>
      always (Conversation.close response.body)
      throw e
  else refuse response.body .service

/-- Sends an archive to the import route. -/
def sendArchive {σ : Type} (transport : Transport σ) (group app : String) (archive : Bytes)
    (strategy : String) (dryRun : Bool) : Operation σ Response :=
  send transport .post (.importApp group app strategy dryRun) (Content.none.withBody archive)

def importApp {σ : Type} (transport : Transport σ) (group app : String) (archive : Bytes)
    (strategy : String) : Operation σ Unit := do
  let response ← sendArchive transport group app archive strategy false
  if response.status = .noContent then always (Conversation.close response.body)
  else refuse response.body .service

/-- Lists the changes that an import would make. -/
def diff {σ : Type} (transport : Transport σ) (group app : String) (archive : Bytes)
    (strategy : String) : Operation σ (List String) := do
  let response ← sendArchive transport group app archive strategy true
  if response.status = .ok then readAnswer (Json.list Json.text) response.body
  else refuse response.body .service

/-- Lists the apps of a group. A group that the user may not look into has none. -/
def fetchApps {σ : Type} (transport : Transport σ) (group : String) : Operation σ (List App) := do
  let response ← send transport .get (.apps group) .none
  if response.status = .ok then readAnswer (Json.list App.read) response.body
  else if response.status = .notFound then
    always (Conversation.close response.body)
    return []
  else refuse response.body .service

def fetchProfile {σ : Type} (transport : Transport σ) : Operation σ Profile := do
  let response ← send transport .get .profile .none
  if response.status = .ok then readAnswer Profile.read response.body
  else refuse response.body .service

/-- Looks for an app in groups, one after the other. -/
def searchGroups {σ : Type} (transport : Transport σ) (clientAppId : String) :
    List String → Operation σ App
  | [] => throw (.appNotFound clientAppId)
  | group :: rest => do
    let apps ← fetchApps transport group
    match App.find? apps clientAppId with
    | some app => return app
    | none => searchGroups transport clientAppId rest

/-- Finds an app by the id that its users know, in the groups of the user. -/
def fetchApp {σ : Type} (transport : Transport σ) (clientAppId : String) : Operation σ App := do
  let profile ← fetchProfile transport
  searchGroups transport clientAppId profile.groupIds

end Client

end AppAdmin
