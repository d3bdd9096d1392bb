import AppAdmin.Command.Failure
import AppAdmin.Command.Invocation
import AppAdmin.Connection

/-!
Running a command. Settings are loaded, a session is opened, and the task is done within it; files
are read and written on a disk, and everything that is sent goes over one line.
-/

namespace AppAdmin.Command

open Settings (Environment Platform)

/-- What a run has come to. -/
structure Progress (ν : Type) where
  exchange : Exchange (Line ν)
  disk : Disk
  /-- The paths of the files that were opened for writing, in order. -/
  opened : List String
  printed : String

/-- A part of a run, which may fail. -/
abbrev Action (ν : Type) := ExceptT Failure (StateM (Progress ν))

namespace Action

variable {ν : Type}

/-- Gives a result, or fails. -/
def ofExcept {ε α : Type} (failure : ε → Failure) : Except ε α → Action ν α
  | .ok value => pure value
  | .error e => throw (failure e)

/-- A part of the exchange. -/
def converse {α : Type} (part : Conversation (Line ν) α) : Action ν α := ExceptT.lift fun p =>
  let (value, exchange) := part p.exchange
  (value, { p with exchange := exchange })

/-- An operation of the API. -/
def operate {α : Type} (operation : Operation (Line ν) α) : Action ν α := do
  ofExcept .client (← converse operation.run)

def printLine (line : String) : Action ν Unit :=
  modify fun p => { p with printed := p.printed ++ line ++ "\n" }

def readFile (path : String) : Action ν Bytes := do
  ofExcept (.unreadable path) ((← get).disk.read path)

def writeFile (path : String) (bytes : Bytes) : Action ν Unit := do
  let p ← get
  let disk ← ofExcept (.notCreated path) (p.disk.write path bytes)
  set { p with disk := disk }

/-- Opens a session. -/
def connect (platform : Platform) (network : Network ν) (env : Environment) (i : Invocation) :
    Action ν Connection := do
  let settings ← ofExcept .settings (Settings.load platform (← get).disk env i.config)
  let username ← ofExcept id (i.username.elim (.error .missingUsername) .ok)
  let apiKey ← ofExcept id (i.apiKey.elim (.error .missingApiKey) .ok)
  let connection ← ofExcept .connection (Connection.ofSettings settings)
  let login := (Credential.apiKey username apiKey).login
  let session ← operate (Client.authenticate (connection.transport network) login)
  return connection.withToken session.accessToken

/-- The path of an archive in a folder. A name that is more than the last name of a path might lead
out of the folder. -/
def archivePath (folder name : String) : Except Failure String :=
  match Disk.lastName? name with
  | some last =>
    if last = name then .ok (Disk.join folder last) else .error (.unsafeFilename name)
  | none => .error (.unsafeFilename name)

/-- Writes an archive into a folder. The file is created before the archive arrives, and keeps what
has arrived when the rest does not. -/
def saveArchive (folder : String) (exported : ExportedApp) : Action ν Unit := do
  match archivePath folder exported.filename with
  | .error failure =>
    converse (Conversation.close exported.archive)
    throw failure
  | .ok path =>
    match (← get).disk.write path [] with
    | .error fault =>
      converse (Conversation.close exported.archive)
      throw (.notCreated path fault)
    | .ok disk =>
      modify fun p => { p with disk := disk, opened := p.opened ++ [path] }
      let result ← converse (Conversation.readAll exported.archive)
      writeFile path exported.archive.body.arrived
      let bytes ← ofExcept (.notWritten path) result
      printLine (path ++ " (" ++ toString bytes.length ++ " bytes)")

/-- Reads the archive that is to be sent, and then looks for its app. -/
def findTarget (transport : Transport (Line ν)) (i : Invocation) : Action ν (App × Bytes) := do
  let archive ← readFile i.path
  let app ← operate (Client.fetchApp transport i.appId)
  return (app, archive)

/-- Does a task in a session. -/
def perform (transport : Transport (Line ν)) (i : Invocation) : Action ν Unit := do
  match i.task with
  | .findApp =>
    let app ← operate (Client.fetchApp transport i.appId)
    printLine app.toJson.pretty
  | .exportApp =>
    let app ← operate (Client.fetchApp transport i.appId)
    saveArchive i.output (← operate (Client.exportApp transport app.groupId app.id))
  | .importApp =>
    let (app, archive) ← findTarget transport i
    operate (Client.importApp transport app.groupId app.id archive i.strategy)
    printLine ("imported " ++ i.path ++ " into " ++ app.name)
  | .diff =>
    let (app, archive) ← findTarget transport i
    for change in ← operate (Client.diff transport app.groupId app.id archive i.strategy) do
      printLine change

/-- The whole of an invocation. -/
def invoke (platform : Platform) (network : Network ν) (env : Environment) (i : Invocation) :
    Action ν Unit := do
  let connection ← connect platform network env i
  perform (connection.transport network) i

end Action

/-- What a run leaves behind. -/
structure Outcome (ν : Type) where
  exitCode : Nat
  output : String
  errors : String
  progress : Progress ν

def run {ν : Type} (platform : Platform) (network : Network ν) (state : ν) (disk : Disk)
    (env : Environment) (args : List String) : Outcome ν :=
  let start : Progress ν := ⟨.start ⟨state, []⟩, disk, [], ""⟩
  match Invocation.read env args with
  | .error (.answer text) => ⟨0, text, "", start⟩
  | .error (.nothing help) => ⟨2, "", help, start⟩
  | .error (.fault f) => ⟨2, "", "error: " ++ f.message ++ "\n", start⟩
  | .ok i => match (Action.invoke platform network env i).run start with
    | (.ok (), p) => ⟨0, p.printed, "", p⟩
    | (.error f, p) => ⟨1, p.printed, f.report, p⟩

end AppAdmin.Command
