import AppAdmin.Settings.Field
import AppAdmin.Settings.Source
import AppAdmin.Url

/-!
The settings of the connection. They come in layers: built-in ones, over them those of a file, and
over both those of the environment.
-/

namespace AppAdmin

structure Settings where
  baseUrl : String
  timeoutSeconds : Nat
  userAgent : String
deriving DecidableEq

namespace Settings

/-- The name and version of the program. -/
def programVersion : String := "0.1.0"

def builtIn : Settings := ⟨"https://stitch.mongodb.com", 30, "stitch-cli/" ++ programVersion⟩

/-- A span of whole seconds. -/
def spanText (seconds : Nat) : String :=
  if seconds = 0 then "0ns" else toString seconds ++ "s"

/-- The reasons for a loading to fail. -/
inductive LoadError
  | wrongType (cause : Mismatch)
  | file (cause : FileFault)
  | invalidUrl (url : String) (cause : Url.Fault)
  | unsupportedScheme (url : String)
deriving DecidableEq

def LoadError.message : LoadError → String
  | .wrongType cause => "failed to load settings: " ++ cause.message
  | .file cause => "failed to load settings: " ++ cause.message
  | .invalidUrl url cause => "invalid base URL " ++ Text.quoted url ++ ": " ++ cause.message
  | .unsupportedScheme url => "base URL " ++ Text.quoted url ++ " must use http or https"

/-- The texts of the errors behind an error. -/
def LoadError.causes : LoadError → List String
  | .wrongType cause => [cause.message]
  | .file cause => [cause.message]
  | .invalidUrl _ cause => [cause.message]
  | .unsupportedScheme _ => []

def url (s : Settings) : Except LoadError Url :=
  match Url.parse s.baseUrl with
  | .error cause => .error (.invalidUrl s.baseUrl cause)
  | .ok u =>
    if u.scheme = "http".toList ∨ u.scheme = "https".toList then .ok u
    else .error (.unsupportedScheme s.baseUrl)

/-- The keys of the settings. -/
def urlKey : String := "base_url"

def timeoutKey : String := "timeout_secs"

def userAgentKey : String := "user_agent"

/-- The lowest layer. -/
def builtInEntries : List (String × Tree) :=
  [(urlKey, .leaf none (.text builtIn.baseUrl)),
    (timeoutKey, .leaf none (.integer builtIn.timeoutSeconds)),
    (userAgentKey, .leaf none (.text builtIn.userAgent))]

/-- Reads the fields of a table. -/
def ofEntries (entries : List (String × Tree)) : Except Mismatch Settings := do
  let field (key : String) : Tree := (Tree.find? key entries).getD .absent
  return ⟨← Field.text urlKey (field urlKey), ← Field.number timeoutKey (field timeoutKey),
    ← Field.text userAgentKey (field userAgentKey)⟩

/-- Where the settings file of a user is. The folder for settings counts if it is given from the
root; else it is in the home folder, which is that of the account if no other one is given. -/
def userFile? (p : Platform) (env : Environment) : Option String :=
  let folder := match env.get? "XDG_CONFIG_HOME" with
    | some folder => if Disk.isAbsolute folder then some folder else none
    | none => none
  let home := match env.get? "HOME" with
    | some home => if home = "" then p.home else some home
    | none => p.home
  (folder.or (home.map (Disk.join · ".config"))).map fun folder =>
    Disk.join (Disk.join folder "stitch") "config.toml"

/-- The entries of the settings file: of a given one, which must be there, or of the user's own. -/
def fileEntries (p : Platform) (d : Disk) (env : Environment) (file : Option String) :
    Except FileFault (List (String × Tree)) :=
  match file with
  | some path => readFile p d path
  | none => match userFile? p env with
    | none => .ok []
    | some path => match readFile p d path with
      | .error .malformed => .error .malformed
      | .error _ => .ok []
      | .ok entries => .ok entries

/-- Loads the settings, and checks the base URL. -/
def load (p : Platform) (d : Disk) (env : Environment) (file : Option String) :
    Except LoadError Settings :=
  match fileEntries p d env file with
  | .error cause => .error (.file cause)
  | .ok entries =>
    match ofEntries (Tree.layer (Tree.layer builtInEntries entries) (ofEnvironment env)) with
    | .error cause => .error (.wrongType cause)
    | .ok settings => settings.url.map fun _ => settings

end Settings

end AppAdmin
