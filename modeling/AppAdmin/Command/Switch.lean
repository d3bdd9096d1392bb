/-!
The switches of the command line and the commands that take them.
-/

namespace AppAdmin.Command

/-- A switch with a value. -/
structure Switch where
  name : String
  letter : Option Char
  placeholder : String
  help : String
  /-- The environment variable that gives the value if the command line does not. -/
  variableName : Option String
  /-- Whether help shows the value of the variable. -/
  isSecret : Bool
  initial : Option String
  /-- Whether the value is a path, which is not empty. -/
  isPath : Bool
  isRequired : Bool
deriving DecidableEq

namespace Switch

/-- The switch as messages show it. -/
def shown (s : Switch) : String := "--" ++ s.name ++ " <" ++ s.placeholder ++ ">"

/-- A switch that must be given. -/
def required (name placeholder help : String) (isPath : Bool) : Switch :=
  ⟨name, none, placeholder, help, none, false, none, isPath, true⟩

def config : Switch :=
  ⟨"config", none, "CONFIG", "TOML file with client settings", none, false, none, true, false⟩

/-- The user who logs in. -/
def username : Switch :=
  ⟨"username", none, "USERNAME", "Cloud username", some "STITCH_USERNAME", false, none, false,
    false⟩

/-- The key of that user. -/
def apiKey : Switch :=
  ⟨"api-key", none, "API_KEY", "Cloud API key", some "STITCH_API_KEY", true, none, false, false⟩

/-- The app that a command is about. -/
def appId : Switch := required "app-id" "APP_ID" "Client app id, e.g. `my-app-abcde`" false

/-- The folder that an archive is written to. -/
def output : Switch :=
  ⟨"output", some 'o', "OUTPUT", "Directory the archive is written to", none, false, some ".",
    true, false⟩

def path : Switch := required "path" "PATH" "Archive to push" true

/-- How an import deals with what is there. -/
def strategy : Switch :=
  ⟨"strategy", none, "STRATEGY", "Merge strategy understood by the service", none, false,
    some "merge", false, false⟩

end Switch

/-- What a command does with an app. -/
inductive Task
  | findApp
  | exportApp
  | importApp
  | diff
deriving DecidableEq

namespace Task

/-- All tasks, in the order in which help lists them. -/
def all : List Task := [.findApp, .exportApp, .importApp, .diff]

def name : Task → String
  | .findApp => "find-app"
  | .exportApp => "export"
  | .importApp => "import"
  | .diff => "diff"

def help : Task → String
  | .findApp => "Print the app with the given client app id as JSON"
  | .exportApp => "Download an app's archive"
  | .importApp => "Push an archive to an existing app"
  | .diff => "List the changes an import would make"

/-- The switches of the command, in the order in which help lists them. -/
def switches : Task → List Switch
  | .findApp => [.appId, .config, .username, .apiKey]
  | .exportApp => [.appId, .config, .output, .username, .apiKey]
  | .importApp | .diff => [.appId, .config, .path, .username, .apiKey, .strategy]

def ofName? (name : String) : Option Task := all.find? (·.name == name)

end Task

/-- The switches that may also stand before the command. -/
def commonSwitches : List Switch := [.config, .username, .apiKey]

/-- The command that explains the others. -/
def helpName : String := "help"

/-- What help says about itself. -/
def helpHelp : String := "Print this message or the help of the given subcommand(s)"

def programName : String := "stitch"

def programHelp : String := "Command-line front end for the Stitch admin API"

end AppAdmin.Command
