import AppAdmin.Command.Help
import AppAdmin.Settings

/-!
The command line. Switches may stand before and behind the command; a value of the command line wins
over one of the environment, and behind the command it wins over one before it.
-/

namespace AppAdmin.Command

open Settings (Environment)

/-- What is wrong with a command line. -/
inductive UsageFault
  | unexpectedArgument (argument : String)
  | missingSwitches
  | missingValue (switch : String)
  | repeatedSwitch (switch : String)
  | needlessValue (value switch : String)
  | unknownCommand (name : String)
  | missingCommand
deriving DecidableEq

def UsageFault.message : UsageFault → String
  | .unexpectedArgument a => "unexpected argument '" ++ a ++ "' found"
  | .missingSwitches => "the following required arguments were not provided:"
  | .missingValue s => "a value is required for '" ++ s ++ "' but none was supplied"
  | .repeatedSwitch s => "the argument '" ++ s ++ "' cannot be used multiple times"
  | .needlessValue v s =>
    "unexpected value '" ++ v ++ "' for '" ++ s ++ "' found; no more were expected"
  | .unknownCommand name => "unrecognized subcommand '" ++ name ++ "'"
  | .missingCommand =>
    "'" ++ programName ++ "' requires a subcommand but one was not provided"

/-- Why nothing is run. -/
inductive Stop
  /-- Help or the version was asked for. -/
  | answer (text : String)
  /-- Nothing was asked for at all, so that help is due. -/
  | nothing (help : String)
  | fault (f : UsageFault)
deriving DecidableEq

/-- Values by the names of their switches. -/
abbrev Values := List (String × String)

def Values.get? (vs : Values) (s : Switch) : Option String :=
  (vs.find? (·.1 == s.name)).map (·.2)

/-- The place of switches on the command line: before the command, or behind it. -/
inductive Place
  | front
  | behind (task : Task)
deriving DecidableEq

namespace Place

def switches : Place → List Switch
  | .front => commonSwitches
  | .behind task => task.switches

def help (env : Environment) : Place → String
  | .front => generalHelp env
  | .behind task => taskHelp env task

/-- The version that a place shows. -/
def version : Place → String
  | .front => programName ++ " " ++ Settings.programVersion ++ "\n"
  | .behind task => programName ++ "-" ++ task.name ++ " " ++ Settings.programVersion ++ "\n"

/-- Whether a word is a command here. -/
def isCommand (word : String) : Place → Bool
  | .front => (Task.ofName? word).isSome || word == helpName
  | .behind _ => false

/-- The complaint about a word that is neither switch nor value. -/
def complaint (word : String) : Place → UsageFault
  | .front => .unknownCommand word
  | .behind _ => .unexpectedArgument word

end Place

/-- How the reading of a place has come on: the values read, and a switch whose value is awaited or
not yet checked. -/
structure Reading where
  values : Values
  pending : Option (Switch × Option String)

namespace Reading

/-- Nothing read. -/
def start : Reading := ⟨[], none⟩

/-- Takes the value of a switch. -/
def take (r : Reading) (s : Switch) (value : String) : Except Stop Reading :=
  if (r.values.get? s).isSome then .error (.fault (.repeatedSwitch s.shown))
  else if s.isPath ∧ value = "" then .error (.fault (.missingValue s.shown))
  else .ok ⟨r.values ++ [(s.name, value)], none⟩

/-- Checks the switch that is pending. -/
def settle (r : Reading) : Except Stop Reading :=
  match r.pending with
  | none => .ok r
  | some (s, none) => .error (.fault (.missingValue s.shown))
  | some (s, some value) => take { r with pending := none } s value

/-- Whether the next word is a value. -/
def isWaiting (r : Reading) : Bool :=
  match r.pending with
  | some (_, none) => true
  | _ => false

/-- Takes a switch with its value, if it has it already. -/
def takeSwitch (r : Reading) (s : Switch) (value : Option String) : Except Stop Reading := do
  let r ← r.settle
  match value with
  | some v => r.take s v
  | none => return { r with pending := some (s, none) }

/-- Stops with an answer, unless the pending switch is at fault. -/
def stopWith (r : Reading) (text : String) : Except Stop Reading := do
  let _ ← r.settle
  throw (.answer text)

/-- Takes a switch by its name. -/
def takeNamed (env : Environment) (place : Place) (r : Reading) (name : String)
    (value : Option String) : Except Stop Reading :=
  let plain (text : String) : Except Stop Reading := match value with
    | some v => .error (.fault (.needlessValue v ("--" ++ name)))
    | none => r.stopWith text
  if name = "help" then plain (place.help env)
  else if name = "version" then plain place.version
  else match place.switches.find? (·.name == name) with
    | some s => r.takeSwitch s value
    | none => .error (.fault (.unexpectedArgument ("--" ++ name)))

/-- Takes a switch by its letter. Its value may follow at once, with an equals sign or without. -/
def takeLetter (env : Environment) (place : Place) (r : Reading) (letter : Char)
    (rest : List Char) : Except Stop Reading :=
  if letter = 'h' then r.stopWith (place.help env)
  else if letter = 'V' then r.stopWith place.version
  else match place.switches.find? (·.letter == some letter) with
    | some s => match rest with
      | [] => r.takeSwitch s none
      | '=' :: value => r.takeSwitch s (some (String.ofList value))
      | value => r.takeSwitch s (some (String.ofList value))
    | none => .error (.fault (.unexpectedArgument (String.ofList ['-', letter])))

/-- Takes a word that is neither a command nor two dashes. -/
def takeWord (env : Environment) (place : Place) (r : Reading) (word : String) :
    Except Stop Reading :=
  match word.toList with
  | '-' :: '-' :: name =>
    let value := match name.dropWhile (· != '=') with
      | [] => none
      | _ :: value => some (String.ofList value)
    takeNamed env place r (String.ofList (name.takeWhile (· != '='))) value
  | '-' :: letter :: rest => takeLetter env place r letter rest
  | _ => match r.pending with
    | some (s, none) => .ok { r with pending := some (s, some word) }
    | _ => .error (.fault (place.complaint word))

/-- The complaint about the first word behind two dashes, where no command may stand. -/
def behindDashes (place : Place) : List String → Except Stop Unit
  | [] => .ok ()
  | word :: _ => .error (.fault
    (if place.isCommand word then .unexpectedArgument word else place.complaint word))

/-- Reads the words of a place up to a command; what is left begins with that. -/
def words (env : Environment) (place : Place) (r : Reading) :
    List String → Except Stop (Reading × List String)
  | [] => .ok (r, [])
  | word :: rest =>
    if !r.isWaiting ∧ place.isCommand word then .ok (r, word :: rest)
    else if word = "--" then do
      behindDashes place rest
      return (r, [])
    else do words env place (← takeWord env place r word) rest

end Reading

/-- What is to be done. -/
structure Invocation where
  config : Option String
  username : Option String
  apiKey : Option String
  task : Task
  appId : String
  output : String
  path : String
  strategy : String
deriving DecidableEq

/-- The value of a switch, or the one it has from the start. -/
def valueOr (vs : Values) (s : Switch) : String := ((vs.get? s).or s.initial).getD ""

/-- The value of a switch on the command line, or else in the environment. -/
def valueIn (env : Environment) (front behind : Values) (s : Switch) : Option String :=
  ((behind.get? s).or (front.get? s)).or (s.variableName.bind env.get?)

/-- Follows names into the help. -/
def helpOn (env : Environment) : List String → Stop
  | [] => .answer (generalHelp env)
  | name :: rest =>
    if name = helpName then match rest with
      | [] => .answer helpOnHelp
      | other :: _ => .fault (.unknownCommand other)
    else match Task.ofName? name, rest with
      | some task, [] => .answer (taskHelp env task)
      | some _, other :: _ => .fault (.unknownCommand other)
      | none, _ => .fault (.unknownCommand name)

/-- Reads the words behind a command. -/
def readTask (env : Environment) (task : Task) (words : List String) : Except Stop Values := do
  let (r, _) ← Reading.start.words env (.behind task) words
  let r ← r.settle
  if task.switches.any fun s => s.isRequired && (r.values.get? s).isNone then
    throw (.fault .missingSwitches)
  return r.values

/-- Reads a command line. -/
def Invocation.read (env : Environment) (args : List String) : Except Stop Invocation := do
  let (front, rest) ← Reading.start.words env .front args
  match rest with
  | [] =>
    let front ← front.settle
    let given := commonSwitches.any fun s => (valueIn env front.values [] s).isSome
    throw (if given then .fault .missingCommand else .nothing (generalHelp env))
  | name :: words => match Task.ofName? name with
    | none => throw (helpOn env words)
    | some task =>
      let behind ← readTask env task words
      let front ← front.settle
      return {
        config := valueIn env front.values behind .config
        username := valueIn env front.values behind .username
        apiKey := valueIn env front.values behind .apiKey
        task := task
        appId := valueOr behind .appId
        output := valueOr behind .output
        path := valueOr behind .path
        strategy := valueOr behind .strategy }

end AppAdmin.Command
