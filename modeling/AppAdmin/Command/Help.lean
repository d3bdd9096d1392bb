import AppAdmin.Command.Switch
import AppAdmin.Settings.Source

/-!
The help texts. Switches are listed in two columns, and what help says about them is wrapped.
-/

namespace AppAdmin.Command

open Settings (Environment)

/-- A text with blanks behind it up to a width. -/
def padded (width : Nat) (s : String) : String :=
  s ++ String.ofList (List.replicate (width - s.length) ' ')

/-- The words of a line, each with the blanks behind it. -/
def wordsOf (line : List Char) : List (List Char × Nat) :=
  let rec go (word : List Char) (blanks : Nat) : List Char → List (List Char × Nat)
    | [] => if word = [] ∧ blanks = 0 then [] else [(word.reverse, blanks)]
    | c :: rest =>
      if c = ' ' then go word (blanks + 1) rest
      else if blanks = 0 then go (c :: word) 0 rest
      else (word.reverse, blanks) :: go [c] 0 rest
  go [] 0 line

/-- Puts words on lines of a width. `used` is the width of the line so far, and `blanks` are those
behind its last word; the line begins with its first word, however long that is. -/
def wrapWords (width : Nat) (indent : List Char) :
    Nat → Nat → Bool → List (List Char × Nat) → List Char
  | _, blanks, _, [] => List.replicate blanks ' '
  | used, blanks, first, (word, behind) :: rest =>
    if !first ∧ width < used + blanks + word.length then
      '\n' :: indent ++ word ++ wrapWords width indent word.length behind false rest
    else
      List.replicate blanks ' ' ++ word
        ++ wrapWords width indent (used + blanks + word.length) behind (first && word.isEmpty) rest

/-- A text on lines of a width, all but the first indented. -/
def wrap (width indent : Nat) (s : String) : String :=
  let blanks := List.replicate indent ' '
  let lines := (s.splitOn "\n").map fun line =>
    String.ofList (wrapWords width blanks 0 0 true (wordsOf line.toList))
  String.intercalate (String.ofList ('\n' :: blanks)) lines

/-- What help adds about the variable of a switch, and about its value from the start. -/
def remarks (env : Environment) (s : Switch) : List String :=
  let fromVariable := s.variableName.map fun v =>
    "[env: " ++ v ++ (if s.isSecret then "" else "=" ++ (env.get? v).getD "") ++ "]"
  let fromStart := s.initial.map fun v => "[default: " ++ v ++ "]"
  fromVariable.toList ++ fromStart.toList

/-- The left column of a switch. -/
def leftColumn (letter : Option Char) (long : String) : String :=
  (match letter with
    | some c => "  -" ++ String.ofList [c] ++ ", "
    | none => "      ") ++ "--" ++ long

/-- The rows of the table of switches: both columns. -/
def switchRows (env : Environment) (switches : List Switch) : List (String × String) :=
  switches.map (fun s => (leftColumn s.letter (s.name ++ " <" ++ s.placeholder ++ ">"),
      String.intercalate " " (s.help :: remarks env s)))
    ++ [(leftColumn (some 'h') "help", "Print help"),
      (leftColumn (some 'V') "version", "Print version")]

def pageWidth : Nat := 100

/-- Rows of two columns, with two blanks between them. -/
def table (rows : List (String × String)) : String :=
  let left := (rows.map (·.1.length)).foldl max 0 + 2
  String.join (rows.map fun (a, b) =>
    padded left a ++ wrap (pageWidth - left) left b ++ "\n")

def generalHelp (env : Environment) : String :=
  let commands := Task.all.map (fun t => ("  " ++ t.name, t.help)) ++ [("  " ++ helpName, helpHelp)]
  programHelp ++ "\n\nUsage: " ++ programName ++ " [OPTIONS] <COMMAND>\n\nCommands:\n"
    ++ table commands ++ "\nOptions:\n" ++ table (switchRows env commonSwitches)

def taskHelp (env : Environment) (t : Task) : String :=
  let required := (t.switches.filter (·.isRequired)).map fun s => " " ++ s.shown
  t.help ++ "\n\nUsage: " ++ programName ++ " " ++ t.name ++ " [OPTIONS]" ++ String.join required
    ++ "\n\nOptions:\n" ++ table (switchRows env t.switches)

/-- The help of the command that explains the others. -/
def helpOnHelp : String :=
  helpHelp ++ "\n\nUsage: " ++ programName ++ " " ++ helpName ++ " [COMMAND]...\n\nArguments:\n"
    ++ "  [COMMAND]...  Print help for the subcommand(s)\n"

end AppAdmin.Command
