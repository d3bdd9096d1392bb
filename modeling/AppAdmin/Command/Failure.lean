import AppAdmin.Client
import AppAdmin.Settings

/-!
Why a command fails, and how that is told: the failure, and under it what lies behind it.
-/

namespace AppAdmin.Command

/-- The reasons for a command to fail. -/
inductive Failure
  | settings (cause : Settings.LoadError)
  | missingUsername
  | missingApiKey
  | connection (cause : TransportError)
  | client (cause : ClientError)
  | unreadable (path : String) (cause : Disk.Fault)
  | unsafeFilename (name : String)
  | notCreated (path : String) (cause : Disk.Fault)
  | notWritten (path : String) (cause : ReadFailure)

namespace Failure

def message : Failure → String
  | .settings _ => "failed to load settings"
  | .missingUsername => "missing --username (or STITCH_USERNAME)"
  | .missingApiKey => "missing --api-key (or STITCH_API_KEY)"
  | .connection cause => cause.message
  | .client cause => cause.message
  | .unreadable path _ => "failed to read " ++ path
  | .unsafeFilename name => "refusing to write export to unsafe filename " ++ Text.quoted name
  | .notCreated path _ => "failed to create " ++ path
  | .notWritten path _ => "failed to write " ++ path

/-- The texts of what lies behind, outermost first. -/
def causes : Failure → List String
  | .settings cause => cause.message :: cause.causes
  | .client cause => cause.causes
  | .unreadable _ cause => [cause.message]
  | .notCreated _ cause => [cause.message]
  | .notWritten _ cause => [cause.message]
  | .missingUsername | .missingApiKey | .connection _ | .unsafeFilename _ => []

/-- A cause, indented; `number` is its place if there are several. -/
def causeText (number : Option Nat) (cause : String) : String :=
  match number with
  | some n => "\n    " ++ toString n ++ ": " ++ cause.replace "\n" "\n       "
  | none => "\n    " ++ cause.replace "\n" "\n    "

/-- Causes with their places, counted from `n`. -/
def numbered (n : Nat) : List String → String
  | [] => ""
  | cause :: rest => causeText n cause ++ numbered (n + 1) rest

def report (f : Failure) : String :=
  "Error: " ++ f.message ++ (match f.causes with
    | [] => ""
    | [cause] => "\n\nCaused by:" ++ causeText none cause
    | causes => "\n\nCaused by:" ++ numbered 0 causes) ++ "\n"

end Failure

end AppAdmin.Command
