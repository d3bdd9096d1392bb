import AppAdmin.Exchange
import AppAdmin.Json.Reader

/-!
What the service says when it refuses a request. Mostly that is a JSON record with a member
`error`; whatever else comes, from a proxy perhaps, is kept as it is.
-/

namespace AppAdmin

/-- A refusal by the service. -/
structure ServiceError where
  message : String
deriving DecidableEq

namespace ServiceError

/-- The message in a JSON value: the text under `error`, and the empty text where nothing is said.
`none` if the value has another shape. -/
def messageIn? : Json.Value → Option String
  | .null => some ""
  | .record members => match Json.Value.lookup "error" members with
    | none | some .null => some ""
    | some (.text message) => some message
    | some _ => none
  | _ => none

/-- The refusal in a body. -/
def ofBytes (body : Bytes) : ServiceError :=
  match Json.Value.decode body with
  | .ok value => ⟨(messageIn? value).getD (Text.Utf8.decodeLossy body)⟩
  | .error _ => ⟨Text.Utf8.decodeLossy body⟩

/-- The refusal in a body that arrives. -/
def ofBody (body : Body) : Except ReadFailure ServiceError := body.read.map ofBytes

def describe (e : ServiceError) : String := "error: " ++ e.message

end ServiceError

end AppAdmin
