/-!
Status codes of responses with their customary phrases.
-/

namespace AppAdmin

/-- The status code of a response. -/
structure Status where
  code : UInt16
deriving DecidableEq

namespace Status

/-- The request succeeded and the body holds the answer. -/
def ok : Status := ⟨200⟩

/-- The request succeeded and there is nothing to say. -/
def noContent : Status := ⟨204⟩

/-- There is no such resource, or none that the user may see. -/
def notFound : Status := ⟨404⟩

/-- The phrase of a common status. -/
def phrase? (s : Status) : Option String :=
  match s.code.toNat with
  | 200 => some "OK"
  | 201 => some "Created"
  | 202 => some "Accepted"
  | 204 => some "No Content"
  | 301 => some "Moved Permanently"
  | 302 => some "Found"
  | 304 => some "Not Modified"
  | 307 => some "Temporary Redirect"
  | 308 => some "Permanent Redirect"
  | 400 => some "Bad Request"
  | 401 => some "Unauthorized"
  | 403 => some "Forbidden"
  | 404 => some "Not Found"
  | 405 => some "Method Not Allowed"
  | 408 => some "Request Timeout"
  | 409 => some "Conflict"
  | 413 => some "Payload Too Large"
  | 422 => some "Unprocessable Entity"
  | 429 => some "Too Many Requests"
  | 500 => some "Internal Server Error"
  | 501 => some "Not Implemented"
  | 502 => some "Bad Gateway"
  | 503 => some "Service Unavailable"
  | 504 => some "Gateway Timeout"
  | _ => none

/-- The code, with the phrase behind it if there is one. -/
def describe (s : Status) : String :=
  match s.phrase? with
  | some phrase => toString s.code.toNat ++ " " ++ phrase
  | none => toString s.code.toNat

end Status

end AppAdmin
