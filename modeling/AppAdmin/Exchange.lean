import AppAdmin.Headers
import AppAdmin.Status
import AppAdmin.Text.Utf8

/-!
Requests, responses and the transport between them. A transport is a machine that answers requests;
an exchange keeps its state together with the log of what was sent and of which response bodies were
opened and closed. A body arrives in pieces, and reading it may fail.
-/

namespace AppAdmin

/-- The methods that the admin API uses. -/
inductive Method
  | get
  | post
deriving DecidableEq

def Method.name : Method → String
  | .get => "GET"
  | .post => "POST"

/-- What a request carries besides method and path. -/
structure Content where
  body : Option Bytes
  headers : Headers
deriving DecidableEq

namespace Content

def none : Content := ⟨.none, .empty⟩

def withBody (c : Content) (body : Bytes) : Content := { c with body := some body }

/-- The content with a header in place of earlier ones of its name. -/
def withHeader (c : Content) (name value : String) : Content :=
  { c with headers := c.headers.insert name value }

/-- The outline, with the bytes of the body as numbers. -/
def outline (c : Content) : String :=
  let bytes (body : Bytes) := Text.outlineList (body.map fun b => toString b.toNat)
  let body := match c.body with
    | some body => "Some(" ++ bytes body ++ ")"
    | .none => "None"
  Text.outline "RequestOptions" [("body", body), ("headers", c.headers.outline)] true

end Content

structure Request where
  method : Method
  path : String
  content : Content
deriving DecidableEq

/-- A failure of a read, with its kind and text. -/
structure ReadFailure where
  kind : String
  message : String
deriving DecidableEq

/-- An interruption is no failure: the read is tried again. That is assumed of the reader of a body;
a reader that knows nothing of interruptions would stop at one as at any other failure. -/
def ReadFailure.isInterruption (f : ReadFailure) : Bool := f.kind == "Interrupted"

/-- What one read of a body yields. -/
inductive Arrival
  | piece (bytes : Bytes)
  | failure (f : ReadFailure)
deriving DecidableEq

/-- A body as it arrives; behind the last arrival is its end. -/
abbrev Body := List Arrival

/-- Reads a body to its end, or to the first failure that is no interruption. -/
def Body.read : Body → Except ReadFailure Bytes
  | [] => .ok []
  | .piece bytes :: rest => (read rest).map (bytes ++ ·)
  | .failure f :: rest => if f.isInterruption then read rest else .error f

/-- The bytes that arrive before the end, or before the first failure that is no interruption. -/
def Body.arrived : Body → Bytes
  | [] => []
  | .piece bytes :: rest => bytes ++ arrived rest
  | .failure f :: rest => if f.isInterruption then arrived rest else []

theorem Body.arrived_of_read {body : Body} {bytes : Bytes} (h : body.read = .ok bytes) :
    body.arrived = bytes := by
  induction body generalizing bytes with
  | nil => simpa [read, arrived] using h
  | cons a rest ih =>
    cases a with
    | piece piece =>
      simp only [read] at h
      cases hr : read rest with
      | error f => simp [hr, Except.map] at h
      | ok more =>
        simp only [hr, Except.map, Except.ok.injEq] at h
        simp [arrived, ih hr, h]
    | failure f =>
      simp only [read] at h
      split at h
      · next hf => simp [arrived, hf, ih h]
      · simp at h

/-- The reasons for getting no response. -/
inductive TransportError
  | invalidUrl (detail : String)
  | timeout (milliseconds : Nat)
  | connectionFailed (detail : String)
  | cancelled
  | other (detail : String)
deriving DecidableEq

def TransportError.message : TransportError → String
  | .invalidUrl detail => "invalid URL: " ++ detail
  | .timeout ms => "request timed out after " ++ toString ms ++ "ms"
  | .connectionFailed detail => "connection failed: " ++ detail
  | .cancelled => "request cancelled"
  | .other detail => detail

/-- What a transport answers. -/
structure Reply where
  status : Status
  headers : Headers
  body : Body
deriving DecidableEq

/-- The outline of a reply, without its body. -/
def Reply.outline (r : Reply) : String :=
  Text.outline "HttpResponse" [("status", "StatusCode(" ++ toString r.status.code.toNat ++ ")"),
    ("headers", r.headers.outline)] false

/-- A transport with the states `σ`: how it answers a request, and how that changes it. -/
abbrev Transport (σ : Type) := Request → σ → Except TransportError Reply × σ

/-- The transport that gives prepared answers one after the other. -/
def Transport.prepared : Transport (List (Except TransportError Reply))
  | _, [] => (.error (.other "no more responses"), [])
  | _, answer :: rest => (answer, rest)

/-- What happens in an exchange. Bodies are numbered in the order in which they are handed out. -/
inductive Event
  | sent (request : Request)
  | opened (body : Nat)
  | closed (body : Nat)
deriving DecidableEq

/-- An exchange: the transport's state, the log and the number of bodies handed out. -/
structure Exchange (σ : Type) where
  service : σ
  log : List Event
  handed : Nat

/-- The exchange in which nothing has happened. -/
def Exchange.start {σ : Type} (service : σ) : Exchange σ := ⟨service, [], 0⟩

/-- A body that has been handed out. -/
structure OpenBody where
  number : Nat
  body : Body
deriving DecidableEq

/-- A response: the body is open. -/
structure Response where
  status : Status
  headers : Headers
  body : OpenBody
deriving DecidableEq

/-- A piece of an exchange. -/
abbrev Conversation (σ : Type) := StateM (Exchange σ)

namespace Conversation

def note {σ : Type} (e : Event) : Conversation σ Unit :=
  modify fun x => { x with log := x.log ++ [e] }

def send {σ : Type} (transport : Transport σ) (request : Request) :
    Conversation σ (Except TransportError Response) := do
  note (.sent request)
  let x ← get
  let (answer, service) := transport request x.service
  set { x with service := service }
  match answer with
  | .error e => return .error e
  | .ok reply =>
    note (.opened x.handed)
    modify fun x => { x with handed := x.handed + 1 }
    return .ok ⟨reply.status, reply.headers, ⟨x.handed, reply.body⟩⟩

/-- Closes a body without reading the rest of it. -/
def close {σ : Type} (body : OpenBody) : Conversation σ Unit :=
  note (.closed body.number)

/-- Reads a body to its end and closes it; it is closed as well when the reading fails. -/
def readAll {σ : Type} (body : OpenBody) : Conversation σ (Except ReadFailure Bytes) := do
  close body
  return body.body.read

end Conversation

end AppAdmin
