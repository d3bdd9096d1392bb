import AppAdmin.Proofs.Client.Dialogue

/-!
What the operations make of a reply. All of them send one request at a time and settle its reply
before the next: the body is read as an answer or as a refusal, or let go, and is closed either way.
Only the archive of an export stays open.
-/

namespace AppAdmin

variable {σ α : Type}

namespace Body

/-- What a body means that is read as an answer. -/
def asAnswer (read : Json.Reader α) (body : Body) : Except ClientError α :=
  match body.read with
  | .error f => .error (.bodyRead f)
  | .ok bytes => match Json.decodeWith read bytes with
    | .ok value => .ok value
    | .error e => .error (.protocol e)

/-- What a body means that is read as a refusal. -/
def asRefusal (refusal : ServiceError → ClientError) (body : Body) : ClientError :=
  match body.read with
  | .error f => .bodyRead f
  | .ok bytes => refusal (ServiceError.ofBytes bytes)

theorem asAnswer_eq_ok_iff {read : Json.Reader α} {body : Body} {value : α} :
    body.asAnswer read = .ok value
      ↔ ∃ bytes, body.read = .ok bytes ∧ Json.decodeWith read bytes = .ok value := by
  rw [asAnswer]
  cases body.read with
  | error f => simp
  | ok bytes => cases hv : Json.decodeWith read bytes <;> simp [hv]

theorem asAnswer_eq_error_iff {read : Json.Reader α} {body : Body} {e : ClientError} :
    body.asAnswer read = .error e
      ↔ (∃ f, body.read = .error f ∧ e = .bodyRead f)
        ∨ ∃ bytes cause, body.read = .ok bytes ∧ Json.decodeWith read bytes = .error cause
          ∧ e = .protocol cause := by
  rw [asAnswer]
  cases body.read with
  | error f => simp [eq_comm]
  | ok bytes => cases hv : Json.decodeWith read bytes <;> simp [hv, eq_comm]

end Body

/-- What an answer means, if replies have a given meaning. -/
def Transport.meaning (ofReply : Reply → Except ClientError α) : Answer → Except ClientError α
  | .error e => .error (.transport e)
  | .ok reply => ofReply reply

namespace Client

open Operation (always outcome outcome_always outcome_bind)

variable {transport : Transport σ} {next : Response → Operation σ α}
  {ofReply : Reply → Except ClientError α}

theorem outcome_readAnswer (read : Json.Reader α) (body : OpenBody) (x : Exchange σ) :
    outcome (readAnswer read body) x
      = (body.body.asAnswer read, x.noted (.closed body.number)) := by
  have h : outcome (always (Conversation.readAll body)) x
      = (.ok body.body.read, x.noted (.closed body.number)) := rfl
  rw [readAnswer, outcome_bind, h, Body.asAnswer]
  cases body.body.read with
  | error f => rfl
  | ok bytes =>
      cases hv : Json.decodeWith read bytes with
      | error e => simp [hv]
      | ok value => simp [hv]

theorem outcome_refuse (body : OpenBody) (refusal : ServiceError → ClientError) (x : Exchange σ) :
    outcome (refuse body refusal : Operation σ α) x
      = (.error (body.body.asRefusal refusal), x.noted (.closed body.number)) := by
  have h : outcome (always (Conversation.readAll body)) x
      = (.ok body.body.read, x.noted (.closed body.number)) := rfl
  rw [refuse, outcome_bind, h, Body.asRefusal]
  cases body.body.read with
  | error f => rfl
  | ok bytes => rfl

theorem outcome_close (body : OpenBody) (x : Exchange σ) :
    outcome (always (Conversation.close body)) x = (.ok (), x.noted (.closed body.number)) :=
  rfl

theorem outcome_send (transport : Transport σ) (method : Method) (route : Route)
    (content : Content) (x : Exchange σ) :
    outcome (send transport method route content) x
      = (Transport.meaning (fun reply => .ok (reply.opened x.handed))
          (transport ⟨method, route.path, content⟩ x.service).1,
        x.asked transport ⟨method, route.path, content⟩) := by
  have h : outcome (always (Conversation.send transport ⟨method, route.path, content⟩)) x
      = (.ok ((transport ⟨method, route.path, content⟩ x.service).1.map (·.opened x.handed)),
        x.asked transport ⟨method, route.path, content⟩) := by
    rw [outcome_always, Conversation.run_send]
  rw [send, outcome_bind, h]
  cases (transport ⟨method, route.path, content⟩ x.service).1 with
  | error e => rfl
  | ok reply => rfl

/-- What follows on a response settles it: it gives the reply its meaning and closes the body. -/
def Settles (next : Response → Operation σ α) (ofReply : Reply → Except ClientError α) : Prop :=
  ∀ (reply : Reply) (number : Nat) (x : Exchange σ),
    outcome (next (reply.opened number)) x = (ofReply reply, x.noted (.closed number))

theorem settles_readAnswer (read : Json.Reader α) :
    Settles (fun response => readAnswer read response.body : Response → Operation σ α)
      (fun reply => reply.body.asAnswer read) :=
  fun reply number x => outcome_readAnswer read ⟨number, reply.body⟩ x

theorem settles_refuse (refusal : Status → ServiceError → ClientError) :
    Settles (fun response => refuse response.body (refusal response.status) :
        Response → Operation σ α)
      (fun reply => .error (reply.body.asRefusal (refusal reply.status))) :=
  fun reply number x => outcome_refuse ⟨number, reply.body⟩ (refusal reply.status) x

theorem settles_close (value : α) :
    Settles (fun response => do always (Conversation.close response.body); return value :
        Response → Operation σ α)
      (fun _ => .ok value) := by
  intro reply number x
  rw [outcome_bind, outcome_close]
  rfl

theorem Settles.ite {otherwise : Response → Operation σ α}
    {ofOther : Reply → Except ClientError α} (status : Status) (h : Settles next ofReply)
    (h' : Settles otherwise ofOther) :
    Settles (fun response => if response.status = status then next response else otherwise response)
      (fun reply => if reply.status = status then ofReply reply else ofOther reply) := by
  intro reply number x
  change outcome (if reply.status = status then next _ else otherwise _) x
    = (if reply.status = status then ofReply reply else ofOther reply, _)
  by_cases hs : reply.status = status
  · rw [if_pos hs, if_pos hs]
    exact h reply number x
  · rw [if_neg hs, if_neg hs]
    exact h' reply number x

/-- **One turn.** A request whose response is settled means what its answer means. -/
theorem Settles.outcome (h : Settles next ofReply) (method : Method) (route : Route)
    (content : Content) (x : Exchange σ) :
    outcome (send transport method route content >>= next) x
      = (Transport.meaning ofReply (transport ⟨method, route.path, content⟩ x.service).1,
        x.turn transport ⟨method, route.path, content⟩) := by
  rw [outcome_bind, outcome_send, Exchange.turn]
  cases (transport ⟨method, route.path, content⟩ x.service).1 with
  | error e => rfl
  | ok reply => exact h reply x.handed _

end Client

end AppAdmin
