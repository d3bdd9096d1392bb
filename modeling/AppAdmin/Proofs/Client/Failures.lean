import AppAdmin.Proofs.Client.Replies

/-!
How a request can fail. The route decides which status means success, whether the body of a success
is read, and in which form a refusal is reported; the answer decides the rest. A request fails in at
most one way.
-/

namespace AppAdmin

variable {α : Type}

/-- The error is a condition of the operation itself and not the failure of a request. -/
def ClientError.isOwn : ClientError → Bool
  | .serialization _ | .disposition _ | .exportMissingFilename | .appNotFound _ => true
  | .transport _ | .bodyRead _ | .protocol _ | .service _ | .authentication .. => false

/-- What is wrong with bytes that are read as JSON, if anything is. -/
def Json.faultIn (read : Json.Reader α) (bytes : Bytes) : Option Json.Error :=
  match Json.decodeWith read bytes with
  | .ok _ => none
  | .error e => some e

theorem Json.faultIn_eq_some_iff {read : Json.Reader α} {bytes : Bytes} {e : Json.Error} :
    Json.faultIn read bytes = some e ↔ Json.decodeWith read bytes = .error e := by
  rw [Json.faultIn]
  cases Json.decodeWith read bytes <;> simp

namespace Route

/-- The status that means success. -/
def success : Route → Status
  | .importApp _ _ _ false => .noContent
  | _ => .ok

/-- A status that is neither success nor refusal. A group that the user may not look into is not
found. -/
def Excuses : Route → Status → Prop
  | .apps _, status => status = .notFound
  | _, _ => False

/-- What is wrong with the body of a success; `none` if that is not read. -/
def faultIn? : Route → Option (Bytes → Option Json.Error)
  | .login _ => some (Json.faultIn Session.read)
  | .profile => some (Json.faultIn Profile.read)
  | .apps _ => some (Json.faultIn (Json.list App.read))
  | .importApp _ _ _ true => some (Json.faultIn (Json.list Json.text))
  | .exportApp .. | .importApp _ _ _ false => none

/-- The error that reports a refusal. Only a login tells the status. -/
def refusal : Route → Status → ServiceError → ClientError
  | .login _, status => .authentication status
  | _, _ => .service

/-- The service refuses with every status that is neither success nor excused. -/
def Refuses (route : Route) (status : Status) : Prop :=
  status ≠ route.success ∧ ¬route.Excuses status

/-- The body has to be read: it is that of a refusal, or of a success with an answer. -/
def Reads (route : Route) (status : Status) : Prop :=
  route.Refuses status ∨ status = route.success ∧ route.faultIn?.isSome

/-- How an answer to a request to a route makes it fail. -/
inductive Fails (route : Route) : Answer → ClientError → Prop
  | unanswered (e : TransportError) : Fails route (.error e) (.transport e)
  | unread {reply : Reply} {f : ReadFailure} (reads : route.Reads reply.status)
      (read : reply.body.read = .error f) : Fails route (.ok reply) (.bodyRead f)
  | refused {reply : Reply} {bytes : Bytes} {e : ClientError}
      (refuses : route.Refuses reply.status) (read : reply.body.read = .ok bytes)
      (reports : e = route.refusal reply.status (ServiceError.ofBytes bytes)) :
      Fails route (.ok reply) e
  | undecoded {reply : Reply} {bytes : Bytes} {fault : Bytes → Option Json.Error} {e : Json.Error}
      (succeeds : reply.status = route.success) (read : reply.body.read = .ok bytes)
      (decodes : route.faultIn? = some fault) (wrong : fault bytes = some e) :
      Fails route (.ok reply) (.protocol e)

variable {route : Route} {answer : Answer} {reply : Reply} {e e' : ClientError}

theorem kind_refusal (route : Route) (status : Status) (cause : ServiceError) :
    (route.refusal status cause).kind = .service := by
  cases route <;> rfl

theorem Excuses.ne_success {status : Status} (h : route.Excuses status) :
    status ≠ route.success := by
  cases route with
  | apps group =>
      change status = .notFound at h
      rw [h]
      exact show Status.notFound ≠ .ok by decide
  | login | profile | exportApp | importApp => exact h.elim

theorem Fails.isOwn (h : route.Fails answer e) : e.isOwn = false := by
  cases h with
  | unanswered | unread | undecoded => rfl
  | refused refuses read reports =>
      rw [reports]
      cases route <;> rfl

/-- A request fails in one way. -/
theorem Fails.unique (h : route.Fails answer e) (h' : route.Fails answer e') : e = e' := by
  cases h with
  | unanswered cause =>
      cases h'
      rfl
  | unread reads read =>
      cases h' with
      | unread reads' read' => rw [Except.error.inj (read.symm.trans read')]
      | refused refuses read' reports => cases read.symm.trans read'
      | undecoded succeeds read' decodes wrong => cases read.symm.trans read'
  | refused refuses read reports =>
      cases h' with
      | unread reads read' => cases read.symm.trans read'
      | refused refuses' read' reports' =>
          rw [reports, reports', Except.ok.inj (read.symm.trans read')]
      | undecoded succeeds read' decodes wrong => exact absurd succeeds refuses.1
  | undecoded succeeds read decodes wrong =>
      cases h' with
      | unread reads read' => cases read.symm.trans read'
      | refused refuses read' reports => exact absurd succeeds refuses.1
      | undecoded succeeds' read' decodes' wrong' =>
          cases Except.ok.inj (read.symm.trans read')
          cases Option.some.inj (decodes.symm.trans decodes')
          rw [Option.some.inj (wrong.symm.trans wrong')]

theorem refusal_ne (route : Route) (status : Status) (cause : ServiceError)
    (h : e.kind ≠ .service) : e ≠ route.refusal status cause := by
  rintro rfl
  exact h (kind_refusal route status cause)

theorem fails_transport_iff {cause : TransportError} :
    route.Fails answer (.transport cause) ↔ answer = .error cause := by
  constructor
  · intro h
    cases h with
    | unanswered => rfl
    | refused refuses read reports => exact absurd reports (route.refusal_ne _ _ nofun)
  · rintro rfl
    exact .unanswered cause

theorem fails_bodyRead_iff {f : ReadFailure} :
    route.Fails answer (.bodyRead f)
      ↔ ∃ reply, answer = .ok reply ∧ route.Reads reply.status ∧ reply.body.read = .error f := by
  constructor
  · intro h
    cases h with
    | unread reads read => exact ⟨_, rfl, reads, read⟩
    | refused refuses read reports => exact absurd reports (route.refusal_ne _ _ nofun)
  · rintro ⟨reply, rfl, reads, read⟩
    exact .unread reads read

theorem fails_protocol_iff {cause : Json.Error} :
    route.Fails answer (.protocol cause)
      ↔ ∃ reply bytes fault, answer = .ok reply ∧ reply.status = route.success
        ∧ reply.body.read = .ok bytes ∧ route.faultIn? = some fault
        ∧ fault bytes = some cause := by
  constructor
  · intro h
    cases h with
    | undecoded succeeds read decodes wrong => exact ⟨_, _, _, rfl, succeeds, read, decodes, wrong⟩
    | refused refuses read reports => exact absurd reports (route.refusal_ne _ _ nofun)
  · rintro ⟨reply, bytes, fault, rfl, succeeds, read, decodes, wrong⟩
    exact .undecoded succeeds read decodes wrong

theorem fails_service_iff :
    route.Fails answer e ∧ e.kind = .service
      ↔ ∃ reply bytes, answer = .ok reply ∧ route.Refuses reply.status
        ∧ reply.body.read = .ok bytes
        ∧ e = route.refusal reply.status (ServiceError.ofBytes bytes) := by
  constructor
  · rintro ⟨h, hk⟩
    cases h with
    | unanswered | unread | undecoded => cases hk
    | refused refuses read reports => exact ⟨_, _, rfl, refuses, read, reports⟩
  · rintro ⟨reply, bytes, rfl, refuses, read, rfl⟩
    exact ⟨.refused refuses read rfl, route.kind_refusal _ _⟩

/-! ### Failures and meanings -/

theorem error_asRefusal_iff (h : route.Refuses reply.status) :
    (.error (reply.body.asRefusal (route.refusal reply.status)) : Except ClientError α) = .error e
      ↔ route.Fails (.ok reply) e := by
  have hfails : route.Fails (.ok reply) (reply.body.asRefusal (route.refusal reply.status)) := by
    rw [Body.asRefusal]
    cases hr : reply.body.read with
    | error f => exact .unread (.inl h) hr
    | ok bytes => exact .refused h hr rfl
  rw [Except.error.injEq]
  constructor
  · rintro rfl
    exact hfails
  · exact hfails.unique

theorem asAnswer_eq_error_iff {read : Json.Reader α} (h : reply.status = route.success)
    (hf : route.faultIn? = some (Json.faultIn read)) :
    reply.body.asAnswer read = .error e ↔ route.Fails (.ok reply) e := by
  rw [Body.asAnswer_eq_error_iff]
  constructor
  · rintro (⟨f, hr, rfl⟩ | ⟨bytes, cause, hr, wrong, rfl⟩)
    · exact .unread (.inr ⟨h, by rw [hf]; rfl⟩) hr
    · exact .undecoded h hr hf (Json.faultIn_eq_some_iff.mpr wrong)
  · intro hfails
    cases hfails with
    | unread reads hr => exact .inl ⟨_, hr, rfl⟩
    | refused refuses hr reports => exact absurd h refuses.1
    | undecoded succeeds hr decodes wrong =>
        cases Option.some.inj (hf.symm.trans decodes)
        exact .inr ⟨_, _, hr, Json.faultIn_eq_some_iff.mp wrong, rfl⟩

theorem not_fails_of_unread (h : reply.status = route.success) (hf : route.faultIn? = none) :
    ¬route.Fails (.ok reply) e := by
  intro hfails
  cases hfails with
  | unread reads hr =>
      rcases reads with refuses | ⟨-, hsome⟩
      · exact refuses.1 h
      · rw [hf] at hsome
        cases hsome
  | refused refuses hr reports => exact refuses.1 h
  | undecoded succeeds hr decodes wrong => cases hf.symm.trans decodes

theorem not_fails_of_excuses (h : route.Excuses reply.status) : ¬route.Fails (.ok reply) e := by
  intro hfails
  cases hfails with
  | unread reads hr =>
      rcases reads with refuses | ⟨succeeds, -⟩
      · exact refuses.2 h
      · exact h.ne_success succeeds
  | refused refuses hr reports => exact refuses.2 h
  | undecoded succeeds hr decodes wrong => exact h.ne_success succeeds

end Route

end AppAdmin
