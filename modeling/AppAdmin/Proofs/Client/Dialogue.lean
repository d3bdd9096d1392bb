import AppAdmin.Client

/-!
What a piece of an exchange sends, and what it hears. The transport answers each request from the
state that the earlier ones left it in, so the requests that were sent determine the answers. Every
operation is a chain of turns: a request, and a reply whose body is closed before the next request.
-/

namespace AppAdmin

variable {σ α β : Type}

/-- The answer of a transport to a request. -/
abbrev Answer := Except TransportError Reply

namespace Transport

/-- The state of a transport behind requests that came one after the other. -/
def advance (transport : Transport σ) (requests : List Request) (service : σ) : σ :=
  requests.foldl (fun service request => (transport request service).2) service

/-- The answers of a transport to requests that come one after the other. -/
def answers (transport : Transport σ) : List Request → σ → List Answer
  | [], _ => []
  | request :: rest, service =>
    (transport request service).1 :: answers transport rest (transport request service).2

theorem advance_append (transport : Transport σ) (before after : List Request) (service : σ) :
    transport.advance (before ++ after) service
      = transport.advance after (transport.advance before service) :=
  List.foldl_append

theorem answers_append (transport : Transport σ) (before after : List Request) (service : σ) :
    transport.answers (before ++ after) service
      = transport.answers before service
        ++ transport.answers after (transport.advance before service) := by
  induction before generalizing service with
  | nil => rfl
  | cons request rest ih =>
      rw [List.cons_append, answers, answers, ih, List.cons_append]
      rfl

theorem length_answers (transport : Transport σ) (requests : List Request) (service : σ) :
    (transport.answers requests service).length = requests.length := by
  induction requests generalizing service with
  | nil => rfl
  | cons request rest ih => rw [answers, List.length_cons, List.length_cons, ih]

end Transport

/-- The request that an event is about, if it is the sending of one. -/
def Event.request? : Event → Option Request
  | .sent request => some request
  | .opened _ | .closed _ => none

namespace Exchange

variable (transport : Transport σ)

def requests (x : Exchange σ) : List Request := x.log.filterMap Event.request?

/-- The exchange with one more event. -/
def noted (x : Exchange σ) (e : Event) : Exchange σ := { x with log := x.log ++ [e] }

/-- The exchange behind a request, with the body of the reply open. -/
def asked (request : Request) (x : Exchange σ) : Exchange σ :=
  match transport request x.service with
  | (.error _, service) => ⟨service, x.log ++ [.sent request], x.handed⟩
  | (.ok _, service) => ⟨service, x.log ++ [.sent request, .opened x.handed], x.handed + 1⟩

/-- The exchange behind a request, with the body of the reply closed again. -/
def turn (request : Request) (x : Exchange σ) : Exchange σ :=
  match (transport request x.service).1 with
  | .error _ => x.asked transport request
  | .ok _ => (x.asked transport request).noted (.closed x.handed)

/-- From `x` to `y` the requests `sent` went out, one after the other, and nothing else did. -/
structure Sends (x : Exchange σ) (sent : List Request) (y : Exchange σ) : Prop where
  requests : y.requests = x.requests ++ sent
  service : y.service = transport.advance sent x.service

section Sends

variable {transport} {x y z : Exchange σ} {sent more : List Request}

theorem Sends.refl (x : Exchange σ) : x.Sends transport [] x :=
  ⟨(List.append_nil _).symm, rfl⟩

theorem Sends.trans (h : x.Sends transport sent y) (h' : y.Sends transport more z) :
    x.Sends transport (sent ++ more) z := by
  refine ⟨?_, ?_⟩
  · rw [h'.requests, h.requests, List.append_assoc]
  · rw [h'.service, h.service, transport.advance_append]

theorem Sends.noted {e : Event} (h : x.Sends transport sent y) (he : e.request? = none) :
    x.Sends transport sent (y.noted e) := by
  refine ⟨?_, h.service⟩
  rw [← h.requests]
  simp [Exchange.requests, Exchange.noted, he]

end Sends

theorem sends_asked (request : Request) (x : Exchange σ) :
    x.Sends transport [request] (x.asked transport request) := by
  rw [asked]
  split
  · next h => constructor <;> simp [Exchange.requests, h, Event.request?, Transport.advance]
  · next h => constructor <;> simp [Exchange.requests, h, Event.request?, Transport.advance]

theorem sends_turn (request : Request) (x : Exchange σ) :
    x.Sends transport [request] (x.turn transport request) := by
  rw [turn]
  split
  · exact sends_asked transport request x
  · exact (sends_asked transport request x).noted rfl

theorem service_turn (request : Request) (x : Exchange σ) :
    (x.turn transport request).service = (transport request x.service).2 :=
  (sends_turn transport request x).service

end Exchange

/-- The response to a reply, with its body open under a number. -/
def Reply.opened (reply : Reply) (number : Nat) : Response :=
  ⟨reply.status, reply.headers, ⟨number, reply.body⟩⟩

theorem Conversation.run_send (transport : Transport σ) (request : Request) (x : Exchange σ) :
    ((Conversation.send transport request).run x).run
      = ((transport request x.service).1.map (·.opened x.handed), x.asked transport request) := by
  rw [Exchange.asked]
  cases h : transport request x.service with
  | mk answer service =>
      cases answer with
      | error e => simp [Conversation.send, note, h, Except.map]
      | ok reply => simp [Conversation.send, note, h, Except.map, Reply.opened]

namespace Operation

/-- What an operation comes to, and the exchange behind it. -/
def outcome (operation : Operation σ α) (x : Exchange σ) : Except ClientError α × Exchange σ :=
  (operation.run.run x).run

@[simp]
theorem outcome_pure (value : α) (x : Exchange σ) :
    outcome (pure value) x = (.ok value, x) :=
  rfl

@[simp]
theorem outcome_throw (e : ClientError) (x : Exchange σ) :
    outcome (throw e : Operation σ α) x = (.error e, x) :=
  rfl

theorem outcome_always (part : Conversation σ α) (x : Exchange σ) :
    outcome (always part) x = (.ok (part.run x).run.1, (part.run x).run.2) :=
  rfl

theorem outcome_bind (operation : Operation σ α) (next : α → Operation σ β) (x : Exchange σ) :
    outcome (operation >>= next) x =
      match outcome operation x with
      | (.ok value, y) => outcome (next value) y
      | (.error e, y) => (.error e, y) := by
  simp only [outcome, ExceptT.run_bind, StateT.run_bind, Id.run_bind]
  obtain ⟨result, y⟩ := (operation.run.run x).run
  cases result with
  | ok value => rfl
  | error e => rfl

end Operation

end AppAdmin
