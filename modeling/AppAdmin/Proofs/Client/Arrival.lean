import AppAdmin.Proofs.Client.Bodies
import Mathlib.Data.List.Forall2

/-!
How bodies arrive. Two bodies are alike if they bring the same bytes and the same failure behind them;
their pieces and the interruptions between these may differ. Two runs whose transports answer alike
cannot be told apart: a relation between operations that is kept by each step of a run says so.
-/

namespace AppAdmin

variable {σ τ α β γ δ : Type}

/-! ### Bodies -/

/-- The bytes of an arrival. -/
def Arrival.bytes : Arrival → Bytes
  | .piece bytes => bytes
  | .failure _ => []

/-- The failure of an arrival, if it is one that ends the reading. -/
def Arrival.final? : Arrival → Option ReadFailure
  | .piece _ => none
  | .failure f => if f.isInterruption then none else some f

namespace Body

/-- The first failure that is no interruption. -/
def failure? (body : Body) : Option ReadFailure := body.findSome? Arrival.final?

/-- The same bytes arrive, and the same failure behind them. -/
structure Alike (body body' : Body) : Prop where
  arrived : body.arrived = body'.arrived
  failure : body.failure? = body'.failure?

theorem read_eq (body : Body) : body.read =
    match body.failure? with
    | none => .ok body.arrived
    | some f => .error f := by
  induction body with
  | nil => rfl
  | cons arrival rest ih =>
      rw [failure?, List.findSome?_cons]
      rw [failure?] at ih
      cases arrival with
      | piece bytes =>
          rw [read, ih, Arrival.final?, arrived]
          cases List.findSome? Arrival.final? rest <;> rfl
      | failure f =>
          rw [read, Arrival.final?, arrived]
          by_cases hf : f.isInterruption = true
          · rw [if_pos hf, if_pos hf, if_pos hf]
            exact ih
          · rw [if_neg hf, if_neg hf]

theorem Alike.read {body body' : Body} (h : body.Alike body') : body.read = body'.read := by
  rw [read_eq, read_eq, h.failure, h.arrived]

/-- Where no failure ends the reading, all pieces are read. -/
theorem arrived_eq_flatMap {body : Body} (h : body.failure? = none) :
    body.arrived = body.flatMap Arrival.bytes := by
  induction body with
  | nil => rfl
  | cons arrival rest ih =>
      rw [failure?, List.findSome?_cons] at h
      cases arrival with
      | piece bytes => rw [arrived, List.flatMap_cons, ih h, Arrival.bytes]
      | failure f =>
          rw [Arrival.final?] at h
          by_cases hf : f.isInterruption = true
          · rw [if_pos hf] at h
            rw [arrived, if_pos hf, List.flatMap_cons, ih h, Arrival.bytes, List.nil_append]
          · rw [if_neg hf] at h
            cases h

theorem Alike.asAnswer {body body' : Body} (h : body.Alike body') (read : Json.Reader α) :
    body.asAnswer read = body'.asAnswer read := by
  rw [Body.asAnswer, Body.asAnswer, h.read]

theorem asRefusal_eq (refusal : ServiceError → ClientError) (body : Body) :
    body.asRefusal refusal =
      match ServiceError.ofBody body with
      | .ok cause => refusal cause
      | .error f => .bodyRead f := by
  rw [asRefusal, ServiceError.ofBody]
  cases body.read <;> rfl

end Body

theorem ServiceError.ofBody_congr {body body' : Body} (h : body.Alike body') :
    ofBody body = ofBody body' := by
  rw [ofBody, ofBody, h.read]

theorem ServiceError.ofBody_of_failure? {body : Body} (h : body.failure? = none) :
    ofBody body = .ok (ofBytes (body.flatMap Arrival.bytes)) := by
  rw [ofBody, Body.read_eq, h, ← Body.arrived_eq_flatMap h]
  rfl

/-! ### Transports -/

structure Reply.Alike (reply reply' : Reply) : Prop where
  status : reply.status = reply'.status
  headers : reply.headers = reply'.headers
  body : reply.body.Alike reply'.body

/-- Results that are the same fault, or values that are related. -/
inductive Mirrors {ε : Type} (R : α → β → Prop) : Except ε α → Except ε β → Prop
  | fault (e : ε) : Mirrors R (.error e) (.error e)
  | value {a : α} {b : β} (h : R a b) : Mirrors R (.ok a) (.ok b)

/-- Two transports answer alike from two states on: whatever is asked, they give the same statuses,
headers and errors, and bodies that are alike. -/
def Transport.Alike (transport : Transport σ) (service : σ) (transport' : Transport τ)
    (service' : τ) : Prop :=
  ∀ requests, List.Forall₂ (Mirrors Reply.Alike) (transport.answers requests service)
    (transport'.answers requests service')

section Transports

variable {transport : Transport σ} {transport' : Transport τ} {service : σ} {service' : τ}

theorem Transport.Alike.answer (h : transport.Alike service transport' service')
    (request : Request) :
    Mirrors Reply.Alike (transport request service).1 (transport' request service').1 := by
  cases h [request] with
  | cons hanswer _ => exact hanswer

theorem Transport.Alike.next (h : transport.Alike service transport' service')
    (request : Request) :
    transport.Alike (transport request service).2 transport' (transport' request service').2 := by
  intro requests
  cases h (request :: requests) with
  | cons _ hrest => exact hrest

/-- Scripts with answers that are alike make transports that are alike. -/
theorem Transport.alike_prepared {answers answers' : List Answer}
    (h : List.Forall₂ (Mirrors Reply.Alike) answers answers') :
    Transport.prepared.Alike answers Transport.prepared answers' := by
  intro requests
  induction requests generalizing answers answers' with
  | nil => exact .nil
  | cons request requests ih =>
      cases h with
      | nil => exact .cons (.fault _) (ih .nil)
      | cons hanswer hrest => exact .cons hanswer (ih hrest)

end Transports

/-- Two exchanges whose transports answer alike from here on, and in which the same has happened: the
same requests were sent, and the same bodies handed out and closed. -/
structure Exchange.Alike (transport : Transport σ) (transport' : Transport τ) (x : Exchange σ)
    (x' : Exchange τ) : Prop where
  services : transport.Alike x.service transport' x'.service
  log : x.log = x'.log
  handed : x.handed = x'.handed

section Exchanges

variable {transport : Transport σ} {transport' : Transport τ} {x : Exchange σ} {x' : Exchange τ}

theorem Exchange.Alike.noted (h : x.Alike transport transport' x') (e : Event) :
    (x.noted e).Alike transport transport' (x'.noted e) where
  services := h.services
  log := congrArg (· ++ [e]) h.log
  handed := h.handed

theorem Exchange.Alike.asked (h : x.Alike transport transport' x') (request : Request) :
    (x.asked transport request).Alike transport transport' (x'.asked transport' request) := by
  have hanswer := h.services.answer request
  have hnext := h.services.next request
  rw [Exchange.asked, Exchange.asked]
  cases hx : transport request x.service with
  | mk answer service =>
      cases hx' : transport' request x'.service with
      | mk answer' service' =>
          rw [hx, hx'] at hanswer hnext
          cases hanswer with
          | fault e => exact ⟨hnext, congrArg (· ++ _) h.log, h.handed⟩
          | value hreply =>
              refine ⟨hnext, ?_, congrArg Nat.succ h.handed⟩
              dsimp only
              rw [h.log, h.handed]

end Exchanges

/-! ### Operations -/

namespace Operation

/-- Two operations cannot be told apart: from exchanges that are alike they come to results that
mirror each other, and leave exchanges that are alike. -/
def Alike (transport : Transport σ) (transport' : Transport τ) (R : α → β → Prop)
    (operation : Operation σ α) (operation' : Operation τ β) : Prop :=
  ∀ (x : Exchange σ) (x' : Exchange τ), x.Alike transport transport' x' →
    Mirrors R (outcome operation x).1 (outcome operation' x').1
      ∧ (outcome operation x).2.Alike transport transport' (outcome operation' x').2

section Steps

variable {transport : Transport σ} {transport' : Transport τ} {R : α → β → Prop}
  {S : γ → δ → Prop} {operation : Operation σ α} {operation' : Operation τ β}

theorem alike_pure {a : α} {b : β} (h : R a b) :
    Alike transport transport' R (pure a) (pure b) :=
  fun _ _ hx => ⟨.value h, hx⟩

theorem alike_throw (e : ClientError) : Alike transport transport' R (throw e) (throw e) :=
  fun _ _ hx => ⟨.fault e, hx⟩

theorem Alike.bind {next : α → Operation σ γ} {next' : β → Operation τ δ}
    (h : Alike transport transport' R operation operation')
    (hnext : ∀ a b, R a b → Alike transport transport' S (next a) (next' b)) :
    Alike transport transport' S (operation >>= next) (operation' >>= next') := by
  intro x x' hx
  obtain ⟨hresult, hbehind⟩ := h x x' hx
  rw [outcome_bind, outcome_bind]
  generalize outcome operation x = ended at hresult hbehind
  generalize outcome operation' x' = ended' at hresult hbehind
  obtain ⟨result, y⟩ := ended
  obtain ⟨result', y'⟩ := ended'
  cases hresult with
  | fault e => exact ⟨.fault e, hbehind⟩
  | value hab => exact hnext _ _ hab y y' hbehind

theorem Alike.ite {p : Prop} [Decidable p] {other : Operation σ α} {other' : Operation τ β}
    (h : Alike transport transport' R operation operation')
    (h' : Alike transport transport' R other other') :
    Alike transport transport' R (if p then operation else other)
      (if p then operation' else other') := by
  by_cases hp : p
  · rw [if_pos hp, if_pos hp]
    exact h
  · rw [if_neg hp, if_neg hp]
    exact h'

end Steps

end Operation

structure OpenBody.Alike (body body' : OpenBody) : Prop where
  number : body.number = body'.number
  body : body.body.Alike body'.body

structure Response.Alike (response response' : Response) : Prop where
  status : response.status = response'.status
  headers : response.headers = response'.headers
  body : response.body.Alike response'.body

/-- Two exports of the same archive. Reading it to its end yields the same bytes or the same
failure. -/
structure ExportedApp.Alike (exported exported' : ExportedApp) : Prop where
  filename : exported.filename = exported'.filename
  archive : exported.archive.Alike exported'.archive
  read : exported.archive.body.read = exported'.archive.body.read

namespace Client

open Operation (Alike alike_pure alike_throw always outcome)

variable {transport : Transport σ} {transport' : Transport τ}

theorem alike_send (method : Method) (route : Route) (content : Content) :
    Alike transport transport' Response.Alike (send transport method route content)
      (send transport' method route content) := by
  intro x x' hx
  have hanswer := hx.services.answer ⟨method, route.path, content⟩
  rw [outcome_send, outcome_send]
  refine ⟨?_, hx.asked _⟩
  dsimp only
  generalize (transport ⟨method, route.path, content⟩ x.service).1 = answer at hanswer
  generalize (transport' ⟨method, route.path, content⟩ x'.service).1 = answer' at hanswer
  cases hanswer with
  | fault e => exact .fault _
  | value hreply =>
      exact .value ⟨hreply.status, hreply.headers, ⟨hx.handed, hreply.body⟩⟩

theorem alike_close {body body' : OpenBody} (h : body.Alike body') :
    Alike transport transport' Eq (always (Conversation.close body))
      (always (Conversation.close body')) := by
  intro x x' hx
  rw [outcome_close, outcome_close, h.number]
  exact ⟨.value rfl, hx.noted _⟩

theorem mirrors_eq (result : Except ClientError α) : Mirrors Eq result result := by
  cases result with
  | error e => exact .fault e
  | ok a => exact .value rfl

theorem alike_readAnswer (read : Json.Reader α) {body body' : OpenBody} (h : body.Alike body') :
    Alike transport transport' Eq (readAnswer read body) (readAnswer read body') := by
  intro x x' hx
  rw [outcome_readAnswer, outcome_readAnswer, h.number, h.body.asAnswer read]
  exact ⟨mirrors_eq _, hx.noted _⟩

theorem alike_refuse {R : α → β → Prop} (refusal : ServiceError → ClientError)
    {body body' : OpenBody} (h : body.Alike body') :
    Alike transport transport' R (refuse body refusal) (refuse body' refusal) := by
  intro x x' hx
  rw [outcome_refuse, outcome_refuse, h.number, Body.asRefusal_eq, Body.asRefusal_eq,
    ServiceError.ofBody_congr h.body]
  exact ⟨.fault _, hx.noted _⟩

theorem alike_authenticate (login : Login) :
    Alike transport transport' Eq (authenticate transport login)
      (authenticate transport' login) := by
  rw [authenticate, authenticate]
  cases login.payload.encode with
  | error fault => exact alike_throw _
  | ok body =>
      refine (alike_send _ _ _).bind fun response response' h => ?_
      rw [h.status]
      exact (alike_readAnswer _ h.body).ite (alike_refuse _ h.body)

theorem alike_exportApp (group app : String) :
    Alike transport transport' ExportedApp.Alike (exportApp transport group app)
      (exportApp transport' group app) := by
  refine (alike_send _ _ _).bind fun response response' h => ?_
  rw [h.status, h.headers]
  refine Alike.ite ?_ (alike_refuse _ h.body)
  cases announcedFilename response'.headers with
  | ok filename => exact alike_pure ⟨rfl, h.body, h.body.body.read⟩
  | error e => exact (alike_close h.body).bind fun _ _ _ => alike_throw e

theorem alike_importApp (group app : String) (archive : Bytes) (strategy : String) :
    Alike transport transport' Eq (importApp transport group app archive strategy)
      (importApp transport' group app archive strategy) := by
  refine (alike_send _ _ _).bind fun response response' h => ?_
  rw [h.status]
  exact (alike_close h.body).ite (alike_refuse _ h.body)

theorem alike_diff (group app : String) (archive : Bytes) (strategy : String) :
    Alike transport transport' Eq (diff transport group app archive strategy)
      (diff transport' group app archive strategy) := by
  refine (alike_send _ _ _).bind fun response response' h => ?_
  rw [h.status]
  exact (alike_readAnswer _ h.body).ite (alike_refuse _ h.body)

theorem alike_fetchProfile :
    Alike transport transport' Eq (fetchProfile transport) (fetchProfile transport') := by
  refine (alike_send _ _ _).bind fun response response' h => ?_
  rw [h.status]
  exact (alike_readAnswer _ h.body).ite (alike_refuse _ h.body)

theorem alike_fetchApps (group : String) :
    Alike transport transport' Eq (fetchApps transport group) (fetchApps transport' group) := by
  refine (alike_send _ _ _).bind fun response response' h => ?_
  rw [h.status]
  refine (alike_readAnswer _ h.body).ite (Alike.ite ?_ (alike_refuse _ h.body))
  exact (alike_close h.body).bind fun _ _ _ => alike_pure rfl

theorem alike_searchGroups (clientAppId : String) (groups : List String) :
    Alike transport transport' Eq (searchGroups transport clientAppId groups)
      (searchGroups transport' clientAppId groups) := by
  induction groups with
  | nil => exact alike_throw _
  | cons group rest ih =>
      refine (alike_fetchApps group).bind fun apps apps' h => ?_
      rw [h]
      cases App.find? apps' clientAppId with
      | some app => exact alike_pure rfl
      | none => exact ih

theorem alike_fetchApp (clientAppId : String) :
    Alike transport transport' Eq (fetchApp transport clientAppId)
      (fetchApp transport' clientAppId) := by
  refine alike_fetchProfile.bind fun profile profile' h => ?_
  rw [h]
  exact alike_searchGroups clientAppId profile'.groupIds

namespace Call

/-- Values of a call that a caller cannot tell apart. -/
def Same : (call : Call) → call.Result → call.Result → Prop
  | .exportApp .. => ExportedApp.Alike
  | .authenticate _ | .importApp .. | .diff .. | .fetchApp _ => Eq

theorem alike_perform (call : Call) :
    Alike transport transport' call.Same (call.perform transport) (call.perform transport') := by
  cases call with
  | authenticate login => exact alike_authenticate login
  | exportApp group app => exact alike_exportApp group app
  | importApp group app archive strategy => exact alike_importApp group app archive strategy
  | diff group app archive strategy => exact alike_diff group app archive strategy
  | fetchApp clientAppId => exact alike_fetchApp clientAppId

theorem alike_archive? (call : Call) {result result' : Except ClientError call.Result}
    (h : Mirrors call.Same result result') :
    List.Forall₂ OpenBody.Alike (call.archive? result).toList (call.archive? result').toList := by
  cases call with
  | exportApp group app =>
      cases h with
      | fault e => exact .nil
      | value h => exact .cons h.archive .nil
  | authenticate | importApp | diff | fetchApp => exact .nil

/-- A run of calls: what one call preserves, all of them do. -/
theorem performAll_alike (calls : List Call) {x : Exchange σ} {x' : Exchange τ}
    (h : x.Alike transport transport' x') :
    List.Forall₂ OpenBody.Alike (performAll transport calls x).1 (performAll transport' calls x').1
      ∧ (performAll transport calls x).2.Alike transport transport'
        (performAll transport' calls x').2 := by
  induction calls generalizing x x' with
  | nil => exact ⟨.nil, h⟩
  | cons call rest ih =>
      obtain ⟨hresult, hbehind⟩ := call.alike_perform x x' h
      obtain ⟨harchives, hended⟩ := ih hbehind
      exact ⟨List.rel_append (call.alike_archive? hresult) harchives, hended⟩

/-- **The way bodies arrive is invisible.** Over transports that answer alike, calls one after the other
send the same requests and close the same bodies; each comes to the same result, and the archives that
are handed over read alike. A refusal is that of all the bytes of its body. -/
theorem performAll_arrival (before : List Call) (call : Call) {x : Exchange σ} {x' : Exchange τ}
    (h : x.Alike transport transport' x') :
    let y := (performAll transport before x).2
    let y' := (performAll transport' before x').2
    let ended := outcome (call.perform transport) y
    let ended' := outcome (call.perform transport') y'
    Mirrors call.Same ended.1 ended'.1
      ∧ ended.2.Alike transport transport' ended'.2
      ∧ (∀ body body' : Body, body.Alike body' →
        ServiceError.ofBody body = ServiceError.ofBody body')
      ∧ ∀ body : Body, body.failure? = none →
        ServiceError.ofBody body = .ok (ServiceError.ofBytes (body.flatMap Arrival.bytes)) := by
  intro y y' ended ended'
  obtain ⟨hresult, hbehind⟩ := call.alike_perform y y' (performAll_alike before h).2
  exact ⟨hresult, hbehind, fun _ _ => ServiceError.ofBody_congr,
    fun _ => ServiceError.ofBody_of_failure?⟩

/-- An answer in one piece, and in two with an interruption between them. -/
theorem performAll_arrival_interrupted :
    let whole : List Answer := [.ok ⟨.ok, .empty, [.piece [0x5B, 0x5D]]⟩]
    let parts : List Answer := [.ok ⟨.ok, .empty,
      [.piece [0x5B], .failure ⟨"Interrupted", ""⟩, .piece [0x5D]]⟩]
    let call := Call.diff "group" "app" [] "merge"
    (Exchange.start whole).Alike Transport.prepared Transport.prepared (Exchange.start parts)
      ∧ Mirrors call.Same (outcome (call.perform Transport.prepared) (Exchange.start whole)).1
        (outcome (call.perform Transport.prepared) (Exchange.start parts)).1 := by
  intro whole parts call
  have hbody : Body.Alike [.piece [0x5B, 0x5D]]
      [.piece [0x5B], .failure ⟨"Interrupted", ""⟩, .piece [0x5D]] :=
    ⟨by decide, by decide⟩
  have hstart : (Exchange.start whole).Alike Transport.prepared Transport.prepared
      (Exchange.start parts) :=
    ⟨Transport.alike_prepared (.cons (.value ⟨rfl, rfl, hbody⟩) .nil), rfl, rfl⟩
  exact ⟨hstart, (performAll_arrival [] call hstart).1⟩

end Call

end Client

end AppAdmin
