import AppAdmin.Proofs.Client.Search

/-!
The calls that a client offers, and what their outcomes tell. The error of a call is that of the
last answer it heard, unless the call has a condition of its own: a payload that cannot be written,
a file name that is missing, an app that is in no group.
-/

namespace AppAdmin

namespace Client

open Operation (outcome)

variable {σ α : Type}

/-- A call of an operation with its arguments. -/
inductive Call
  | authenticate (login : Login)
  | exportApp (group app : String)
  | importApp (group app : String) (archive : Bytes) (strategy : String)
  | diff (group app : String) (archive : Bytes) (strategy : String)
  | fetchApp (clientAppId : String)

namespace Call

def Result : Call → Type
  | .authenticate _ => Session
  | .exportApp .. => ExportedApp
  | .importApp .. => Unit
  | .diff .. => List String
  | .fetchApp _ => App

def perform (transport : Transport σ) : (call : Call) → Operation σ call.Result
  | .authenticate login => Client.authenticate transport login
  | .exportApp group app => Client.exportApp transport group app
  | .importApp group app archive strategy => Client.importApp transport group app archive strategy
  | .diff group app archive strategy => Client.diff transport group app archive strategy
  | .fetchApp clientAppId => Client.fetchApp transport clientAppId

/-- The routes that a call requests in order; a search asks for the apps of some groups. A login
whose payload cannot be written requests nothing. -/
def routes (groups : List String) : Call → List Route
  | .authenticate login => match login.payload.encode with
    | .ok _ => [.login login.provider]
    | .error _ => []
  | .exportApp group app => [.exportApp group app]
  | .importApp group app _ strategy => [.importApp group app strategy false]
  | .diff group app _ strategy => [.importApp group app strategy true]
  | .fetchApp _ => .profile :: groups.map .apps

/-- The request of a call to a route. -/
def request : Call → Route → Request
  | .authenticate login, route => match login.payload.encode with
    | .ok body => Client.posting route (Client.loginContent body)
    | .error _ => Client.getting route
  | .importApp _ _ archive _, route | .diff _ _ archive _, route =>
    Client.posting route (Content.none.withBody archive)
  | .exportApp .., route | .fetchApp _, route => Client.getting route

end Call

/-- Routes along with the answers of a transport to their requests, one after the other. -/
def heard (transport : Transport σ) (request : Route → Request) (routes : List Route)
    (service : σ) : List (Route × Answer) :=
  routes.zip (transport.answers (routes.map request) service)

/-- How a result fits the answer that was heard last: it is the error that makes the request fail,
or the request does not fail, and then an error is a condition of the operation. Nothing is heard if
the payload cannot be written. -/
inductive Fits : Option (Route × Answer) → Except ClientError α → Prop
  | unsent (fault : PayloadFault) : Fits none (.error (.serialization fault))
  | heard {route : Route} {answer : Answer} {result : Except ClientError α}
      (errs : ∀ e, result = .error e → e.kind = .domain ∨ route.Fails answer e)
      (fails : ∀ e, route.Fails answer e → result = .error e) :
      Fits (some (route, answer)) result

/-- What a result tells about the answer that was heard last. -/
structure Tells (last : Option (Route × Answer)) (result : Except ClientError α) : Prop where
  /-- A transport error is that of the last request. -/
  transport : ∀ e, result = .error e ∧ e.kind = .transport
    ↔ ∃ route cause, last = some (route, .error cause) ∧ e = .transport cause
  /-- A refusal has a status other than success and a body that was read to its end. -/
  service : ∀ e, result = .error e ∧ e.kind = .service
    ↔ ∃ route reply bytes, last = some (route, .ok reply) ∧ route.Refuses reply.status
      ∧ reply.body.read = .ok bytes
      ∧ e = route.refusal reply.status (ServiceError.ofBytes bytes)
  /-- A read error comes from a body that had to be read, whatever arrived of it before. -/
  bodyRead : ∀ f, result = .error (.bodyRead f)
    ↔ ∃ route reply, last = some (route, .ok reply) ∧ route.Reads reply.status
      ∧ reply.body.read = .error f
  /-- A protocol error comes from a success whose body was read to its end and is no answer. -/
  protocol : ∀ cause, result = .error (.protocol cause)
    ↔ ∃ route reply bytes fault, last = some (route, .ok reply) ∧ reply.status = route.success
      ∧ reply.body.read = .ok bytes ∧ route.faultIn? = some fault ∧ fault bytes = some cause
  /-- A payload that cannot be written is the only reason to send nothing. -/
  serialization : (∃ fault, result = .error (.serialization fault)) ↔ last = none

section Fits

variable {route : Route} {answer : Answer} {last : Option (Route × Answer)}
  {result : Except ClientError α} {e : ClientError}

theorem Fits.of_iff (h : ∀ e, result = .error e ↔ route.Fails answer e) :
    Fits (some (route, answer)) result :=
  .heard (fun e he => .inr ((h e).mp he)) fun e => (h e).mpr

theorem Fits.of_fails (h : route.Fails answer e) :
    Fits (some (route, answer)) (.error e : Except ClientError α) := by
  refine .of_iff fun e' => ?_
  rw [Except.error.injEq]
  constructor
  · rintro rfl
    exact h
  · exact h.unique

theorem Fits.of_passes (h : ∀ e, ¬route.Fails answer e)
    (hk : ∀ e, result = .error e → e.kind = .domain) : Fits (some (route, answer)) result :=
  .heard (fun e he => .inl (hk e he)) fun e hfails => absurd hfails (h e)

theorem isOwn_of_kind_domain (h : e.kind = .domain) : e.isOwn = true := by
  cases e <;> first | rfl | cases h

theorem isOwn_of_kind_service (h : e.kind = .service) : e.isOwn = false := by
  cases e <;> first | rfl | cases h

/-- An error that is no condition of the operation is the failure of the last request. -/
theorem Fits.error_iff (h : Fits last result) (hown : e.isOwn = false) :
    result = .error e ↔ ∃ route answer, last = some (route, answer) ∧ route.Fails answer e := by
  cases h with
  | unsent fault =>
      refine iff_of_false (fun he => ?_) ?_
      · cases he
        cases hown
      · rintro ⟨route, answer, hlast, -⟩
        cases hlast
  | heard errs fails =>
      constructor
      · intro he
        rcases errs e he with hk | hfails
        · cases (isOwn_of_kind_domain hk).symm.trans hown
        · exact ⟨_, _, rfl, hfails⟩
      · rintro ⟨route', answer', hlast, hfails⟩
        cases hlast
        exact fails e hfails

theorem Fits.tells (h : Fits last result) : Tells last result where
  transport e := by
    constructor
    · rintro ⟨he, hk⟩
      cases e with
      | transport cause =>
          obtain ⟨route, answer, hlast, hfails⟩ := (h.error_iff rfl).mp he
          rw [Route.fails_transport_iff.mp hfails] at hlast
          exact ⟨route, cause, hlast, rfl⟩
      | _ => cases hk
    · rintro ⟨route, cause, hlast, rfl⟩
      exact ⟨(h.error_iff rfl).mpr ⟨route, _, hlast, .unanswered cause⟩, rfl⟩
  service e := by
    constructor
    · rintro ⟨he, hk⟩
      obtain ⟨route, answer, hlast, hfails⟩ := (h.error_iff (isOwn_of_kind_service hk)).mp he
      obtain ⟨reply, bytes, rfl, hreply⟩ := Route.fails_service_iff.mp ⟨hfails, hk⟩
      exact ⟨route, reply, bytes, hlast, hreply⟩
    · rintro ⟨route, reply, bytes, hlast, hreply⟩
      obtain ⟨hfails, hk⟩ := Route.fails_service_iff.mpr ⟨reply, bytes, rfl, hreply⟩
      exact ⟨(h.error_iff (isOwn_of_kind_service hk)).mpr ⟨route, _, hlast, hfails⟩, hk⟩
  bodyRead f := by
    rw [h.error_iff rfl]
    constructor
    · rintro ⟨route, answer, hlast, hfails⟩
      obtain ⟨reply, rfl, hreply⟩ := Route.fails_bodyRead_iff.mp hfails
      exact ⟨route, reply, hlast, hreply⟩
    · rintro ⟨route, reply, hlast, hreply⟩
      exact ⟨route, _, hlast, Route.fails_bodyRead_iff.mpr ⟨reply, rfl, hreply⟩⟩
  protocol cause := by
    rw [h.error_iff rfl]
    constructor
    · rintro ⟨route, answer, hlast, hfails⟩
      obtain ⟨reply, bytes, fault, rfl, hreply⟩ := Route.fails_protocol_iff.mp hfails
      exact ⟨route, reply, bytes, fault, hlast, hreply⟩
    · rintro ⟨route, reply, bytes, fault, hlast, hreply⟩
      exact ⟨route, _, hlast, Route.fails_protocol_iff.mpr ⟨reply, bytes, fault, rfl, hreply⟩⟩
  serialization := by
    cases h with
    | unsent fault => exact iff_of_true ⟨fault, rfl⟩ rfl
    | heard errs fails =>
        refine iff_of_false ?_ nofun
        rintro ⟨fault, he⟩
        rcases errs _ he with hk | hfails
        · cases hk
        · cases hfails.isOwn

end Fits

/-! ### The search -/

section Search

variable {transport : Transport σ} {clientAppId : String}

theorem take_listings {asked groups : List String} (h : asked <+: groups) (service : σ) :
    (listings transport groups service).take asked.length = listings transport asked service := by
  obtain ⟨rest, rfl⟩ := h
  have hlength : asked.length
      = (transport.answers (asked.map fun group => getting (.apps group)) service).length := by
    rw [Transport.length_answers, List.length_map]
  rw [listings, List.map_append, Transport.answers_append, List.zip_append hlength]
  refine List.take_left' ?_
  rw [List.length_zip, ← hlength, Nat.min_self]

theorem heard_profile (asked : List String) (service : σ) :
    heard transport getting (.profile :: asked.map .apps) service
      = (.profile, (transport (getting .profile) service).1)
        :: (listings transport asked (transport (getting .profile) service).2).map
          (Prod.map .apps id) := by
  rw [heard, List.map_cons, Transport.answers, List.zip_cons_cons, List.zip_map_left, List.map_map]
  rfl

theorem Search.fits {entries : List (String × Answer)} {asked : List String}
    {result : Except ClientError App} (h : Search clientAppId entries asked result) :
    asked = [] ∧ result = .error (.appNotFound clientAppId)
      ∨ ∃ entry, (entries.take asked.length).getLast? = some entry
        ∧ Fits (some (.apps entry.1, entry.2)) result := by
  induction h with
  | exhausted => exact .inl ⟨rfl, rfl⟩
  | @found group answer app rest holds =>
      exact .inr ⟨(group, answer), rfl, .of_passes (fun e => holds.not_fails) nofun⟩
  | @failed group answer e rest fails => exact .inr ⟨(group, answer), rfl, .of_fails fails⟩
  | @missed group answer rest asked result misses search ih =>
      right
      rcases ih with ⟨rfl, rfl⟩ | ⟨entry, hlast, hfits⟩
      · refine ⟨(group, answer), rfl, .of_passes (fun e hfails => ?_) fun e he => ?_⟩
        · exact not_misses_of_fails hfails misses
        · cases he
          rfl
      · refine ⟨entry, ?_, hfits⟩
        rw [List.length_cons, List.take_succ_cons, List.getLast?_cons, hlast]
        rfl

end Search

/-! ### The calls -/

/-- A call that requests routes ends with a result that fits the last answer. -/
structure Concludes (transport : Transport σ) (request : Route → Request) (routes : List Route)
    (x : Exchange σ) (ended : Except ClientError α × Exchange σ) : Prop where
  sends : x.Sends transport (routes.map request) ended.2
  fits : Fits (heard transport request routes x.service).getLast? ended.1

section Concludes

variable {transport : Transport σ} {request : Route → Request} {route : Route} {x : Exchange σ}
  {ended : Except ClientError α × Exchange σ} {result : Except ClientError α}

theorem concludes_unsent {fault : PayloadFault}
    (h : ended = (.error (.serialization fault), x)) :
    Concludes transport request [] x ended := by
  rw [h]
  exact ⟨.refl x, .unsent fault⟩

theorem concludes_turn (h : ended = (result, x.turn transport (request route)))
    (hfits : Fits (some (route, (transport (request route) x.service).1)) result) :
    Concludes transport request [route] x ended := by
  rw [h]
  exact ⟨Exchange.sends_turn transport _ x, hfits⟩

theorem concludes_exportApp (transport : Transport σ) (group app : String) (x : Exchange σ) :
    Concludes transport getting [.exportApp group app] x
      (outcome (exportApp transport group app) x) := by
  have hfits : Fits (some (.exportApp group app,
      (transport (getting (.exportApp group app)) x.service).1)) _ :=
    .heard
      (fun e he => ((Route.exported_eq_error_iff group app x.handed).mp he).symm.imp_left
        fun ⟨_, _, _, hn⟩ => kind_of_announcedFilename hn)
      fun e hfails => (Route.exported_eq_error_iff group app x.handed).mpr (.inl hfails)
  rw [outcome_exportApp]
  split
  · next hm =>
      rw [hm] at hfits
      exact ⟨Exchange.sends_asked transport _ x, hfits⟩
  · next hm =>
      rw [hm] at hfits
      exact ⟨Exchange.sends_turn transport _ x, hfits⟩

theorem concludes_fetchApp (transport : Transport σ) (clientAppId : String) (x : Exchange σ) :
    ∃ groups : List String, Concludes transport getting (.profile :: groups.map .apps) x
      (outcome (fetchApp transport clientAppId) x) := by
  rcases profile_answers_or_fails (transport (getting .profile) x.service).1 with
    ⟨profile, hprofile⟩ | ⟨cause, hfails⟩
  · have hturn := Exchange.sends_turn transport (getting .profile) x
    obtain ⟨asked, hsends, hsearch⟩ := searchGroups_search transport clientAppId profile.groupIds
      (x.turn transport (getting .profile))
    have hfront := hsearch.asked_isPrefix
    rw [map_fst_listings] at hfront
    refine ⟨asked, ?_, ?_⟩
    · rw [fetchApp_of_answers transport clientAppId x hprofile, List.map_cons, List.map_map]
      exact hturn.trans hsends
    · rw [fetchApp_of_answers transport clientAppId x hprofile, heard_profile, List.getLast?_cons,
        List.getLast?_map]
      -- a search that asks no group leaves the profile as the last answer
      rcases hsearch.fits with ⟨rfl, hresult⟩ | ⟨entry, hlast, hfits⟩
      · rw [hresult]
        refine .of_passes (fun e => hprofile.not_fails) fun e he => ?_
        cases he
        rfl
      · rw [take_listings hfront, Exchange.service_turn] at hlast
        rw [hlast]
        exact hfits
  · exact ⟨[], concludes_turn (fetchApp_of_fails transport clientAppId x hfails) (.of_fails hfails)⟩

end Concludes

theorem Call.perform_concludes (transport : Transport σ) (call : Call) (x : Exchange σ) :
    ∃ groups, Concludes transport call.request (call.routes groups) x
      (outcome (call.perform transport) x) := by
  cases call with
  | authenticate login =>
      refine ⟨[], ?_⟩
      cases h : login.payload.encode with
      | error fault =>
          rw [show (Call.authenticate login).routes [] = [] by simp only [routes, h]]
          exact concludes_unsent (outcome_authenticate_of_fault transport x h)
      | ok body =>
          rw [show (Call.authenticate login).routes [] = [.login login.provider] by
            simp only [routes, h]]
          have hrequest : (Call.authenticate login).request (.login login.provider)
              = posting (.login login.provider) (loginContent body) := by simp only [request, h]
          refine concludes_turn (hrequest ▸ outcome_authenticate transport x h) ?_
          rw [hrequest]
          exact .of_iff fun e => Route.ofReply_asAnswer_eq_error_iff rfl fun _ => id
  | exportApp group app => exact ⟨[], concludes_exportApp transport group app x⟩
  | importApp group app archive strategy =>
      exact ⟨[], concludes_turn (outcome_importApp transport x group app archive strategy)
        (.of_iff fun e => Route.ofReply_ok_eq_error_iff rfl fun _ => id)⟩
  | diff group app archive strategy =>
      exact ⟨[], concludes_turn (outcome_diff transport x group app archive strategy)
        (.of_iff fun e => Route.ofReply_asAnswer_eq_error_iff rfl fun _ => id)⟩
  | fetchApp clientAppId => exact concludes_fetchApp transport clientAppId x

/-- **What the outcome of a call tells.** Each kind of failure says what the last request heard, and
what it heard says which kind of failure it is. -/
theorem Call.perform_tells (transport : Transport σ) (call : Call) (x : Exchange σ) :
    ∃ groups, x.Sends transport ((call.routes groups).map call.request)
        (outcome (call.perform transport) x).2
      ∧ Tells (heard transport call.request (call.routes groups) x.service).getLast?
        (outcome (call.perform transport) x).1 := by
  obtain ⟨groups, hconcludes⟩ := call.perform_concludes transport x
  exact ⟨groups, hconcludes.sends, hconcludes.fits.tells⟩

end Client

end AppAdmin
