import AppAdmin.Proofs.Client.Failures

/-!
What each operation comes to. An operation that is one turn means what its answer means, and it ends
with an error exactly if its request fails. The search for an app is a turn for the profile and then
turns for groups.
-/

namespace AppAdmin

variable {σ α : Type}

/-- What a reply from a route means, if a success is taken in a given way. -/
def Route.ofReply (route : Route) (take : Body → Except ClientError α) (reply : Reply) :
    Except ClientError α :=
  if reply.status = route.success then take reply.body
  else .error (reply.body.asRefusal (route.refusal reply.status))

/-- What a reply means that lists the apps of a group. -/
def Reply.apps (reply : Reply) : Except ClientError (List App) :=
  if reply.status = .ok then reply.body.asAnswer (Json.list App.read)
  else if reply.status = .notFound then .ok []
  else .error (reply.body.asRefusal .service)

/-- What a reply means to an export, if its body is open under a number. -/
def Reply.exported (number : Nat) (reply : Reply) : Except ClientError ExportedApp :=
  if reply.status = .ok then
    (Client.announcedFilename reply.headers).map fun filename => ⟨filename, ⟨number, reply.body⟩⟩
  else .error (reply.body.asRefusal .service)

namespace Route

variable {route : Route} {answer : Answer} {e : ClientError}

theorem meaning_eq_error_iff {ofReply : Reply → Except ClientError α}
    (h : ∀ reply, ofReply reply = .error e ↔ route.Fails (.ok reply) e) :
    Transport.meaning ofReply answer = .error e ↔ route.Fails answer e := by
  cases answer with
  | error cause =>
      constructor
      · intro he
        cases he
        exact .unanswered cause
      · intro hfails
        cases hfails
        rfl
  | ok reply => exact h reply

theorem ofReply_eq_error_iff {take : Body → Except ClientError α}
    (hx : ∀ status, ¬route.Excuses status)
    (ht : ∀ reply : Reply, reply.status = route.success →
      (take reply.body = .error e ↔ route.Fails (.ok reply) e)) :
    Transport.meaning (route.ofReply take) answer = .error e ↔ route.Fails answer e := by
  refine meaning_eq_error_iff fun reply => ?_
  rw [ofReply]
  by_cases hs : reply.status = route.success
  · rw [if_pos hs]
    exact ht reply hs
  · rw [if_neg hs]
    exact error_asRefusal_iff ⟨hs, hx reply.status⟩

/-- A request whose success is read fails exactly if the answer means an error. -/
theorem ofReply_asAnswer_eq_error_iff {read : Json.Reader α}
    (hf : route.faultIn? = some (Json.faultIn read)) (hx : ∀ status, ¬route.Excuses status) :
    Transport.meaning (route.ofReply (Body.asAnswer read)) answer = .error e
      ↔ route.Fails answer e :=
  ofReply_eq_error_iff hx fun _ hs => asAnswer_eq_error_iff hs hf

/-- A request whose success is not read fails exactly if the answer means an error. -/
theorem ofReply_ok_eq_error_iff {value : α} (hf : route.faultIn? = none)
    (hx : ∀ status, ¬route.Excuses status) :
    Transport.meaning (route.ofReply fun _ => .ok value) answer = .error e
      ↔ route.Fails answer e :=
  ofReply_eq_error_iff hx fun _ hs => iff_of_false nofun (not_fails_of_unread hs hf)

theorem apps_eq_error_iff (group : String) :
    Transport.meaning Reply.apps answer = .error e ↔ (Route.apps group).Fails answer e := by
  refine meaning_eq_error_iff fun reply => ?_
  rw [Reply.apps]
  by_cases hs : reply.status = .ok
  · rw [if_pos hs]
    exact asAnswer_eq_error_iff hs rfl
  · rw [if_neg hs]
    by_cases hn : reply.status = .notFound
    · rw [if_pos hn]
      exact iff_of_false nofun (not_fails_of_excuses hn)
    · have hr : (Route.apps group).Refuses reply.status := ⟨hs, hn⟩
      rw [if_neg hn]
      exact error_asRefusal_iff hr

/-- An export ends with the failure of its request, or with what is wrong about the file name. -/
theorem exported_eq_error_iff (group app : String) (number : Nat) :
    Transport.meaning (Reply.exported number) answer = .error e
      ↔ (Route.exportApp group app).Fails answer e
        ∨ ∃ reply, answer = .ok reply ∧ reply.status = .ok
          ∧ Client.announcedFilename reply.headers = .error e := by
  cases answer with
  | error cause =>
      constructor
      · intro he
        cases he
        exact .inl (.unanswered cause)
      · rintro (hfails | ⟨reply, heq, -⟩)
        · cases hfails
          rfl
        · cases heq
  | ok reply =>
      rw [Transport.meaning, Reply.exported]
      by_cases hs : reply.status = .ok
      · have hno : ¬(Route.exportApp group app).Fails (.ok reply) e := not_fails_of_unread hs rfl
        rw [if_pos hs, or_iff_right hno]
        cases hn : Client.announcedFilename reply.headers <;> simp [hn, hs, Except.map]
      · have hr : (Route.exportApp group app).Refuses reply.status := ⟨hs, id⟩
        rw [if_neg hs, or_iff_left]
        · exact error_asRefusal_iff hr
        · rintro ⟨reply', heq, hs', -⟩
          cases heq
          exact hs hs'

end Route

namespace Client

open Operation (outcome outcome_bind)

/-- A request without content. -/
def getting (route : Route) : Request := ⟨.get, route.path, .none⟩

/-- A request with content. -/
def posting (route : Route) (content : Content) : Request := ⟨.post, route.path, content⟩

variable (transport : Transport σ) (x : Exchange σ)

theorem kind_of_announcedFilename {headers : Headers} {e : ClientError}
    (h : announcedFilename headers = .error e) : e.kind = .domain := by
  rw [announcedFilename] at h
  split at h
  · cases h
    rfl
  · split at h
    · cases h
    · cases h
      rfl

theorem settles_ofReply {next : Response → Operation σ α} {take : Body → Except ClientError α}
    (route : Route) (h : Settles next fun reply => take reply.body) :
    Settles (fun response =>
        if response.status = route.success then next response
        else refuse response.body (route.refusal response.status))
      (route.ofReply take) :=
  h.ite route.success (settles_refuse route.refusal)

theorem outcome_authenticate_of_fault {login : Login} {fault : PayloadFault}
    (h : login.payload.encode = .error fault) :
    outcome (authenticate transport login) x = (.error (.serialization fault), x) := by
  rw [authenticate, h]
  rfl

theorem outcome_authenticate {login : Login} {body : Bytes}
    (h : login.payload.encode = .ok body) :
    let request := posting (.login login.provider) (loginContent body)
    outcome (authenticate transport login) x
      = (Transport.meaning ((Route.login login.provider).ofReply (Body.asAnswer Session.read))
          (transport request x.service).1, x.turn transport request) := by
  rw [authenticate, h]
  exact (settles_ofReply (.login login.provider) (settles_readAnswer Session.read)).outcome
    .post _ _ x

/-- What an export is answered with, if it comes to an archive. -/
theorem exported_eq_ok {number : Nat} {answer : Answer} {exported : ExportedApp}
    (h : Transport.meaning (Reply.exported number) answer = .ok exported) :
    ∃ reply filename, answer = .ok reply ∧ reply.status = .ok ∧
      announcedFilename reply.headers = .ok filename ∧
      exported = ⟨filename, ⟨number, reply.body⟩⟩ := by
  cases answer with
  | error e => cases h
  | ok reply =>
      rw [Transport.meaning, Reply.exported] at h
      split at h
      next hstatus =>
          cases hname : announcedFilename reply.headers with
          | error e =>
              rw [hname] at h
              cases h
          | ok filename =>
              rw [hname] at h
              cases h
              exact ⟨reply, filename, rfl, hstatus, hname, rfl⟩
      next => cases h

theorem outcome_exportApp (group app : String) :
    outcome (exportApp transport group app) x
      = match Transport.meaning (Reply.exported x.handed)
            (transport (getting (.exportApp group app)) x.service).1 with
        | .ok exported => (.ok exported, x.asked transport (getting (.exportApp group app)))
        | .error e => (.error e, x.turn transport (getting (.exportApp group app))) := by
  rw [exportApp, outcome_bind, outcome_send, Exchange.turn, ← getting]
  cases (transport (getting (.exportApp group app)) x.service).1 with
  | error e => rfl
  | ok reply =>
      simp only [Transport.meaning, Reply.exported, Reply.opened]
      by_cases hs : reply.status = .ok
      · rw [if_pos hs, if_pos hs]
        cases announcedFilename reply.headers with
        | ok filename => rfl
        | error e => rfl
      · rw [if_neg hs, if_neg hs, outcome_refuse]

theorem outcome_importApp (group app : String) (archive : Bytes) (strategy : String) :
    let route := Route.importApp group app strategy false
    let request := posting route (Content.none.withBody archive)
    outcome (importApp transport group app archive strategy) x
      = (Transport.meaning (route.ofReply fun _ => .ok ()) (transport request x.service).1,
        x.turn transport request) :=
  (settles_ofReply (.importApp group app strategy false) (settles_close ())).outcome .post _ _ x

theorem outcome_diff (group app : String) (archive : Bytes) (strategy : String) :
    let route := Route.importApp group app strategy true
    let request := posting route (Content.none.withBody archive)
    outcome (diff transport group app archive strategy) x
      = (Transport.meaning (route.ofReply (Body.asAnswer (Json.list Json.text)))
          (transport request x.service).1, x.turn transport request) :=
  (settles_ofReply (.importApp group app strategy true)
    (settles_readAnswer (Json.list Json.text))).outcome .post _ _ x

theorem outcome_fetchProfile :
    outcome (fetchProfile transport) x
      = (Transport.meaning (Route.profile.ofReply (Body.asAnswer Profile.read))
          (transport (getting .profile) x.service).1, x.turn transport (getting .profile)) :=
  (settles_ofReply .profile (settles_readAnswer Profile.read)).outcome .get _ _ x

theorem outcome_fetchApps (group : String) :
    outcome (fetchApps transport group) x
      = (Transport.meaning Reply.apps (transport (getting (.apps group)) x.service).1,
        x.turn transport (getting (.apps group))) :=
  ((settles_readAnswer (Json.list App.read)).ite .ok
    ((settles_close []).ite .notFound (settles_refuse fun _ => .service))).outcome .get _ _ x

end Client

end AppAdmin
