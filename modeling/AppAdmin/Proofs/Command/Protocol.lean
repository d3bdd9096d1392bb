import AppAdmin.Proofs.Command.Actions

/-!
The order in which a run sends its requests. Nothing is sent before everything is at hand that a
login needs. The login comes first; if it opens a session, the app is looked for under the token of
that session, and at most one more request follows, which is about the app that was found.
-/

namespace AppAdmin.Command

open Client (Answers Search getting posting listings)

variable {ν : Type}

/-- The request that a task makes for the app that was found. -/
def Invocation.request? (i : Invocation) (app : App) (archive : Bytes) : Option Request :=
  match i.task with
  | .findApp => none
  | .exportApp => some (getting (.exportApp app.groupId app.id))
  | .importApp => some (posting (.importApp app.groupId app.id i.strategy false)
    (Content.none.withBody archive))
  | .diff => some (posting (.importApp app.groupId app.id i.strategy true)
    (Content.none.withBody archive))

/-- The request for a session. -/
def loginRequest (username apiKey : String) : Request :=
  posting (.login Credential.apiKeyProvider)
    (Client.loginContent (Text.Utf8.encode (Credential.apiKey username apiKey).toJson.compact))

/-- What must be at hand before anything is sent: settings that load and describe a connection, and
both parts of a credential. -/
structure Ready (platform : Settings.Platform) (disk : Disk) (env : Settings.Environment)
    (i : Invocation) (connection : Connection) (login : Request) : Prop where
  settings : ∃ settings, Settings.load platform disk env i.config = .ok settings
    ∧ Connection.ofSettings settings = .ok connection
  credential : ∃ username apiKey, i.username = some username ∧ i.apiKey = some apiKey
    ∧ login = loginRequest username apiKey

/-- The requests that ask for the profile and then for the apps of some groups. -/
def searchRequests (asked : List String) : List Request :=
  getting .profile :: asked.map fun group => getting (.apps group)

/-- How the search for an app ends: without a profile, or as the answers for its groups tell. -/
inductive Seeks {σ : Type} (transport : Transport σ) (clientAppId : String) (service : σ) :
    List String → Except ClientError App → Prop
  | failed {e : ClientError}
      (fails : Route.profile.Fails (transport (getting .profile) service).1 e) :
      Seeks transport clientAppId service [] (.error e)
  | searched {profile : Profile} {asked : List String} {result : Except ClientError App}
      (answers : Answers Profile.read (transport (getting .profile) service).1 profile)
      (search : Search clientAppId
        (listings transport profile.groupIds (transport (getting .profile) service).2) asked
        result) :
      Seeks transport clientAppId service asked result

section Errand

variable {σ : Type} {transport : Transport σ} {service : σ} {i : Invocation} {disk : Disk}
  {requests : List Request}

end Errand

section Search

variable {σ : Type} (transport : Transport σ)

theorem fetchApp_seeks (clientAppId : String) (x : Exchange σ) :
    let ended := Operation.outcome (Client.fetchApp transport clientAppId) x
    ∃ asked, x.Sends transport (searchRequests asked) ended.2
      ∧ Seeks transport clientAppId x.service asked ended.1 := by
  intro ended
  have hturn := Exchange.sends_turn transport (getting .profile) x
  rcases Client.profile_answers_or_fails (transport (getting .profile) x.service).1 with
    ⟨profile, hprofile⟩ | ⟨e, hfails⟩
  · have hended : ended = _ := Client.fetchApp_of_answers transport clientAppId x hprofile
    obtain ⟨asked, hsends, hsearch⟩ := Client.searchGroups_search transport clientAppId
      profile.groupIds (x.turn transport (getting .profile))
    rw [Exchange.service_turn] at hsearch
    rw [hended]
    exact ⟨asked, hturn.trans hsends, .searched hprofile hsearch⟩
  · have hended : ended = _ := Client.fetchApp_of_fails transport clientAppId x hfails
    rw [hended]
    exact ⟨[], hturn, .failed hfails⟩

end Search

namespace Action

variable (transport : Transport (Line ν)) (i : Invocation) (p : Progress ν)

variable {transport i p}

/-- A session is opened by a login, and that only if all is at hand for it. -/
theorem outcome_connect (platform : Settings.Platform) (network : Network ν)
    (env : Settings.Environment) (i : Invocation) (p : Progress ν) :
    (∃ failure, outcome (connect platform network env i) p = (.error failure, p))
      ∨ ∃ connection username apiKey,
        Ready platform p.disk env i connection (loginRequest username apiKey)
          ∧ outcome (connect platform network env i) p
            = outcome (operate (Client.authenticate (connection.transport network)
                (Credential.apiKey username apiKey).login)
              >>= fun session => pure (connection.withToken session.accessToken)) p := by
  rw [connect, outcome_get_bind, outcome_ofExcept_bind]
  cases hsettings : Settings.load platform p.disk env i.config with
  | error e => exact .inl ⟨_, rfl⟩
  | ok settings =>
      simp only [outcome_ofExcept_bind]
      cases husername : i.username with
      | none => exact .inl ⟨_, rfl⟩
      | some username =>
          simp only [Option.elim_some]
          cases hkey : i.apiKey with
          | none => exact .inl ⟨_, rfl⟩
          | some apiKey =>
              simp only [Option.elim_some]
              cases hconnection : Connection.ofSettings settings with
              | error e => exact .inl ⟨_, rfl⟩
              | ok connection =>
                  refine .inr ⟨connection, username, apiKey, ?_, rfl⟩
                  exact ⟨⟨settings, hsettings, hconnection⟩, username, apiKey, husername, hkey, rfl⟩

/-- The run behind a request that was answered or not. -/
def Progress.turned (transport : Transport (Line ν)) (request : Request) (p : Progress ν) :
    Progress ν :=
  { p with exchange := p.exchange.turn transport request }

/-- A run opens no session, or its login is answered with one in which the rest is done. -/
theorem outcome_connect_bind {α : Type} (platform : Settings.Platform) (network : Network ν)
    (env : Settings.Environment) (i : Invocation) (p : Progress ν) (next : Connection → Action ν α)
    :
    (∃ failure, outcome (connect platform network env i >>= next) p = (.error failure, p))
      ∨ ∃ connection login, Ready platform p.disk env i connection login
        ∧ let heard := connection.transport network login p.exchange.service
          let q := Progress.turned (connection.transport network) login p
          (∀ session, ¬Answers Session.read heard.1 session)
              ∧ (∃ failure,
                outcome (connect platform network env i >>= next) p = (.error failure, q))
            ∨ ∃ session, Answers Session.read heard.1 session
              ∧ outcome (connect platform network env i >>= next) p
                = outcome (next (connection.withToken session.accessToken)) q := by
  rw [outcome_bind]
  rcases outcome_connect platform network env i p with
    ⟨failure, hconnect⟩ | ⟨connection, username, apiKey, hready, hconnect⟩
  · rw [hconnect]
    exact .inl ⟨failure, rfl⟩
  · refine .inr ⟨connection, loginRequest username apiKey, hready, ?_⟩
    have hended : Operation.outcome (Client.authenticate (connection.transport network)
          (Credential.apiKey username apiKey).login) p.exchange
        = (Transport.meaning ((Route.login Credential.apiKeyProvider).ofReply
              (Body.asAnswer Session.read))
            (connection.transport network (loginRequest username apiKey) p.exchange.service).1,
          p.exchange.turn (connection.transport network) (loginRequest username apiKey)) :=
      Client.outcome_authenticate (connection.transport network) p.exchange rfl
    rw [hconnect, outcome_operate_bind, hended]
    cases hm : Transport.meaning ((Route.login Credential.apiKeyProvider).ofReply
        (Body.asAnswer Session.read))
      ((connection.transport network) (loginRequest username apiKey) p.exchange.service).1 with
    | error e =>
        refine .inl ⟨fun session hsession => ?_, _, rfl⟩
        rw [(Client.answers_iff rfl).mpr hsession] at hm
        cases hm
    | ok session => exact .inr ⟨session, (Client.answers_iff rfl).mp hm, rfl⟩

/-- A run goes on with the app that it finds within its session, or it ends before that. -/
theorem outcome_search_bind {α : Type} (platform : Settings.Platform) (network : Network ν)
    (env : Settings.Environment) (i : Invocation) (p : Progress ν)
    (next : Connection → App → Action ν α) :
    let action := connect platform network env i >>= fun connection =>
      operate (Client.fetchApp (connection.transport network) i.appId) >>= next connection
    (∃ failure x, outcome action p = (.error failure, { p with exchange := x }))
      ∨ ∃ connection login session asked app x, Ready platform p.disk env i connection login
        ∧ let heard := connection.transport network login p.exchange.service
          let inside := (connection.withToken session.accessToken).transport network
          Answers Session.read heard.1 session
            ∧ Seeks inside i.appId heard.2 asked (.ok app)
            ∧ x.service = inside.advance (searchRequests asked) heard.2
            ∧ outcome action p
              = outcome (next (connection.withToken session.accessToken) app)
                  { p with exchange := x } := by
  intro action
  rcases outcome_connect_bind platform network env i p fun connection =>
      operate (Client.fetchApp (connection.transport network) i.appId) >>= next connection with
    ⟨failure, hended⟩ | ⟨connection, login, hready, ⟨-, failure, hended⟩ | ⟨session, hopens, hended⟩⟩
  · exact .inl ⟨failure, p.exchange, hended⟩
  · exact .inl ⟨failure, _, hended⟩
  · set inside := (connection.withToken session.accessToken).transport network
    have hservice : (Progress.turned (connection.transport network) login p).exchange.service
        = (connection.transport network login p.exchange.service).2 :=
      Exchange.service_turn (connection.transport network) login p.exchange
    obtain ⟨asked, hsends, hseeks⟩ := fetchApp_seeks inside i.appId
      (Progress.turned (connection.transport network) login p).exchange
    have hadvance := hsends.service
    rw [hservice] at hadvance hseeks
    rw [outcome_operate_bind] at hended
    cases hfetch : Operation.outcome (Client.fetchApp inside i.appId)
        (Progress.turned (connection.transport network) login p).exchange with
    | mk result x =>
        rw [hfetch] at hended hadvance hseeks
        cases result with
        | error e => exact .inl ⟨_, x, hended⟩
        | ok app =>
            exact .inr ⟨connection, login, session, asked, app, x, hready, hopens, hseeks,
              hadvance, hended⟩

end Action

/-- Where a run begins. -/
def Progress.start (state : ν) (disk : Disk) : Progress ν := ⟨.start ⟨state, []⟩, disk, [], ""⟩

/-- What a run leaves behind when its invocation ends. -/
def Outcome.ofEnd : Except Failure Unit × Progress ν → Outcome ν
  | (.ok (), p) => ⟨0, p.printed, "", p⟩
  | (.error f, p) => ⟨1, p.printed, f.report, p⟩

theorem run_of_read (platform : Settings.Platform) (network : Network ν) (state : ν) (disk : Disk)
    {env : Settings.Environment} {args : List String} {i : Invocation}
    (h : Invocation.read env args = .ok i) :
    run platform network state disk env args
      = .ofEnd (Action.outcome (Action.invoke platform network env i) (.start state disk)) := by
  rw [run, h]
  rfl

end AppAdmin.Command
