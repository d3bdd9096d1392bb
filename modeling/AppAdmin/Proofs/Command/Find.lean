import AppAdmin.Proofs.Command.Protocol
import AppAdmin.Proofs.Json.Models

/-!
What is written in JSON says what it was written for. This goes for all that is told over the line
and for the app that is printed at the end of a search.
-/

namespace AppAdmin.Command

open Client (Answers)
open Json (decodeWith)

variable {ν : Type}

/-- The app that a search finds within the session that the login opens. -/
inductive Finds (platform : Settings.Platform) (network : Network ν) (env : Settings.Environment)
    (i : Invocation) (disk : Disk) (line : Line ν) (app : App) : Prop
  | found {connection : Connection} {login : Request} {session : Session} {asked : List String}
      (ready : Ready platform disk env i connection login)
      (opens : Answers Session.read (connection.transport network login line).1 session)
      (seeks : Seeks ((connection.withToken session.accessToken).transport network) i.appId
        (connection.transport network login line).2 asked (.ok app))

/-- A search that ends well prints the app that it has found, and nothing else. -/
theorem run_prints_app (platform : Settings.Platform) (network : Network ν) (state : ν)
    (disk : Disk) {env : Settings.Environment} {args : List String} {i : Invocation}
    (hread : Invocation.read env args = .ok i) (htask : i.task = .findApp)
    (hcode : (run platform network state disk env args).exitCode = 0) :
    ∃ app, Finds platform network env i disk ⟨state, []⟩ app ∧
      (run platform network state disk env args).output = app.toJson.pretty ++ "\n" := by
  have hinvoke : Action.invoke platform network env i =
      Action.connect platform network env i >>= fun connection =>
      Action.operate (Client.fetchApp (connection.transport network) i.appId) >>= fun app =>
        Action.printLine app.toJson.pretty := by
    simp only [Action.invoke, Action.perform, htask]
  rw [run_of_read platform network state disk hread, hinvoke] at hcode ⊢
  rcases Action.outcome_search_bind platform network env i (.start state disk) fun _ app =>
      Action.printLine app.toJson.pretty with
    ⟨failure, x, hended⟩ |
      ⟨connection, login, session, asked, app, x, hready, hopens, hseeks, -, hended⟩
  · rw [hended] at hcode
    cases hcode
  · rw [hended]
    refine ⟨app, .found hready hopens hseeks, ?_⟩
    have houtput : "" ++ app.toJson.pretty ++ "\n" = app.toJson.pretty ++ "\n" := by
      rw [String.empty_append]
    exact houtput

/-- **What is written is read back.** Every app, role, profile and session is read from the text that
is written for it, and the app that a search finds from what is printed. A login says its two texts
and no more. -/
theorem written_reads_back :
    (∀ app : App, decodeWith App.read (Text.Utf8.encode app.toJson.compact) = .ok app) ∧
    (∀ role : Role, decodeWith Role.read (Text.Utf8.encode role.toJson.compact) = .ok role) ∧
    (∀ profile : Profile,
      decodeWith Profile.read (Text.Utf8.encode profile.toJson.compact) = .ok profile) ∧
    (∀ session : Session,
      decodeWith Session.read (Text.Utf8.encode session.toJson.compact) = .ok session) ∧
    (∀ (ν : Type) (platform : Settings.Platform) (network : Network ν) (state : ν) (disk : Disk)
      (env : Settings.Environment) (args : List String) (i : Invocation),
      Invocation.read env args = .ok i →
      i.task = .findApp → (run platform network state disk env args).exitCode = 0 →
        ∃ app, Finds platform network env i disk ⟨state, []⟩ app ∧
          decodeWith App.read (Text.Utf8.encode (run platform network state disk env args).output)
            = .ok app) ∧
    (∀ username secret, ∃ body,
      (Credential.apiKey username secret).login.payload.encode = .ok body ∧
        Json.Value.decode body
          = .ok (.record [("username", .text username), ("apiKey", .text secret)])) ∧
    ∀ username secret, ∃ body,
      (Credential.password username secret).login.payload.encode = .ok body ∧
        Json.Value.decode body
          = .ok (.record [("username", .text username), ("password", .text secret)]) := by
  refine ⟨fun app => app.readsBack.decode_compact, fun role => role.readsBack.decode_compact,
    fun profile => profile.readsBack.decode_compact,
    fun session => session.readsBack.decode_compact, ?_,
    fun username secret => Credential.decode_login (.apiKey username secret),
    fun username secret => Credential.decode_login (.password username secret)⟩
  intro ν platform network state disk env args i hread htask hcode
  obtain ⟨app, hfinds, houtput⟩ := run_prints_app platform network state disk hread htask hcode
  refine ⟨app, hfinds, ?_⟩
  rw [houtput]
  exact app.readsBack.decode_pretty

end AppAdmin.Command
