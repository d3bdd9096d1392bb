import AppAdmin.Proofs.Client.Bodies
import Mathlib.Data.Finset.Card

/-!
What calls send. A call decides on each request by the answers to its own earlier ones, and all calls
but a search send the one request that their arguments spell. So nothing is sent again, and nothing is
left over from one call to the next.
-/

namespace AppAdmin

variable {σ τ : Type}

/-! ### Groups -/

namespace Profile

/-- The groups that the roles of a profile name. -/
def groups (profile : Profile) : Finset String :=
  (profile.roles.map Role.groupId).toFinset.erase ""

/-- Each group is listed once. -/
theorem length_groupIds (profile : Profile) : profile.groupIds.length = profile.groups.card := by
  rw [← List.toFinset_card_of_nodup profile.nodup_groupIds]
  congr 1
  ext group
  rw [List.mem_toFinset, profile.lists_groupIds.mem_iff, groups, Finset.mem_erase,
    List.mem_toFinset, List.mem_map]

end Profile

/-! ### Dictation -/

/-- The requests are those that `next` names, each by the answers to the ones before it, and behind
them it names no more. -/
def Dictates (next : List Answer → Option Request) (transport : Transport σ) (sent : List Request)
    (service : σ) : Prop :=
  ∀ i ≤ sent.length, next ((transport.answers sent service).take i) = sent[i]?

section Dictates

variable {next : List Answer → Option Request} {transport : Transport σ} {transport' : Transport τ}
  {request : Request} {sent sent' : List Request} {service : σ} {service' : τ}

theorem dictates_nil (h : next [] = none) : Dictates next transport [] service := by
  intro i _
  rw [Transport.answers, List.take_nil, h, List.getElem?_nil]

theorem dictates_cons_iff :
    Dictates next transport (request :: sent) service
      ↔ next [] = some request
        ∧ Dictates (fun answers => next ((transport request service).1 :: answers)) transport sent
          (transport request service).2 := by
  constructor
  · intro h
    exact ⟨h 0 (Nat.zero_le _), fun i hi => h (i + 1) (Nat.succ_le_succ hi)⟩
  · rintro ⟨hfirst, hrest⟩ i hi
    cases i with
    | zero => exact hfirst
    | succ i => exact hrest i (Nat.le_of_succ_le_succ hi)

theorem dictates_one (h : next [] = some request) (hend : ∀ answer, next [answer] = none) :
    Dictates next transport [request] service :=
  dictates_cons_iff.mpr ⟨h, dictates_nil (hend _)⟩

/-- The answers to the requests are all that matters: who hears the same sends the same. -/
theorem Dictates.eq (h : Dictates next transport sent service)
    (h' : Dictates next transport' sent' service')
    (hanswers : transport'.answers sent service' = transport.answers sent service) :
    sent' = sent := by
  induction sent generalizing next sent' service service' with
  | nil =>
      have hnone := (h 0 (Nat.zero_le _)).symm.trans (h' 0 (Nat.zero_le _))
      cases sent' with
      | nil => rfl
      | cons request' sent' => cases hnone
  | cons request sent ih =>
      obtain ⟨hfirst, hrest⟩ := dictates_cons_iff.mp h
      cases sent' with
      | nil =>
          have hnone := h' 0 (Nat.zero_le _)
          cases hfirst.symm.trans hnone
      | cons request' sent' =>
          obtain ⟨hfirst', hrest'⟩ := dictates_cons_iff.mp h'
          obtain rfl := Option.some.inj (hfirst.symm.trans hfirst')
          obtain ⟨hanswer, hanswers⟩ := List.cons.inj hanswers
          rw [hanswer] at hrest'
          rw [ih hrest hrest' hanswers]

end Dictates

namespace Client

open Operation (outcome)

/-! ### The search -/

/-- The group that a search asks next, if it has heard the answers of some. -/
def nextGroup (clientAppId : String) : List String → List Answer → Option String
  | [], _ => none
  | group :: _, [] => some group
  | _ :: groups, answer :: answers =>
    match Transport.meaning Reply.apps answer with
    | .error _ => none
    | .ok apps => match App.find? apps clientAppId with
      | some _ => none
      | none => nextGroup clientAppId groups answers

theorem Search.nextGroup_eq {clientAppId : String} {entries : List (String × Answer)}
    {asked : List String} {result : Except ClientError App}
    (h : Search clientAppId entries asked result) :
    ∀ i ≤ asked.length, nextGroup clientAppId (entries.map Prod.fst)
      ((entries.map Prod.snd).take i) = asked[i]? := by
  induction h with
  | exhausted => exact fun _ _ => rfl
  | found rest holds =>
      obtain ⟨apps, hm, hf⟩ := holds_iff.mp holds
      intro i hi
      match i with
      | 0 => rfl
      | 1 => simp [nextGroup, hm, hf]
  | failed rest fails =>
      have hm := (Route.apps_eq_error_iff _).mpr fails
      intro i hi
      match i with
      | 0 => rfl
      | 1 => simp [nextGroup, hm]
  | missed misses search ih =>
      obtain ⟨apps, hm, hf⟩ := misses_iff.mp misses
      intro i hi
      cases i with
      | zero => rfl
      | succ i =>
          simp only [List.map_cons, List.take_succ_cons, nextGroup, hm, hf]
          exact ih i (Nat.le_of_succ_le_succ hi)

variable (transport : Transport σ)

theorem map_snd_listings (groups : List String) (service : σ) :
    (listings transport groups service).map Prod.snd
      = transport.answers (groups.map fun group => getting (.apps group)) service := by
  refine List.map_snd_zip (Nat.le_of_eq ?_)
  rw [Transport.length_answers, List.length_map]

theorem searchGroups_dictated (clientAppId : String) (groups : List String) (x : Exchange σ) :
    ∃ asked : List String, asked.length ≤ groups.length
      ∧ x.Sends transport (asked.map fun group => getting (.apps group))
        (outcome (searchGroups transport clientAppId groups) x).2
      ∧ Dictates
        (fun answers => (nextGroup clientAppId groups answers).map fun group =>
          getting (.apps group))
        transport (asked.map fun group => getting (.apps group)) x.service := by
  obtain ⟨asked, hsends, hsearch⟩ := searchGroups_search transport clientAppId groups x
  have hfront := hsearch.asked_isPrefix
  have hnext := hsearch.nextGroup_eq
  rw [map_fst_listings] at hfront hnext
  refine ⟨asked, hfront.length_le, hsends, fun i hi => ?_⟩
  rw [List.length_map] at hi
  -- the groups that are asked have the answers that the search has listed for them
  have hanswers : (transport.answers (asked.map fun group => getting (.apps group))
      x.service).take i = ((listings transport groups x.service).map Prod.snd).take i := by
    rw [← map_snd_listings, ← take_listings hfront, List.map_take, List.take_take,
      Nat.min_eq_left hi]
  rw [hanswers]
  dsimp only
  rw [hnext i hi, List.getElem?_map]

namespace Call

/-! ### The calls -/

/-- The request that a call sends next, if it has heard the answers to some of its own. -/
def next : Call → List Answer → Option Request
  | .authenticate login, [] => match login.payload.encode with
    | .ok body => some (posting (.login login.provider) (loginContent body))
    | .error _ => none
  | .exportApp group app, [] => some (getting (.exportApp group app))
  | .importApp group app archive strategy, [] =>
    some (posting (.importApp group app strategy false) (Content.none.withBody archive))
  | .diff group app archive strategy, [] =>
    some (posting (.importApp group app strategy true) (Content.none.withBody archive))
  | .fetchApp _, [] => some (getting .profile)
  | .fetchApp clientAppId, answer :: answers =>
    match Transport.meaning (Route.profile.ofReply (Body.asAnswer Profile.read)) answer with
    | .error _ => none
    | .ok profile => (nextGroup clientAppId profile.groupIds answers).map fun group =>
      getting (.apps group)
  | _, _ :: _ => none

/-- What a call sends, if the request for a profile would get the given answer. All but a search send
what their arguments say, and a search asks for the apps of at most as many groups as there are in the
profile. -/
def Requests : Call → Answer → List Request → Prop
  | .authenticate login, _, sent => sent = match login.payload.encode with
    | .ok body => [⟨.post, (Route.login login.provider).path,
        ⟨some body, ⟨[⟨"Content-Type", "application/json"⟩]⟩⟩⟩]
    | .error _ => []
  | .exportApp group app, _, sent =>
    sent = [⟨.get, (Route.exportApp group app).path, ⟨none, ⟨[]⟩⟩⟩]
  | .importApp group app archive strategy, _, sent =>
    sent = [⟨.post, (Route.importApp group app strategy false).path, ⟨some archive, ⟨[]⟩⟩⟩]
  | .diff group app archive strategy, _, sent =>
    sent = [⟨.post, (Route.importApp group app strategy true).path, ⟨some archive, ⟨[]⟩⟩⟩]
  | .fetchApp _, answer, sent => ∃ groups : List String,
    sent = ⟨.get, Route.profile.path, ⟨none, ⟨[]⟩⟩⟩
        :: groups.map (fun group => ⟨.get, (Route.apps group).path, ⟨none, ⟨[]⟩⟩⟩)
      ∧ (∀ profile, Answers Profile.read answer profile → groups.length ≤ profile.groups.card)
      ∧ ((∀ profile, ¬Answers Profile.read answer profile) → groups = [])

theorem fetchApp_dictated (clientAppId : String) (x : Exchange σ) :
    ∃ sent, x.Sends transport sent (outcome (Client.fetchApp transport clientAppId) x).2
      ∧ (Call.fetchApp clientAppId).Requests (transport (getting .profile) x.service).1 sent
      ∧ Dictates (Call.fetchApp clientAppId).next transport sent x.service := by
  have hturn := Exchange.sends_turn transport (getting .profile) x
  rcases profile_answers_or_fails (transport (getting .profile) x.service).1 with
    ⟨profile, hprofile⟩ | ⟨e, hfails⟩
  · obtain ⟨asked, hlength, hsends, hdictates⟩ := searchGroups_dictated transport clientAppId
      profile.groupIds (x.turn transport (getting .profile))
    refine ⟨getting .profile :: asked.map fun group => getting (.apps group), ?_, ?_, ?_⟩
    · rw [fetchApp_of_answers transport clientAppId x hprofile]
      exact hturn.trans hsends
    · refine ⟨asked, rfl, fun other hother => ?_, fun hno => absurd hprofile (hno profile)⟩
      rw [← hprofile.unique hother, ← profile.length_groupIds]
      exact hlength
    · have hm : Transport.meaning (Route.profile.ofReply (Body.asAnswer Profile.read)) _ =
          .ok profile := (answers_iff rfl).mpr hprofile
      refine dictates_cons_iff.mpr ⟨rfl, ?_⟩
      rw [Exchange.service_turn] at hdictates
      simp only [next, hm]
      exact hdictates
  · have hno : ∀ profile, ¬Answers Profile.read (transport (getting .profile) x.service).1 profile :=
      fun profile hprofile => hprofile.not_fails hfails
    refine ⟨[getting .profile], ?_, ?_, ?_⟩
    · rw [fetchApp_of_fails transport clientAppId x hfails]
      exact hturn
    · exact ⟨[], rfl, fun profile hprofile => absurd hprofile (hno profile), fun _ => rfl⟩
    · have hm : Transport.meaning (Route.profile.ofReply (Body.asAnswer Profile.read)) _ =
          .error e := (Route.ofReply_asAnswer_eq_error_iff rfl fun _ => id).mpr hfails
      refine dictates_cons_iff.mpr ⟨rfl, dictates_nil ?_⟩
      simp only [next, hm]

theorem perform_dictated (call : Call) (x : Exchange σ) :
    ∃ sent, x.Sends transport sent (outcome (call.perform transport) x).2
      ∧ call.Requests (transport (getting .profile) x.service).1 sent
      ∧ Dictates call.next transport sent x.service := by
  cases call with
  | authenticate login =>
      change ∃ sent, x.Sends transport sent (outcome (Client.authenticate transport login) x).2 ∧ _
      cases h : login.payload.encode with
      | error fault =>
          refine ⟨[], ?_, ?_, dictates_nil ?_⟩
          · rw [outcome_authenticate_of_fault transport x h]
            exact .refl x
          · simp only [Requests, h]
          · simp only [next, h]
      | ok body =>
          refine ⟨[posting (.login login.provider) (loginContent body)], ?_, ?_,
            dictates_one ?_ fun _ => rfl⟩
          · rw [outcome_authenticate transport x h]
            exact Exchange.sends_turn transport _ x
          · simp only [Requests, h]
            rfl
          · simp only [next, h]
  | exportApp group app =>
      refine ⟨[getting (.exportApp group app)], ?_, rfl, dictates_one rfl fun _ => rfl⟩
      exact (concludes_exportApp transport group app x).sends
  | importApp group app archive strategy =>
      refine ⟨[posting (.importApp group app strategy false) (Content.none.withBody archive)], ?_,
        rfl, dictates_one rfl fun _ => rfl⟩
      change x.Sends transport _ (outcome (Client.importApp transport group app archive strategy) x).2
      rw [outcome_importApp]
      exact Exchange.sends_turn transport _ x
  | diff group app archive strategy =>
      refine ⟨[posting (.importApp group app strategy true) (Content.none.withBody archive)], ?_,
        rfl, dictates_one rfl fun _ => rfl⟩
      change x.Sends transport _ (outcome (Client.diff transport group app archive strategy) x).2
      rw [outcome_diff]
      exact Exchange.sends_turn transport _ x
  | fetchApp clientAppId => exact fetchApp_dictated transport clientAppId x

/-- **What is sent does not depend on what comes back.** Whatever calls came before, and however they
were answered, a call sends the requests that its arguments say: one, or in a search one and at most
another for each group of the profile. In any other exchange where its own requests get the same answers
it sends the same. -/
theorem performAll_sends (before : List Call) (call : Call) (x : Exchange σ) :
    let y := (performAll transport before x).2
    ∃ sent, y.Sends transport sent (outcome (call.perform transport) y).2
      ∧ call.Requests (transport (getting .profile) y.service).1 sent
      ∧ ∀ (τ : Type) (transport' : Transport τ) (z : Exchange τ),
        transport'.answers sent z.service = transport.answers sent y.service →
          z.Sends transport' sent (outcome (call.perform transport') z).2 := by
  intro y
  obtain ⟨sent, hsends, hrequests, hdictates⟩ := call.perform_dictated transport y
  refine ⟨sent, hsends, hrequests, fun τ transport' z hanswers => ?_⟩
  obtain ⟨sent', hsends', -, hdictates'⟩ := call.perform_dictated transport' z
  rw [← hdictates.eq hdictates' hanswers]
  exact hsends'

end Call

end Client

end AppAdmin
