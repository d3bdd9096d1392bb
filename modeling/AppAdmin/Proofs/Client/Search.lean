import AppAdmin.Proofs.Client.Operations
import AppAdmin.Proofs.Profile

/-!
The search for an app. The profile names groups, and they are listed one after the other until an
answer is no miss: it holds the app, or it makes the request fail. So the answers alone tell which
groups are asked and how the search ends.
-/

namespace AppAdmin

variable {σ α : Type}

namespace Client

open Operation (outcome outcome_bind)

/-- The answer is a success, and its body is read to the end as a value. -/
def Answers (read : Json.Reader α) (answer : Answer) (value : α) : Prop :=
  ∃ reply bytes, answer = .ok reply ∧ reply.status = .ok ∧ reply.body.read = .ok bytes
    ∧ Json.decodeWith read bytes = .ok value

/-- The group of an answer is not found, or none of its apps is the one that is looked for. -/
def Misses (clientAppId : String) (answer : Answer) : Prop :=
  (∃ reply, answer = .ok reply ∧ reply.status = .notFound)
    ∨ ∃ apps, Answers (Json.list App.read) answer apps ∧ ∀ app ∈ apps, app.clientAppId ≠ clientAppId

/-- The answer lists an app that is the first one looked for. -/
def Holds (clientAppId : String) (answer : Answer) (app : App) : Prop :=
  ∃ before after, Answers (Json.list App.read) answer (before ++ app :: after)
    ∧ app.clientAppId = clientAppId ∧ ∀ other ∈ before, other.clientAppId ≠ clientAppId

/-- Groups with the answers of a transport to requests for their apps, one after the other. -/
def listings (transport : Transport σ) (groups : List String) (service : σ) :
    List (String × Answer) :=
  groups.zip (transport.answers (groups.map fun group => getting (.apps group)) service)

/-- How a search ends that gets the given answers: the groups it asks, and what it comes to. -/
inductive Search (clientAppId : String) :
    List (String × Answer) → List String → Except ClientError App → Prop
  | exhausted : Search clientAppId [] [] (.error (.appNotFound clientAppId))
  | found {group : String} {answer : Answer} {app : App} (rest : List (String × Answer))
      (holds : Holds clientAppId answer app) :
      Search clientAppId ((group, answer) :: rest) [group] (.ok app)
  | failed {group : String} {answer : Answer} {e : ClientError} (rest : List (String × Answer))
      (fails : (Route.apps group).Fails answer e) :
      Search clientAppId ((group, answer) :: rest) [group] (.error e)
  | missed {group : String} {answer : Answer} {rest : List (String × Answer)}
      {asked : List String} {result : Except ClientError App}
      (misses : Misses clientAppId answer) (search : Search clientAppId rest asked result) :
      Search clientAppId ((group, answer) :: rest) (group :: asked) result

/-- The first answer that is no miss has a property, with the groups before its own and its own. -/
def Decides (clientAppId : String) (entries : List (String × Answer))
    (property : List String → String → Answer → Prop) : Prop :=
  ∃ missed group answer rest, entries = missed ++ (group, answer) :: rest
    ∧ (∀ entry ∈ missed, Misses clientAppId entry.2)
    ∧ property (missed.map Prod.fst) group answer

variable {clientAppId : String} {answer : Answer} {app : App} {e : ClientError}

/-! ### What single answers mean -/

theorem Answers.unique {read : Json.Reader α} {value other : α} (h : Answers read answer value)
    (h' : Answers read answer other) : value = other := by
  obtain ⟨reply, bytes, rfl, -, hr, hv⟩ := h
  obtain ⟨reply', bytes', heq, -, hr', hv'⟩ := h'
  cases heq
  cases hr.symm.trans hr'
  exact Except.ok.inj (hv.symm.trans hv')

theorem Answers.exists_and_iff {read : Json.Reader α} {value : α} {p : α → Prop}
    (h : Answers read answer value) : (∃ v, Answers read answer v ∧ p v) ↔ p value := by
  constructor
  · rintro ⟨v, hv, hp⟩
    rw [h.unique hv]
    exact hp
  · exact fun hp => ⟨value, h, hp⟩

theorem meaning_eq_ok_iff {ofReply : Reply → Except ClientError α} {value : α} :
    Transport.meaning ofReply answer = .ok value
      ↔ ∃ reply, answer = .ok reply ∧ ofReply reply = .ok value := by
  cases answer with
  | error e => exact iff_of_false nofun (by rintro ⟨reply, h, -⟩; cases h)
  | ok reply => simp [Transport.meaning]

theorem answers_iff {read : Json.Reader α} {value : α} {route : Route}
    (hs : route.success = .ok) :
    Transport.meaning (route.ofReply (Body.asAnswer read)) answer = .ok value
      ↔ Answers read answer value := by
  rw [meaning_eq_ok_iff]
  constructor
  · rintro ⟨reply, rfl, h⟩
    rw [Route.ofReply, hs] at h
    split at h
    · next hok =>
        obtain ⟨bytes, hr, hv⟩ := Body.asAnswer_eq_ok_iff.mp h
        exact ⟨reply, bytes, rfl, hok, hr, hv⟩
    · cases h
  · rintro ⟨reply, bytes, rfl, hok, hr, hv⟩
    refine ⟨reply, rfl, ?_⟩
    rw [Route.ofReply, hs, if_pos hok]
    exact Body.asAnswer_eq_ok_iff.mpr ⟨bytes, hr, hv⟩

theorem apps_eq_ok_iff {apps : List App} :
    Transport.meaning Reply.apps answer = .ok apps
      ↔ Answers (Json.list App.read) answer apps
        ∨ apps = [] ∧ ∃ reply, answer = .ok reply ∧ reply.status = .notFound := by
  rw [meaning_eq_ok_iff]
  constructor
  · rintro ⟨reply, rfl, h⟩
    rw [Reply.apps] at h
    split at h
    · next hok =>
        obtain ⟨bytes, hr, hv⟩ := Body.asAnswer_eq_ok_iff.mp h
        exact .inl ⟨reply, bytes, rfl, hok, hr, hv⟩
    · split at h
      · next hn => exact .inr ⟨(Except.ok.inj h).symm, reply, rfl, hn⟩
      · cases h
  · rintro (⟨reply, bytes, rfl, hok, hr, hv⟩ | ⟨rfl, reply, rfl, hn⟩)
    · refine ⟨reply, rfl, ?_⟩
      rw [Reply.apps, if_pos hok]
      exact Body.asAnswer_eq_ok_iff.mpr ⟨bytes, hr, hv⟩
    · refine ⟨reply, rfl, ?_⟩
      rw [Reply.apps, hn]
      rfl

theorem misses_iff :
    Misses clientAppId answer
      ↔ ∃ apps, Transport.meaning Reply.apps answer = .ok apps
        ∧ App.find? apps clientAppId = none := by
  simp only [apps_eq_ok_iff, App.find?, List.find?_eq_none, beq_iff_eq]
  constructor
  · rintro (hn | ⟨apps, h, hno⟩)
    · exact ⟨[], .inr ⟨rfl, hn⟩, nofun⟩
    · exact ⟨apps, .inl h, hno⟩
  · rintro ⟨apps, h | ⟨-, hn⟩, hno⟩
    · exact .inr ⟨apps, h, hno⟩
    · exact .inl hn

theorem holds_iff :
    Holds clientAppId answer app
      ↔ ∃ apps, Transport.meaning Reply.apps answer = .ok apps
        ∧ App.find? apps clientAppId = some app := by
  simp only [apps_eq_ok_iff, App.find?, List.find?_eq_some_iff_append, beq_iff_eq]
  constructor
  · rintro ⟨before, after, h, happ, hno⟩
    exact ⟨_, .inl h, happ, before, after, rfl, by simpa using hno⟩
  · rintro ⟨apps, h, happ, before, after, rfl, hno⟩
    rcases h with h | ⟨hnil, -⟩
    · exact ⟨before, after, h, happ, by simpa using hno⟩
    · simp at hnil

/-! ### The search -/

theorem Holds.not_misses (h : Holds clientAppId answer app) : ¬Misses clientAppId answer := by
  rw [misses_iff]
  rintro ⟨apps, hm, hnone⟩
  obtain ⟨apps', hm', hsome⟩ := holds_iff.mp h
  cases hm.symm.trans hm'
  cases hnone.symm.trans hsome

theorem Holds.unique {other : App} (h : Holds clientAppId answer app)
    (h' : Holds clientAppId answer other) : app = other := by
  obtain ⟨apps, hm, hsome⟩ := holds_iff.mp h
  obtain ⟨apps', hm', hsome'⟩ := holds_iff.mp h'
  cases hm.symm.trans hm'
  exact Option.some.inj (hsome.symm.trans hsome')

theorem not_misses_of_fails {group : String} (h : (Route.apps group).Fails answer e) :
    ¬Misses clientAppId answer := by
  rw [misses_iff]
  rintro ⟨apps, hm, -⟩
  cases hm.symm.trans (Route.apps_eq_error_iff group |>.mpr h)

theorem Holds.not_fails {group : String} (h : Holds clientAppId answer app) :
    ¬(Route.apps group).Fails answer e := by
  intro hfails
  obtain ⟨apps, hm, -⟩ := holds_iff.mp h
  cases hm.symm.trans (Route.apps_eq_error_iff group |>.mpr hfails)

theorem not_decides_nil {property : List String → String → Answer → Prop} :
    ¬Decides clientAppId [] property := by
  rintro ⟨missed, group, answer, rest, h, -⟩
  simp at h

theorem decides_cons_iff {group : String} {rest : List (String × Answer)}
    {property : List String → String → Answer → Prop} :
    Decides clientAppId ((group, answer) :: rest) property
      ↔ property [] group answer
        ∨ Misses clientAppId answer
          ∧ Decides clientAppId rest fun before => property (group :: before) := by
  constructor
  · rintro ⟨missed, group', answer', rest', h, hmissed, hp⟩
    cases missed with
    | nil =>
        cases h
        exact .inl hp
    | cons entry missed =>
        obtain ⟨rfl, rfl⟩ := List.cons.inj h
        obtain ⟨hentry, hmissed⟩ := List.forall_mem_cons.mp hmissed
        exact .inr ⟨hentry, missed, group', answer', rest', rfl, hmissed, hp⟩
  · rintro (hp | ⟨hm, missed, group', answer', rest', rfl, hmissed, hp⟩)
    · exact ⟨[], group, answer, rest, rfl, nofun, hp⟩
    · exact ⟨(group, answer) :: missed, group', answer', rest', rfl,
        List.forall_mem_cons.mpr ⟨hm, hmissed⟩, hp⟩

section Search

variable {entries : List (String × Answer)} {asked : List String}
  {result : Except ClientError App}

/-- The groups that are asked are those up to the first answer that is no miss. -/
theorem Search.asked_eq (h : Search clientAppId entries asked result) :
    asked = entries.map Prod.fst ∧ (∀ entry ∈ entries, Misses clientAppId entry.2)
      ∨ Decides clientAppId entries fun before group answer =>
        ((∃ app, Holds clientAppId answer app) ∨ ∃ e, (Route.apps group).Fails answer e)
          ∧ asked = before ++ [group] := by
  induction h with
  | exhausted => exact .inl ⟨rfl, nofun⟩
  | found rest holds => exact .inr (decides_cons_iff.mpr (.inl ⟨.inl ⟨_, holds⟩, rfl⟩))
  | failed rest fails => exact .inr (decides_cons_iff.mpr (.inl ⟨.inr ⟨_, fails⟩, rfl⟩))
  | missed misses search ih =>
      rcases ih with ⟨rfl, hall⟩ | ⟨missed, group', answer', rest', rfl, hmissed, hends, rfl⟩
      · exact .inl ⟨rfl, List.forall_mem_cons.mpr ⟨misses, hall⟩⟩
      · exact .inr (decides_cons_iff.mpr
          (.inr ⟨misses, missed, group', answer', rest', rfl, hmissed, hends, rfl⟩))

theorem Search.asked_isPrefix (h : Search clientAppId entries asked result) :
    asked <+: entries.map Prod.fst := by
  induction h with
  | exhausted => exact List.prefix_rfl
  | found rest holds => exact ⟨_, rfl⟩
  | failed rest fails => exact ⟨_, rfl⟩
  | missed misses search ih => exact List.cons_prefix_cons.mpr ⟨rfl, ih⟩

theorem Search.ok_iff (h : Search clientAppId entries asked result) :
    result = .ok app
      ↔ Decides clientAppId entries fun _ _ answer => Holds clientAppId answer app := by
  induction h with
  | exhausted => exact iff_of_false nofun not_decides_nil
  | found rest holds =>
      rw [decides_cons_iff]
      constructor
      · intro heq
        cases heq
        exact .inl holds
      · rintro (holds' | ⟨misses, -⟩)
        · rw [holds.unique holds']
        · exact absurd misses holds.not_misses
  | failed rest fails =>
      rw [decides_cons_iff]
      refine iff_of_false nofun ?_
      rintro (holds | ⟨misses, -⟩)
      · exact holds.not_fails fails
      · exact not_misses_of_fails fails misses
  | missed misses search ih =>
      rw [decides_cons_iff, ih]
      constructor
      · exact fun hd => .inr ⟨misses, hd⟩
      · rintro (holds | ⟨-, hd⟩)
        · exact absurd misses holds.not_misses
        · exact hd

theorem Search.error_iff (h : Search clientAppId entries asked result)
    (he : e ≠ .appNotFound clientAppId) :
    result = .error e
      ↔ Decides clientAppId entries fun _ group answer => (Route.apps group).Fails answer e := by
  induction h with
  | exhausted => exact iff_of_false (fun h => he (Except.error.inj h).symm) not_decides_nil
  | found rest holds =>
      rw [decides_cons_iff]
      refine iff_of_false nofun ?_
      rintro (fails | ⟨misses, -⟩)
      · exact holds.not_fails fails
      · exact holds.not_misses misses
  | failed rest fails =>
      rw [decides_cons_iff]
      constructor
      · intro heq
        cases heq
        exact .inl fails
      · rintro (fails' | ⟨misses, -⟩)
        · rw [fails.unique fails']
        · exact absurd misses (not_misses_of_fails fails)
  | missed misses search ih =>
      rw [decides_cons_iff, ih]
      constructor
      · exact fun hd => .inr ⟨misses, hd⟩
      · rintro (fails | ⟨-, hd⟩)
        · exact absurd misses (not_misses_of_fails fails)
        · exact hd

theorem Search.appNotFound_iff (h : Search clientAppId entries asked result) :
    result = .error (.appNotFound clientAppId)
      ↔ ∀ entry ∈ entries, Misses clientAppId entry.2 := by
  induction h with
  | exhausted => exact iff_of_true rfl nofun
  | found rest holds =>
      exact iff_of_false nofun fun hall => holds.not_misses (hall _ List.mem_cons_self)
  | failed rest fails =>
      refine iff_of_false (fun heq => ?_) fun hall =>
        not_misses_of_fails fails (hall _ List.mem_cons_self)
      cases heq
      cases fails.isOwn
  | missed misses search ih =>
      rw [ih, List.forall_mem_cons]
      exact (and_iff_right misses).symm

end Search

variable (transport : Transport σ)

theorem map_fst_listings (groups : List String) (service : σ) :
    (listings transport groups service).map Prod.fst = groups := by
  refine List.map_fst_zip (Nat.le_of_eq ?_)
  rw [Transport.length_answers, List.length_map]

/-- **The loop.** Its requests and its result are those of a search through the answers. -/
theorem searchGroups_search (clientAppId : String) (groups : List String) (x : Exchange σ) :
    ∃ asked, x.Sends transport (asked.map fun group => getting (.apps group))
        (outcome (searchGroups transport clientAppId groups) x).2
      ∧ Search clientAppId (listings transport groups x.service) asked
        (outcome (searchGroups transport clientAppId groups) x).1 := by
  induction groups generalizing x with
  | nil => exact ⟨[], .refl x, .exhausted⟩
  | cons group rest ih =>
      have hturn := Exchange.sends_turn transport (getting (.apps group)) x
      rw [searchGroups, outcome_bind, outcome_fetchApps]
      cases hm : Transport.meaning Reply.apps (transport (getting (.apps group)) x.service).1 with
      | error e => exact ⟨[group], hturn, .failed _ ((Route.apps_eq_error_iff group).mp hm)⟩
      | ok apps =>
          cases hf : App.find? apps clientAppId with
          | some app =>
              simp only [hf]
              exact ⟨[group], hturn, .found _ (holds_iff.mpr ⟨apps, hm, hf⟩)⟩
          | none =>
              -- the answers to the other groups come from the state behind this turn
              simp only [hf]
              obtain ⟨asked, hsends, hsearch⟩ := ih (x.turn transport (getting (.apps group)))
              rw [Exchange.service_turn] at hsearch
              exact ⟨group :: asked, hturn.trans hsends,
                .missed (misses_iff.mpr ⟨apps, hm, hf⟩) hsearch⟩

theorem fetchApp_of_fails (clientAppId : String) (x : Exchange σ)
    (h : Route.profile.Fails (transport (getting .profile) x.service).1 e) :
    outcome (fetchApp transport clientAppId) x
      = (.error e, x.turn transport (getting .profile)) := by
  rw [fetchApp, outcome_bind, outcome_fetchProfile,
    (Route.ofReply_asAnswer_eq_error_iff rfl fun _ => id).mpr h]

theorem fetchApp_of_answers (clientAppId : String) (x : Exchange σ) {profile : Profile}
    (h : Answers Profile.read (transport (getting .profile) x.service).1 profile) :
    outcome (fetchApp transport clientAppId) x
      = outcome (searchGroups transport clientAppId profile.groupIds)
          (x.turn transport (getting .profile)) := by
  rw [fetchApp, outcome_bind, outcome_fetchProfile, (answers_iff rfl).mpr h]

theorem Answers.not_fails {profile : Profile} (h : Answers Profile.read answer profile) :
    ¬Route.profile.Fails answer e := by
  intro hfails
  have hm := (Route.ofReply_asAnswer_eq_error_iff rfl fun _ => id).mpr hfails
  cases ((answers_iff rfl).mpr h).symm.trans hm

theorem profile_answers_or_fails (answer : Answer) :
    (∃ profile, Answers Profile.read answer profile) ∨ ∃ e, Route.profile.Fails answer e := by
  cases hm : Transport.meaning (Route.profile.ofReply (Body.asAnswer Profile.read)) answer with
  | ok profile => exact .inl ⟨profile, (answers_iff rfl).mp hm⟩
  | error e => exact .inr ⟨e, (Route.ofReply_asAnswer_eq_error_iff rfl fun _ => id).mp hm⟩

/-- **The search for an app.** The profile comes first. If it is obtained, its groups are asked in
order up to the first answer that is no miss, and that answer decides; if there is none, the app is
not found. -/
theorem fetchApp_refines_search (clientAppId : String) (x : Exchange σ) :
    let heard := transport (getting .profile) x.service
    let behind := fun profile : Profile => listings transport profile.groupIds heard.2
    let ended := outcome (fetchApp transport clientAppId) x
    (∃ asked : List String,
      x.Sends transport (getting .profile :: asked.map fun group => getting (.apps group)) ended.2
        ∧ ((∀ profile, ¬Answers Profile.read heard.1 profile) → asked = [])
        ∧ ∀ profile, Answers Profile.read heard.1 profile →
          asked <+: profile.groupIds ∧ asked.Nodup
          ∧ (asked = profile.groupIds ∧ (∀ entry ∈ behind profile, Misses clientAppId entry.2)
            ∨ Decides clientAppId (behind profile) fun before group answer =>
              ((∃ app, Holds clientAppId answer app) ∨ ∃ e, (Route.apps group).Fails answer e)
                ∧ asked = before ++ [group]))
      ∧ (∀ app, ended.1 = .ok app
        ↔ ∃ profile, Answers Profile.read heard.1 profile
          ∧ Decides clientAppId (behind profile) fun _ _ answer => Holds clientAppId answer app)
      ∧ (ended.1 = .error (.appNotFound clientAppId)
        ↔ ∃ profile, Answers Profile.read heard.1 profile
          ∧ ∀ entry ∈ behind profile, Misses clientAppId entry.2)
      ∧ ∀ e, e ≠ .appNotFound clientAppId →
        (ended.1 = .error e
          ↔ Route.profile.Fails heard.1 e
            ∨ ∃ profile, Answers Profile.read heard.1 profile
              ∧ Decides clientAppId (behind profile) fun _ group answer =>
                (Route.apps group).Fails answer e) := by
  intro heard behind ended
  have hturn := Exchange.sends_turn transport (getting .profile) x
  rcases profile_answers_or_fails heard.1 with ⟨profile, hprofile⟩ | ⟨cause, hfails⟩
  · have hended : ended = _ := fetchApp_of_answers transport clientAppId x hprofile
    obtain ⟨asked, hsends, hsearch⟩ := searchGroups_search transport clientAppId profile.groupIds
      (x.turn transport (getting .profile))
    rw [← hended, Exchange.service_turn] at hsearch
    rw [← hended] at hsends
    have hgroups : (behind profile).map Prod.fst = profile.groupIds := map_fst_listings ..
    have hfront : asked <+: profile.groupIds := hgroups ▸ hsearch.asked_isPrefix
    refine ⟨⟨asked, hturn.trans hsends, fun hno => absurd hprofile (hno profile), ?_⟩, ?_, ?_, ?_⟩
    · intro other hother
      rw [← hprofile.unique hother]
      refine ⟨hfront, profile.nodup_groupIds.sublist hfront.sublist, ?_⟩
      rw [← hgroups]
      exact hsearch.asked_eq
    · intro app
      rw [hprofile.exists_and_iff]
      exact hsearch.ok_iff
    · rw [hprofile.exists_and_iff]
      exact hsearch.appNotFound_iff
    · intro e he
      rw [hprofile.exists_and_iff, or_iff_right hprofile.not_fails]
      exact hsearch.error_iff he
  · have hended : ended = (.error cause, x.turn transport (getting .profile)) :=
      fetchApp_of_fails transport clientAppId x hfails
    have hno : ∀ profile, ¬Answers Profile.read heard.1 profile :=
      fun profile hprofile => hprofile.not_fails hfails
    have hnone : ∀ p : Profile → Prop,
        ¬∃ profile, Answers Profile.read heard.1 profile ∧ p profile :=
      fun p ⟨profile, hprofile, _⟩ => hno profile hprofile
    rw [hended]
    refine ⟨⟨[], hturn, fun _ => rfl, fun profile hprofile => absurd hprofile (hno profile)⟩,
      fun app => iff_of_false nofun (hnone _), iff_of_false (fun heq => ?_) (hnone _), ?_⟩
    · cases heq
      cases hfails.isOwn
    · intro e he
      rw [or_iff_left (hnone _), Except.error.injEq]
      constructor
      · rintro rfl
        exact hfails
      · exact hfails.unique

end Client

end AppAdmin
