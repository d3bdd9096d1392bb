import AppAdmin.Proofs.Client.Call

/-!
Which response bodies are open. A call takes turns: it sends a request, and closes the body of the
reply before it sends the next one. Only the archive of an export outlives its call, and it does so
unread. So the bodies that calls leave open are the archives they hand over, and nothing else.
-/

namespace AppAdmin

variable {σ : Type}

namespace Event

/-- The body that an event hands out. -/
def opened? : Event → Option Nat
  | .opened body => some body
  | .sent _ | .closed _ => none

/-- The bodies that are open behind an event, if some were open before it. -/
def track (before : List Nat) : Event → List Nat
  | .sent _ => before
  | .opened body => before ++ [body]
  | .closed body => before.erase body

/-- The bodies that events leave open, in the order in which they were handed out. -/
def leftOpen (events : List Event) : List Nat := events.foldl track []

/-- Events of turns that hand out the bodies from `n` up to `m`: each is closed before anything else
is sent, except for the last one, if it is `kept`. -/
inductive Turns : Nat → List Event → Nat → List Nat → Prop
  | done (n : Nat) : Turns n [] n []
  | unanswered {n m : Nat} {events : List Event} {kept : List Nat} (request : Request)
      (rest : Turns n events m kept) : Turns n (.sent request :: events) m kept
  | settled {n m : Nat} {events : List Event} {kept : List Nat} (request : Request)
      (rest : Turns (n + 1) events m kept) :
      Turns n (.sent request :: .opened n :: .closed n :: events) m kept
  | kept (n : Nat) (request : Request) : Turns n [.sent request, .opened n] (n + 1) [n]

section Turns

variable {n m k : Nat} {events more before after : List Event} {kept : List Nat}

theorem Turns.append (h : Turns n events m []) (h' : Turns m more k kept) :
    Turns n (events ++ more) k kept := by
  generalize hnone : ([] : List Nat) = none at h
  induction h with
  | done n => exact h'
  | unanswered request rest ih => exact .unanswered request (ih h' hnone)
  | settled request rest ih => exact .settled request (ih h' hnone)
  | kept n request => cases hnone

theorem Turns.le (h : Turns n events m kept) : n ≤ m := by
  induction h with
  | done n => exact Nat.le_refl n
  | unanswered request rest ih => exact ih
  | settled request rest ih => omega
  | kept n request => omega

theorem Turns.lt_of_mem_kept (h : Turns n events m kept) (hk : k ∈ kept) : k < m := by
  induction h with
  | done n => simp at hk
  | unanswered request rest ih => exact ih hk
  | settled request rest ih => exact ih hk
  | kept n request =>
      rw [List.mem_singleton] at hk
      omega

/-- The bodies are handed out under the numbers that follow. -/
theorem Turns.filterMap_opened? (h : Turns n events m kept) :
    events.filterMap opened? = List.range' n (m - n) := by
  induction h with
  | done n => simp
  | unanswered request rest ih =>
      simp only [List.filterMap_cons, opened?]
      exact ih
  | @settled n m events kept request rest ih =>
      have hm : m - n = m - (n + 1) + 1 := by
        have := rest.le
        omega
      simp only [List.filterMap_cons, opened?]
      rw [ih, hm, List.range'_succ]
  | kept n request =>
      have hm : n + 1 - n = 1 := by omega
      simp only [List.filterMap_cons, List.filterMap_nil, opened?]
      rw [hm, List.range'_one]

theorem erase_append_fresh {bodies : List Nat} (h : ∀ body ∈ bodies, body < n) :
    (bodies ++ [n]).erase n = bodies := by
  have hn : n ∉ bodies := fun hmem => Nat.lt_irrefl n (h n hmem)
  rw [List.erase_append_right _ hn, List.erase_cons_head, List.append_nil]

/-- What turns keep is all that they add to the bodies that were open before. -/
theorem Turns.foldl_track (h : Turns n events m kept) {bodies : List Nat}
    (hb : ∀ body ∈ bodies, body < n) : events.foldl track bodies = bodies ++ kept := by
  induction h with
  | done n => simp
  | unanswered request rest ih => exact ih hb
  | @settled n m events kept request rest ih =>
      have hsettled : track (track (track bodies (.sent request)) (.opened n)) (.closed n)
          = bodies := erase_append_fresh hb
      rw [List.foldl_cons, List.foldl_cons, List.foldl_cons, hsettled]
      exact ih fun body hmem => Nat.lt_succ_of_lt (hb body hmem)
  | kept n request => rfl

theorem Turns.leftOpen (h : Turns n events m kept) : leftOpen events = kept :=
  h.foldl_track nofun

theorem leftOpen_turn (n : Nat) (request : Request) (events : List Event) :
    Event.leftOpen (.sent request :: .opened n :: .closed n :: events) = Event.leftOpen events := by
  simp [Event.leftOpen, track]

theorem getLast?_cons_of_some {e last : Event} (h : events.getLast? = some last) :
    (e :: events).getLast? = some last := by
  rw [List.getLast?_cons, h, Option.getD_some]

/-- At any moment of turns either no body is open, or the one that has just been handed out. -/
theorem Turns.leftOpen_prefix (h : Turns n events m kept) (hp : before <+: events) :
    Event.leftOpen before = []
      ∨ ∃ body, Event.leftOpen before = [body] ∧ before.getLast? = some (.opened body) := by
  induction h generalizing before with
  | done n => exact .inl (by rw [List.prefix_nil.mp hp]; rfl)
  | unanswered request rest ih =>
      cases before with
      | nil => exact .inl rfl
      | cons e before =>
          obtain ⟨rfl, hrest⟩ := List.cons_prefix_cons.mp hp
          rcases ih hrest with hnone | ⟨body, hone, hlast⟩
          · exact .inl hnone
          · exact .inr ⟨body, hone, getLast?_cons_of_some hlast⟩
  | @settled n m events kept request rest ih =>
      -- the first three events are those of the turn, and behind them nothing is open
      match before with
      | [] => exact .inl rfl
      | [e] =>
          obtain ⟨rfl, -⟩ := List.cons_prefix_cons.mp hp
          exact .inl rfl
      | [e₁, e₂] =>
          simp only [List.cons_prefix_cons] at hp
          obtain ⟨rfl, rfl, -⟩ := hp
          exact .inr ⟨n, rfl, rfl⟩
      | e₁ :: e₂ :: e₃ :: before =>
          simp only [List.cons_prefix_cons] at hp
          obtain ⟨rfl, rfl, rfl, hrest⟩ := hp
          rw [leftOpen_turn]
          rcases ih hrest with hnone | ⟨body, hone, hlast⟩
          · exact .inl hnone
          · refine .inr ⟨body, hone, ?_⟩
            exact getLast?_cons_of_some (getLast?_cons_of_some (getLast?_cons_of_some hlast))
  | kept n request =>
      match before with
      | [] => exact .inl rfl
      | [e] =>
          obtain ⟨rfl, -⟩ := List.cons_prefix_cons.mp hp
          exact .inl rfl
      | [e₁, e₂] =>
          simp only [List.cons_prefix_cons] at hp
          obtain ⟨rfl, rfl, -⟩ := hp
          exact .inr ⟨n, rfl, rfl⟩
      | e₁ :: e₂ :: e₃ :: before => simp at hp

theorem Turns.length_leftOpen_le (h : Turns n events m kept) (hp : before <+: events) :
    (Event.leftOpen before).length ≤ 1 := by
  rcases h.leftOpen_prefix hp with hnone | ⟨body, hone, -⟩
  · rw [hnone]
    exact Nat.zero_le 1
  · rw [hone]
    exact Nat.le_refl 1

/-- When a request is sent, no body is open. -/
theorem Turns.leftOpen_of_sent {request : Request} (h : Turns n events m kept)
    (he : events = before ++ .sent request :: after) : Event.leftOpen before = [] := by
  have hsent : Event.leftOpen (before ++ [.sent request]) = Event.leftOpen before := by
    simp [Event.leftOpen, track]
  have hp : before ++ [.sent request] <+: events := ⟨after, by simp [he]⟩
  rw [← hsent]
  rcases h.leftOpen_prefix hp with hnone | ⟨body, -, hlast⟩
  · exact hnone
  · rw [List.getLast?_concat] at hlast
    cases hlast

end Turns

end Event

namespace Exchange

variable {x y z : Exchange σ} {kept : List Nat}

/-- From `x` to `y` turns were taken, and the bodies `kept` are still open. -/
def Takes (x : Exchange σ) (kept : List Nat) (y : Exchange σ) : Prop :=
  ∃ events, y.log = x.log ++ events ∧ Event.Turns x.handed events y.handed kept

theorem Takes.refl (x : Exchange σ) : x.Takes [] x :=
  ⟨[], (List.append_nil _).symm, .done x.handed⟩

theorem Takes.trans (h : x.Takes [] y) (h' : y.Takes kept z) : x.Takes kept z := by
  obtain ⟨events, hlog, hturns⟩ := h
  obtain ⟨more, hlog', hturns'⟩ := h'
  refine ⟨events ++ more, ?_, hturns.append hturns'⟩
  rw [hlog', hlog, List.append_assoc]

variable (transport : Transport σ)

theorem log_asked {request : Request} {reply : Reply}
    (h : (transport request x.service).1 = .ok reply) :
    (x.asked transport request).log = x.log ++ [.sent request, .opened x.handed] := by
  rw [asked]
  split
  · next hanswer =>
      rw [hanswer] at h
      cases h
  · rfl

theorem takes_asked {request : Request} {reply : Reply}
    (h : (transport request x.service).1 = .ok reply) :
    x.Takes [x.handed] (x.asked transport request) := by
  refine ⟨[.sent request, .opened x.handed], log_asked transport h, ?_⟩
  rw [asked]
  split
  · next hanswer =>
      rw [hanswer] at h
      cases h
  · exact .kept x.handed request

theorem takes_turn (request : Request) (x : Exchange σ) :
    x.Takes [] (x.turn transport request) := by
  rw [turn, asked]
  cases transport request x.service with
  | mk answer service =>
      cases answer with
      | error e => exact ⟨[.sent request], rfl, .unanswered request (.done x.handed)⟩
      | ok reply =>
          refine ⟨[.sent request, .opened x.handed, .closed x.handed], ?_, ?_⟩
          · exact List.append_assoc x.log _ _
          · exact .settled request (.done (x.handed + 1))

end Exchange

namespace Client

open Operation (outcome outcome_bind)

variable (transport : Transport σ)

theorem searchGroups_takes (clientAppId : String) (groups : List String) (x : Exchange σ) :
    x.Takes [] (outcome (searchGroups transport clientAppId groups) x).2 := by
  induction groups generalizing x with
  | nil => exact .refl x
  | cons group rest ih =>
      have hturn := Exchange.takes_turn transport (getting (.apps group)) x
      rw [searchGroups, outcome_bind, outcome_fetchApps]
      cases Transport.meaning Reply.apps (transport (getting (.apps group)) x.service).1 with
      | error e => exact hturn
      | ok apps =>
          cases hf : App.find? apps clientAppId with
          | some app =>
              simp only [hf]
              exact hturn
          | none =>
              simp only [hf]
              exact hturn.trans (ih _)

theorem fetchApp_takes (clientAppId : String) (x : Exchange σ) :
    x.Takes [] (outcome (fetchApp transport clientAppId) x).2 := by
  have hturn := Exchange.takes_turn transport (getting .profile) x
  rcases profile_answers_or_fails (transport (getting .profile) x.service).1 with
    ⟨profile, hprofile⟩ | ⟨e, hfails⟩
  · rw [fetchApp_of_answers transport clientAppId x hprofile]
    exact hturn.trans (searchGroups_takes transport clientAppId profile.groupIds _)
  · rw [fetchApp_of_fails transport clientAppId x hfails]
    exact hturn

namespace Call

/-- The archive that the result of a call hands over. -/
def archive? : (call : Call) → Except ClientError call.Result → Option OpenBody
  | .exportApp .., .ok exported => some exported.archive
  | _, _ => none

/-- The archives that calls hand over one after the other, and the exchange behind them. -/
def performAll (transport : Transport σ) : List Call → Exchange σ → List OpenBody × Exchange σ
  | [], x => ([], x)
  | call :: rest, x =>
    let ended := outcome (call.perform transport) x
    let more := performAll transport rest ended.2
    ((call.archive? ended.1).toList ++ more.1, more.2)

/-- The events of a call leave no body open but the archive that it hands over. -/
structure Tidy (transport : Transport σ) (x : Exchange σ) (events : List Event)
    (archive : Option OpenBody) (y : Exchange σ) : Prop where
  log : y.log = x.log ++ events
  /-- Each body has a number of its own. -/
  handed : events.filterMap Event.opened? = List.range' x.handed (y.handed - x.handed)
  leftOpen : Event.leftOpen events = (archive.map (·.number)).toList
  /-- The archive is the whole body of the only reply. -/
  unread : ∀ body, archive = some body → ∃ request reply,
    (transport request x.service).1 = .ok reply
      ∧ events = [.sent request, .opened x.handed] ∧ body = ⟨x.handed, reply.body⟩
  /-- Whatever was received is closed before the next request. -/
  closedBefore : ∀ before request after, events = before ++ .sent request :: after →
    Event.leftOpen before = []
  atMostOne : ∀ before, before <+: events → (Event.leftOpen before).length ≤ 1

theorem archive_of_exported {answer : Answer} {number : Nat} {exported : ExportedApp}
    (h : Transport.meaning (Reply.exported number) answer = .ok exported) :
    ∃ reply, answer = .ok reply ∧ exported.archive = ⟨number, reply.body⟩ := by
  obtain ⟨reply, rfl, hreply⟩ := meaning_eq_ok_iff.mp h
  refine ⟨reply, rfl, ?_⟩
  rw [Reply.exported] at hreply
  split at hreply
  · cases hname : announcedFilename reply.headers with
    | error e =>
        rw [hname] at hreply
        cases hreply
    | ok filename =>
        rw [hname] at hreply
        cases hreply
        rfl
  · cases hreply

theorem exportApp_takes (group app : String) (x : Exchange σ) :
    let call := Call.exportApp group app
    let ended := outcome (call.perform transport) x
    x.Takes ((call.archive? ended.1).map (·.number)).toList ended.2 := by
  intro call ended
  have hended : ended = _ := outcome_exportApp transport x group app
  rw [hended]
  split
  · next exported hm =>
      obtain ⟨reply, hreply, harchive⟩ := archive_of_exported hm
      change x.Takes [exported.archive.number] _
      rw [harchive]
      exact Exchange.takes_asked transport hreply
  · exact Exchange.takes_turn transport _ x

/-- A call takes turns, and what they keep open is the archive. -/
theorem perform_takes (call : Call) (x : Exchange σ) :
    let ended := outcome (call.perform transport) x
    x.Takes ((call.archive? ended.1).map (·.number)).toList ended.2 := by
  cases call with
  | authenticate login =>
      change x.Takes [] (outcome (Client.authenticate transport login) x).2
      cases h : login.payload.encode with
      | error fault =>
          rw [outcome_authenticate_of_fault transport x h]
          exact .refl x
      | ok body =>
          rw [outcome_authenticate transport x h]
          exact Exchange.takes_turn transport _ x
  | exportApp group app => exact exportApp_takes transport group app x
  | importApp group app archive strategy =>
      change x.Takes [] (outcome (Client.importApp transport group app archive strategy) x).2
      rw [outcome_importApp]
      exact Exchange.takes_turn transport _ x
  | diff group app archive strategy =>
      change x.Takes [] (outcome (Client.diff transport group app archive strategy) x).2
      rw [outcome_diff]
      exact Exchange.takes_turn transport _ x
  | fetchApp clientAppId => exact fetchApp_takes transport clientAppId x

/-- An archive that is handed over is the body of the only reply, as the transport gave it. -/
theorem perform_unread (call : Call) (x : Exchange σ) {body : OpenBody}
    (h : call.archive? (outcome (call.perform transport) x).1 = some body) :
    ∃ request reply, (transport request x.service).1 = .ok reply
      ∧ (outcome (call.perform transport) x).2 = x.asked transport request
      ∧ body = ⟨x.handed, reply.body⟩ := by
  cases call with
  | exportApp group app =>
      have hended : outcome ((Call.exportApp group app).perform transport) x = _ :=
        outcome_exportApp transport x group app
      rw [hended] at h ⊢
      split at h
      · next exported hm =>
          obtain ⟨reply, hreply, harchive⟩ := archive_of_exported hm
          cases h
          exact ⟨_, reply, hreply, rfl, harchive⟩
      · cases h
  | authenticate | importApp | diff | fetchApp => cases h

theorem perform_tidies (call : Call) (x : Exchange σ) :
    let ended := outcome (call.perform transport) x
    ∃ events, Tidy transport x events (call.archive? ended.1) ended.2 := by
  intro ended
  obtain ⟨events, hlog, hturns⟩ := call.perform_takes transport x
  refine ⟨events, ?_⟩
  exact {
    log := hlog
    handed := hturns.filterMap_opened?
    leftOpen := hturns.leftOpen
    unread := by
      intro body hbody
      obtain ⟨request, reply, hreply, hasked, rfl⟩ := call.perform_unread transport x hbody
      refine ⟨request, reply, hreply, ?_, rfl⟩
      rw [hasked, Exchange.log_asked transport hreply] at hlog
      exact (List.append_cancel_left hlog).symm
    closedBefore := fun _ _ _ he => hturns.leftOpen_of_sent he
    atMostOne := fun _ hp => hturns.length_leftOpen_le hp }

/-- A run of calls adds the archives that it hands over to the bodies that are open, and nothing
else. -/
theorem performAll_track (calls : List Call) (x : Exchange σ) :
    let ended := performAll transport calls x
    ∃ events, ended.2.log = x.log ++ events
      ∧ ∀ bodies : List Nat, (∀ body ∈ bodies, body < x.handed) →
        events.foldl Event.track bodies = bodies ++ ended.1.map (·.number) := by
  induction calls generalizing x with
  | nil => exact ⟨[], (List.append_nil _).symm, fun bodies _ => (List.append_nil bodies).symm⟩
  | cons call rest ih =>
      obtain ⟨events, hlog, hturns⟩ := call.perform_takes transport x
      obtain ⟨more, hmore, htrack⟩ := ih (outcome (call.perform transport) x).2
      refine ⟨events ++ more, ?_, ?_⟩
      · rw [performAll, hmore, hlog, List.append_assoc]
      · intro bodies hbodies
        rw [List.foldl_append, hturns.foldl_track hbodies, htrack, performAll, List.map_append,
          List.append_assoc, Option.toList_map]
        -- neither the earlier bodies nor the new archive have a number that comes later
        intro body hbody
        rcases List.mem_append.mp hbody with hold | hnew
        · exact Nat.lt_of_lt_of_le (hbodies body hold) hturns.le
        · exact hturns.lt_of_mem_kept hnew

/-- **No body leaks.** Calls one after the other leave the archives open that they hand over, and no
other body. Whatever calls came before, the next one closes each body before it sends anything
more, and all of them but an archive. -/
theorem performAll_tidies (transport : Transport σ) (calls : List Call) (x : Exchange σ) :
    let ended := performAll transport calls x
    (∃ events, ended.2.log = x.log ++ events
        ∧ Event.leftOpen events = ended.1.map (·.number))
      ∧ ∀ next : Call,
        let result := outcome (next.perform transport) ended.2
        ∃ events, Tidy transport ended.2 events (next.archive? result.1) result.2 := by
  intro ended
  constructor
  · obtain ⟨events, hlog, htrack⟩ := performAll_track transport calls x
    exact ⟨events, hlog, htrack [] nofun⟩
  · intro next
    exact next.perform_tidies transport ended.2

end Call

end Client

end AppAdmin
