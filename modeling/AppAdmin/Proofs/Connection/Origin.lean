import AppAdmin.Connection
import AppAdmin.Proofs.Route
import AppAdmin.Proofs.Url.Shape

/-!
Where the requests of a connection go. A path is put behind the base URL as a text, but only behind
the slash that ends the authority, so that no path leads away from the host of the base URL.
-/

namespace AppAdmin

open Url

theorem Settings.url_webShape {settings : Settings} {u : Url} (h : settings.url = .ok u) :
    ∃ a segments, WebShape u a segments := by
  unfold Settings.url at h
  split at h
  · cases h
  next v hparse =>
      split at h
      next hscheme =>
          cases h
          exact exists_webShape hparse hscheme
      · cases h

namespace Connection

/-! ### The text of a request's URL -/

theorem trimSlashes_append {p : List Char} {c : Char} (hc : c ≠ '/') (s : List Char) :
    trimSlashes (p ++ c :: s) = p ++ c :: trimSlashes s :=
  rdropWhile_append (by simpa using hc) p s

theorem trimSlashes_isPrefix (s : List Char) : trimSlashes s <+: s :=
  List.rdropWhile_prefix _ s

/-- The trimming stops at the authority at the latest. -/
theorem target_eq {base : Url} {a : Authority} {segments : List (List Char)}
    (h : WebShape base a segments) (path : String) :
    target base path =
      base.scheme ++ "://".toList ++ a.text ++ (trimSlashes base.tailText ++ path.toList) := by
  obtain ⟨q, c, hlast⟩ : ∃ q c, a.text = q ++ [c] :=
    ⟨_, _, (List.dropLast_append_getLast h.text_ne_nil).symm⟩
  have hc : c ≠ '/' := by
    have hchar := h.text c (by rw [hlast]; exact List.mem_append_right q List.mem_cons_self)
    exact (isAuthorityChar_iff.mp hchar).2.1
  have htrim := trimSlashes_append (p := base.scheme ++ "://".toList ++ q) hc base.tailText
  rw [target, h.chars_eq, hlast]
  simp only [List.append_assoc, List.singleton_append] at htrim ⊢
  rw [htrim]
  simp

/-- The text behind the authority begins with a slash, even if nothing of the base URL is left. -/
theorem exists_tail {base : Url} {a : Authority} {segments : List (List Char)}
    (h : WebShape base a segments) (route : Route) :
    ∃ z, trimSlashes base.tailText ++ route.path.toList = '/' :: z := by
  obtain ⟨t, ht⟩ := h.exists_tailText
  obtain ⟨p, hp⟩ := route.exists_path
  have hstart := trimSlashes_isPrefix base.tailText
  cases htrim : trimSlashes base.tailText with
  | nil => exact ⟨p, hp⟩
  | cons c rest =>
      rw [htrim, ht, List.cons_prefix_cons] at hstart
      rw [hstart.1]
      exact ⟨_, rfl⟩

theorem resolve_route {c : Connection} {a : Authority} {segments : List (List Char)}
    (h : WebShape c.base a segments) (hreread : Url.parse c.base.text = .ok c.base)
    (route : Route) :
    c.resolve route.path =
      .ok (withTail c.base.scheme (a, []) (trimSlashes c.base.tailText ++ route.path.toList)) := by
  obtain ⟨z, hz⟩ := exists_tail h route
  have hread : Url.ofChars (target c.base route.path) =
      .ok (withTail c.base.scheme (a, []) ('/' :: z)) := by
    rw [target_eq h, hz, ofChars_of_authority h.scheme h.text h.text_ne_nil,
      h.read_authority hreread]
    rfl
  rw [resolve, hread, hz]

/-! ### Messages -/

/-- A login that is sent apart is the only thing that a URL is sent without. -/
theorem cutLogin_url (u : Url) : (cutLogin u).2 = u ∨ (cutLogin u).2 = u.withoutUserinfo := by
  unfold cutLogin
  split
  · exact Or.inl rfl
  split
  · exact Or.inl rfl
  · dsimp only
    split
    · exact Or.inr rfl
    · exact Or.inl rfl

theorem cutLogin_scheme (u : Url) : (cutLogin u).2.scheme = u.scheme := by
  obtain h | h := cutLogin_url u
  · rw [h]
  · rw [h]
    rfl

theorem cutLogin_door (u : Url) : Message.door (cutLogin u).2 = Message.door u := by
  obtain h | h := cutLogin_url u
  · rw [h]
  · rw [h]
    cases hauthority : u.authority <;> simp [Message.door, withoutUserinfo, hauthority]

/-- The login depends on the authority alone. -/
theorem cutLogin_login {u v : Url} (h : u.authority = v.authority) :
    (cutLogin u).1 = (cutLogin v).1 := by
  unfold cutLogin
  rw [h]
  cases v.authority with
  | none => rfl
  | some a =>
      dsimp only
      cases unescaped? a.username with
      | none => rfl
      | some name =>
          dsimp only
          split <;> rfl

theorem message_eq {c : Connection} {r : Request} {u : Url} {m : Message}
    (hresolve : c.resolve r.path = .ok u) (hmessage : c.message r = .ok m) :
    m.token = c.token ∧ m.url = (cutLogin u).2 ∧ m.login = (cutLogin u).1 := by
  unfold message at hmessage
  rw [hresolve] at hmessage
  obtain ⟨u', hu, hmessage⟩ := exists_of_bind_eq_ok hmessage
  cases hu
  dsimp only at hmessage
  split at hmessage
  · cases hmessage
  split at hmessage
  · cases hmessage
  split at hmessage
  · cases hmessage
  split at hmessage
  · cases hmessage
  cases hmessage
  exact ⟨rfl, rfl, rfl⟩

/-- The origin of a URL decides about the door that it leads to. -/
theorem door_of_origin {u v : Url} (hscheme : u.scheme = v.scheme)
    (hauthority : u.authority = v.authority) : Message.door u = Message.door v := by
  rw [Message.door, Message.door, hscheme, hauthority]

/-- A route leads to the origin of the base URL, whatever its ids are, and so does the message that
carries the token. -/
theorem resolve_keeps_origin {settings : Settings} {c : Connection}
    (haccepted : settings.url = .ok c.base) (hreread : Url.parse c.base.text = .ok c.base)
    (route : Route) :
    (∃ u a, c.resolve route.path = .ok u ∧ u.scheme = c.base.scheme ∧
      c.base.authority = some a ∧ u.authority = some a) ∧
    ∀ request m, request.path = route.path → c.message request = .ok m →
      m.token = c.token ∧ m.login = (cutLogin c.base).1 ∧
      m.url.scheme = c.base.scheme ∧ Message.door m.url = Message.door c.base := by
  obtain ⟨a, segments, hshape⟩ := Settings.url_webShape haccepted
  have hresolve := resolve_route hshape hreread route
  have hauthority := hshape.authority
  refine ⟨⟨_, a, hresolve, rfl, hauthority, rfl⟩, ?_⟩
  intro request m hpath hmessage
  rw [← hpath] at hresolve
  obtain ⟨htoken, hurl, hlogin⟩ := message_eq hresolve hmessage
  refine ⟨htoken, ?_, ?_, ?_⟩
  · rw [hlogin]
    exact cutLogin_login hauthority.symm
  · rw [hurl, cutLogin_scheme]
    rfl
  · rw [hurl, cutLogin_door]
    exact door_of_origin rfl hauthority.symm

/-- A base URL that gives all parts. -/
def fullBase : Url :=
  ⟨"http".toList,
    some ⟨"u".toList, some "p".toList, .ipv6 ⟨[0, 0, 0, 0, 0, 0, 0, 1], rfl⟩, some 8080⟩,
    .segments ["a".toList, []], some "b".toList, some "c/".toList⟩

theorem fullBase_keeps_origin :
    (Settings.mk "http://u:p@[::1]:8080/a/?b#c/" 30 "").url = .ok fullBase ∧
    Url.parse fullBase.text = .ok fullBase ∧
    ∃ u a, (plain fullBase 30).resolve (Route.exportApp "//x@y:80\\.." "?#\n[").path = .ok u ∧
      u.scheme = fullBase.scheme ∧ fullBase.authority = some a ∧ u.authority = some a := by
  have haccepted : (Settings.mk "http://u:p@[::1]:8080/a/?b#c/" 30 "").url = .ok fullBase :=
    eq_ok_of_toOption (by decide +kernel)
  have hreread : Url.parse fullBase.text = .ok fullBase := eq_ok_of_toOption (by decide +kernel)
  exact ⟨haccepted, hreread,
    (resolve_keeps_origin (c := plain fullBase 30) haccepted hreread _).1⟩

end Connection

end AppAdmin
