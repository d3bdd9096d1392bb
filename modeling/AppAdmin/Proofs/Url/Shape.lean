import AppAdmin.Proofs.Except
import AppAdmin.Proofs.Url.Reading

/-!
The shape of a URL of the web, however it was spelled: its authority is a text without marks, its
path has segments that lead into themselves, and query and fragment are escaped already.
-/

namespace AppAdmin.Url

/-! ### Authorities -/

namespace Authority

theorem isAuthorityChar_of_spared {c : Char} (h : escapedInUserinfo c = false) :
    isAuthorityChar c = true := by
  obtain ⟨hlt, hhash, hquestion, hslash, hback⟩ := of_spared_userinfo h
  exact isAuthorityChar_iff.mpr ⟨hlt, hslash, hquestion, hhash, hback⟩

theorem readUserinfo_text (s : List Char) : AuthorityText (readUserinfo s).1 ∧
    ∀ password, (readUserinfo s).2 = some password → AuthorityText password := by
  have hescaped (t : List Char) : AuthorityText (percentEncode escapedInUserinfo t) := fun c hc =>
    isAuthorityChar_of_spared (escaped_of_mem_percentEncode sparesSigns_userinfo hc)
  unfold readUserinfo
  split
  · refine ⟨hescaped _, ?_⟩
    rintro _ ⟨⟩
    exact hescaped _
  · exact ⟨hescaped _, by simp⟩

theorem cutHost_append (bracketed : Bool) (s : List Char) :
    (cutHost bracketed s).1 ++ (cutHost bracketed s).2 = s := by
  induction s generalizing bracketed with
  | nil => rfl
  | cons c rest ih =>
      rw [cutHost]
      split
      · rfl
      · simp [ih]

/-- A port ends at a backslash or with the authority. -/
theorem readPort_leftover {usual port : Option Nat} {s rest : List Char} (hs : '\\' ∉ s)
    (h : readPort usual s = .ok (port, rest)) : rest = [] := by
  unfold readPort at h
  dsimp only at h
  split at h
  · exact absurd h (by simp)
  split at h
  · exact absurd h (by simp)
  next hend =>
      cases h
      cases hbehind : s.dropWhile Char.isDigit with
      | nil => rfl
      | cons c rest =>
          rw [hbehind, List.head?_cons, Option.getD_some, Decidable.not_not] at hend
          have hc : c ∈ s := List.dropWhile_subset _ (hbehind ▸ List.mem_cons_self)
          exact absurd (hend ▸ hc) hs

/-- What is known of host and leftover once host and port have been read from `s`. -/
theorem readHostPort_text {scheme s rest : List Char} {host : Host} {port : Option Nat}
    (hscheme : IsWeb scheme) (h : readHostPort scheme s = .ok (host, port, rest)) :
    host.text ≠ [] ∧ AuthorityText host.text ∧ ('\\' ∉ s → rest = []) := by
  have husual : (usualPort? scheme).isSome = true := by obtain rfl | rfl := hscheme <;> rfl
  have hsplit := cutHost_append false s
  simp only [readHostPort, husual, if_true] at h
  obtain ⟨host', hhost, h⟩ := exists_of_bind_eq_ok h
  obtain ⟨hne, htext⟩ := Host.authorityText_readSpecial hhost
  split at h
  · cases h
    exact ⟨hne, htext, fun _ => rfl⟩
  next c portText hbehind =>
      split at h
      · cases h
      obtain ⟨⟨port', rest'⟩, hport, h⟩ := exists_of_bind_eq_ok h
      cases h
      refine ⟨hne, htext, fun hs => readPort_leftover (fun hmem => hs ?_) hport⟩
      rw [← hsplit, hbehind]
      exact List.mem_append_right _ (List.mem_cons_of_mem c hmem)

theorem cutLast_subset (mark : Char) (s : List Char) : (cutLast mark s).2 ⊆ s := by
  have hsubset : (s.reverse.takeWhile (· != mark)).reverse ⊆ s := by
    intro c hc
    exact List.mem_reverse.mp (List.takeWhile_subset _ (List.mem_reverse.mp hc))
  unfold cutLast
  dsimp only
  split <;> exact hsubset

theorem text_of_parts {username : List Char} {password : Option (List Char)} {host : Host}
    {port : Option Nat} (husername : AuthorityText username)
    (hpassword : ∀ p, password = some p → AuthorityText p) (hne : host.text ≠ [])
    (hhost : AuthorityText host.text) :
    (⟨username, password, host, port⟩ : Authority).text ≠ [] ∧
      AuthorityText (⟨username, password, host, port⟩ : Authority).text := by
  have huserinfo : AuthorityText (userinfoText ⟨username, password, host, port⟩) := by
    unfold userinfoText
    split
    · refine (husername.append ?_).append (.cons (by decide) .nil)
      split
      next p heq => exact .cons (by decide) (hpassword p heq)
      next => exact .nil
    · exact .nil
  have hport : AuthorityText (portText ⟨username, password, host, port⟩) := by
    unfold portText
    split
    · exact .cons (by decide) (.toDigits (by decide) (by decide) _)
    · exact .nil
  refine ⟨?_, (huserinfo.append hhost).append hport⟩
  simp [text, hne]

theorem read_text {scheme s rest : List Char} {ends : Bool} {a : Authority}
    (hscheme : IsWeb scheme) (h : read scheme s ends = .ok (a, rest)) :
    a.text ≠ [] ∧ AuthorityText a.text ∧ ('\\' ∉ s → rest = []) := by
  have hsubset := cutLast_subset '@' s
  unfold read at h
  split at h
  next t hcut =>
      obtain ⟨⟨host, port, rest'⟩, hread, h⟩ := exists_of_bind_eq_ok h
      cases h
      obtain ⟨hne, hhost, hrest⟩ := readHostPort_text hscheme hread
      have hnone : ∀ p, (none : Option (List Char)) = some p → AuthorityText p := by simp
      obtain ⟨htext, hall⟩ := text_of_parts .nil hnone hne hhost
      rw [hcut] at hsubset
      exact ⟨htext, hall, fun hs => hrest fun hmem => hs (hsubset hmem)⟩
  next userinfo t hcut =>
      dsimp only at h
      split at h
      · cases h
      obtain ⟨⟨host, port, rest'⟩, hread, h⟩ := exists_of_bind_eq_ok h
      dsimp only at h
      split at h
      · cases h
      cases h
      obtain ⟨husername, hpassword⟩ := readUserinfo_text userinfo
      obtain ⟨hne, hhost, hrest⟩ := readHostPort_text hscheme hread
      obtain ⟨htext, hall⟩ := text_of_parts husername hpassword hne hhost
      rw [hcut] at hsubset
      exact ⟨htext, hall, fun hs => hrest fun hmem => hs (hsubset hmem)⟩

end Authority

/-! ### Paths -/

namespace Path

/-- A segment that leads into itself and has no slashes. -/
structure Settled (segment : List Char) : Prop where
  move : Move.of segment = .into segment
  unslashed : ∀ c ∈ segment, isAnySlash c = false

theorem settled_nil : Settled [] := ⟨rfl, by simp⟩

theorem Settled.escaped {segment : List Char} (h : Settled segment) :
    ∀ c ∈ segment, escapedInPath c = false := by
  obtain ⟨-, -, hsegment⟩ := Move.of_eq_into_iff.mp h.move
  intro c hc
  rw [← hsegment] at hc
  exact escaped_of_mem_percentEncode sparesSigns_path hc

theorem settled_of_move {s t : List Char} (hs : ∀ c ∈ s, isAnySlash c = false)
    (h : Move.of s = .into t) : Settled t := by
  refine ⟨Move.of_into h, ?_⟩
  obtain ⟨-, -, rfl⟩ := Move.of_eq_into_iff.mp h
  intro c hc
  obtain ⟨hmem, -⟩ | hsign := mem_percentEncode hc
  · exact hs c hmem
  · have all : ∀ c ∈ escapeSigns, isAnySlash c = false := Text.forall_of_all (by decide)
    exact all c hsign

theorem leave_subset (done : List (List Char)) : leave done ⊆ done := by
  cases done with
  | nil => exact List.Subset.refl _
  | cons last before =>
      rw [leave]
      split
      · exact List.Subset.refl _
      · exact List.subset_cons_self last before

/-- All that segments without slashes lead to is settled. -/
theorem follow_settled {segments done : List (List Char)}
    (hsegments : ∀ s ∈ segments, ∀ c ∈ s, isAnySlash c = false)
    (hdone : ∀ s ∈ done, Settled s) : ∀ s ∈ follow done segments, Settled s := by
  induction segments generalizing done with
  | nil => simpa [follow] using hdone
  | cons segment rest ih =>
      obtain ⟨hsegment, hrest⟩ := List.forall_mem_cons.mp hsegments
      have hleave : ∀ s ∈ leave done, Settled s := fun s hs => hdone s (leave_subset done hs)
      rw [follow]
      refine ih hrest ?_
      split
      · split
        · exact List.forall_mem_cons.mpr ⟨settled_nil, hdone⟩
        · exact hdone
      · split
        · exact List.forall_mem_cons.mpr ⟨settled_nil, hleave⟩
        · exact hleave
      next hmove => exact List.forall_mem_cons.mpr ⟨settled_of_move hsegment hmove, hdone⟩

theorem follow_ne_nil {segments : List (List Char)} (h : segments ≠ [])
    (done : List (List Char)) : follow done segments ≠ [] := by
  induction segments generalizing done with
  | nil => exact absurd rfl h
  | cons segment rest ih =>
      rw [follow]
      by_cases hrest : rest = []
      · -- The last segment always leaves something behind.
        subst hrest
        rw [follow]
        split <;> simp
      · exact ih hrest _

theorem ofText_settled (s : List Char) : ∃ segments, ofText isAnySlash s = .segments segments ∧
    segments ≠ [] ∧ ∀ segment ∈ segments, Settled segment :=
  ⟨_, rfl, follow_ne_nil (pieces_ne_nil _ _) [], follow_settled (fun _ hs _ hc => (mem_pieces hs hc).2) (by simp)⟩

end Path

/-! ### Whole URLs -/

/-- The shape of a URL of the web with a given authority and path. -/
structure WebShape (u : Url) (a : Authority) (segments : List (List Char)) : Prop where
  scheme : IsWeb u.scheme
  authority : u.authority = some a
  text : AuthorityText a.text
  text_ne_nil : a.text ≠ []
  path : u.path = .segments segments
  segments_ne_nil : segments ≠ []
  settled : ∀ segment ∈ segments, Path.Settled segment
  query : ∀ q, u.query = some q → ∀ c ∈ q, escapedInQuery true c = false
  fragment : ∀ f, u.fragment = some f → ∀ c ∈ f, escapedInFragment c = false

theorem exists_webShape {s : List Char} {u : Url} (h : ofChars s = .ok u)
    (hscheme : IsWeb u.scheme) : ∃ a segments, WebShape u a segments := by
  unfold ofChars at h
  split at h
  · cases h
  next scheme rest hcut =>
      dsimp only at h
      obtain ⟨⟨authority, path⟩, hread, h⟩ := exists_of_bind_eq_ok h
      cases h
      replace hscheme : IsWeb scheme := hscheme
      rw [hscheme.readHierarchy] at hread
      obtain ⟨⟨a, pathText⟩, hplace, hread⟩ := exists_of_bind_eq_ok hread
      cases hread
      obtain ⟨⟨a', more⟩, hauthority, heq⟩ := exists_of_bind_eq_ok hplace
      cases heq
      obtain ⟨hne, htext, -⟩ := Authority.read_text hscheme hauthority
      obtain ⟨segments, hpath, hsegments, hsettled⟩ := Path.ofText_settled (more ++ _)
      refine ⟨a, segments, hscheme, rfl, htext, hne, hpath, hsegments, hsettled, ?_, ?_⟩
      · intro q hq c hc
        rw [hscheme.isSpecial] at hq
        obtain ⟨q', -, rfl⟩ := Option.map_eq_some_iff.mp hq
        exact escaped_of_mem_percentEncode sparesSigns_query hc
      · intro f hf c hc
        obtain ⟨f', -, rfl⟩ := Option.map_eq_some_iff.mp hf
        exact escaped_of_mem_percentEncode sparesSigns_fragment hc

/-- The text of a URL behind its authority. -/
def tailText (u : Url) : List Char :=
  u.path.toText ++ markedText '?' u.query ++ markedText '#' u.fragment

namespace WebShape

variable {u : Url} {a : Authority} {segments : List (List Char)}

theorem chars_eq (h : WebShape u a segments) :
    u.chars = u.scheme ++ "://".toList ++ a.text ++ u.tailText := by
  simp [Url.chars, hierarchyText, h.authority, tailText]

theorem exists_tailText (h : WebShape u a segments) : ∃ z, u.tailText = '/' :: z := by
  have hpath := h.path
  cases segments with
  | nil => exact absurd rfl h.segments_ne_nil
  | cons first rest =>
      rw [tailText, hpath, Path.toText, List.flatMap_cons]
      exact ⟨_, rfl⟩

/-- A URL that is read again from its own text has an authority that is, too, and leaves nothing
over. -/
theorem read_authority (h : WebShape u a segments) (hreread : parse u.text = .ok u) :
    Authority.read u.scheme a.text false = .ok (a, []) := by
  obtain ⟨z, hz⟩ := h.exists_tailText
  rw [parse, Url.text, String.toList_ofList] at hreread
  rw [h.chars_eq, hz, ofChars_of_authority h.scheme h.text h.text_ne_nil] at hreread
  cases hread : Authority.read u.scheme a.text false with
  | error e => rw [hread] at hreread; cases hreread
  | ok read =>
      obtain ⟨a', more⟩ := read
      rw [hread] at hreread
      have hu : withTail u.scheme (a', more) ('/' :: z) = u := Except.ok.inj hreread
      have ha : a' = a := Option.some.inj ((congrArg Url.authority hu).trans h.authority)
      obtain ⟨-, -, hmore⟩ := Authority.read_text h.scheme hread
      rw [ha, hmore fun hmem => absurd (h.text _ hmem) (by decide)]

end WebShape

end AppAdmin.Url
