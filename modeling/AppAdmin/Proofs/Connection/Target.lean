import AppAdmin.Proofs.Connection.Origin

/-!
The URL of a route. Behind a base URL without query and fragment the route is what the path ends
with; behind any other base URL it lengthens the query or the fragment, and the path stays.
-/

namespace AppAdmin.Connection

open Url

/-- The segments without the empty ones at the end. -/
def keptSegments : Path → List (List Char)
  | .segments list => list.rdropWhile List.isEmpty
  | .text _ => []

/-- The URL of a route, put behind the last part that the base URL has. -/
def appended (base : Url) (route : Route) : Url :=
  match base.fragment, base.query with
  | some f, _ => { base with fragment := some (trimSlashes f ++ route.path.toList) }
  | none, some q => { base with query := some (trimSlashes q ++ route.path.toList) }
  | none, none =>
    { base with
      path := .segments (keptSegments base.path ++ route.segments)
      query := route.query?.map String.toList }

/-! ### Slashes at the end -/

theorem trimSlashes_concat_slash (s : List Char) : trimSlashes (s ++ ['/']) = trimSlashes s :=
  List.rdropWhile_concat_pos _ s '/' rfl

/-- Dropping the slashes at the end of a path drops the empty segments that they end. -/
theorem trimSlashes_toText {segments : List (List Char)}
    (h : ∀ s ∈ segments, Path.Settled s) :
    trimSlashes (Path.segments segments).toText =
      (Path.segments (keptSegments (.segments segments))).toText := by
  induction segments using List.reverseRecOn with
  | nil => rfl
  | append_singleton segments last ih =>
      rw [List.forall_mem_append] at h
      obtain ⟨hsegments, hlast⟩ := h
      have htext : (Path.segments (segments ++ [last])).toText =
          (Path.segments segments).toText ++ '/' :: last := by
        simp [Path.toText]
      obtain rfl | ⟨q, c, rfl⟩ := List.eq_nil_or_concat last
      · rw [htext, trimSlashes_concat_slash, ih hsegments]
        exact congrArg (fun kept => (Path.segments kept).toText)
          (List.rdropWhile_concat_pos _ segments [] rfl).symm
      · rw [List.concat_eq_append] at htext hlast ⊢
        have hc : c ≠ '/' := by
          have hunslashed := (hlast _ List.mem_cons_self).unslashed c (by simp)
          rintro rfl
          exact absurd hunslashed (by decide)
        have hkept : keptSegments (.segments (segments ++ [q ++ [c]])) = segments ++ [q ++ [c]] :=
          List.rdropWhile_concat_neg _ segments (q ++ [c]) (by simp)
        have htrim := trimSlashes_append (p := (Path.segments segments).toText ++ '/' :: q) hc []
        rw [hkept, htext]
        simpa [trimSlashes] using htrim

theorem trimSlashes_markedText {mark : Char} (hmark : mark ≠ '/') (p s : List Char) :
    trimSlashes (p ++ markedText mark (some s)) = p ++ markedText mark (some (trimSlashes s)) :=
  trimSlashes_append hmark s

/-! ### The URL of a route -/

variable {base : Url} {a : Authority} {segments : List (List Char)} {route : Route}

theorem appended_scheme : (appended base route).scheme = base.scheme := by
  unfold appended
  split <;> rfl

/-- What is put behind the text of the base URL is put behind its last part. -/
theorem appended_tailText (h : WebShape base a segments) :
    (appended base route).tailText = trimSlashes base.tailText ++ route.path.toList := by
  unfold appended
  split
  next f hf =>
      rw [tailText, tailText, hf, trimSlashes_markedText (by decide)]
      simp [markedText]
  next q hf hq =>
      have htail : base.tailText = base.path.toText ++ markedText '?' (some q) := by
        simp [tailText, hf, hq, markedText]
      rw [htail, trimSlashes_markedText (by decide)]
      simp [tailText, hf, markedText]
  next hf hq =>
      have htail : base.tailText = (Path.segments segments).toText := by
        simp [tailText, hf, hq, h.path, markedText]
      rw [htail, trimSlashes_toText h.settled, route.path_toList, h.path]
      simp [tailText, hf, markedText, Path.toText]

theorem trimSlashes_subset (s : List Char) : trimSlashes s ⊆ s := (trimSlashes_isPrefix s).subset

theorem appended_webShape (h : WebShape base a segments) (hids : ∀ id ∈ route.ids, IsPlainId id) :
    ∃ segments', WebShape (appended base route) a segments' := by
  have hchars := Route.path_chars hids
  unfold appended
  split
  next f hf =>
      refine ⟨segments, { h with fragment := ?_ }⟩
      rintro _ ⟨⟩
      rw [List.forall_mem_append]
      exact ⟨fun c hc => h.fragment f hf c (trimSlashes_subset f hc),
        fun c hc => (spared_of_isRouteChar (hchars c hc)).2⟩
  next q hf hq =>
      refine ⟨segments, { h with query := ?_ }⟩
      rintro _ ⟨⟩
      rw [List.forall_mem_append]
      exact ⟨fun c hc => h.query q hq c (trimSlashes_subset q hc),
        fun c hc => (spared_of_isRouteChar (hchars c hc)).1⟩
  next hf hq =>
      refine ⟨_, { h with path := rfl, segments_ne_nil := ?_, settled := ?_, query := ?_ }⟩
      · simp [route.segments_ne_nil]
      · rw [List.forall_mem_append]
        refine ⟨?_, Route.segments_settled hids⟩
        rw [h.path]
        exact fun s hs => h.settled s ((List.rdropWhile_prefix _ segments).subset hs)
      · intro q hroute c hc
        obtain ⟨query, hquery, rfl⟩ := Option.map_eq_some_iff.mp hroute
        exact (spared_of_isRouteChar (Route.query_chars hquery c hc)).1

theorem resolve_of_webShape {c : Connection} (h : WebShape c.base a segments)
    (hreread : Url.parse c.base.text = .ok c.base) (hids : ∀ id ∈ route.ids, IsPlainId id) :
    c.resolve route.path = .ok (appended c.base route) := by
  obtain ⟨segments', hshape⟩ := appended_webShape h hids
  have htail := hshape.withTail_tailText
  rw [appended_tailText h, appended_scheme] at htail
  rw [resolve_route h hreread, htail]

/-- Whether a URL asks for a route below the path of a base URL. -/
def Reaches (base u : Url) (route : Route) : Prop :=
  u.path.toText = trimSlashes base.path.toText ++ (Path.segments route.segments).toText ∧
    u.query = route.query?.map String.toList

/-- A path is not lengthened by a route when only slashes are missing at its end. -/
theorem toText_ne_trimmed (s : List Char) (route : Route) :
    s ≠ trimSlashes s ++ (Path.segments route.segments).toText := by
  intro heq
  have hsplit : trimSlashes s ++ s.rtakeWhile (· == '/') = s :=
    List.rdropWhile_append_rtakeWhile
  have htail : s.rtakeWhile (· == '/') = (Path.segments route.segments).toText :=
    List.append_cancel_left (hsplit.trans heq)
  have hletter : 'a' ∈ (Path.segments route.segments).toText := by
    simp [Path.toText, Route.segments]
  rw [← htail] at hletter
  exact absurd (List.mem_rtakeWhile_imp hletter) (by decide)

theorem appended_reaches_iff (h : WebShape base a segments) :
    Reaches base (appended base route) route ↔ base.query = none ∧ base.fragment = none := by
  constructor
  · rintro ⟨hpath, -⟩
    by_contra hparts
    have hkept : (appended base route).path = base.path := by
      unfold appended
      split
      · rfl
      · rfl
      next hf hq => exact absurd ⟨hq, hf⟩ hparts
    rw [hkept] at hpath
    exact toText_ne_trimmed _ route hpath
  · rintro ⟨hq, hf⟩
    have happended : appended base route =
        { base with
          path := .segments (keptSegments base.path ++ route.segments)
          query := route.query?.map String.toList } := by
      rw [appended, hf, hq]
    rw [happended]
    refine ⟨?_, rfl⟩
    rw [h.path, trimSlashes_toText h.settled]
    simp [Path.toText]

/-- A route is put behind the last part of the base URL, which is the path only if neither query nor
fragment follow it. -/
theorem resolve_appends {settings : Settings} {c : Connection}
    (haccepted : settings.url = .ok c.base) (hreread : Url.parse c.base.text = .ok c.base)
    {route : Route} (hids : ∀ id ∈ route.ids, IsPlainId id) :
    c.resolve route.path = .ok (appended c.base route) ∧
      (Reaches c.base (appended c.base route) route ↔
        c.base.query = none ∧ c.base.fragment = none) := by
  obtain ⟨a, segments, hshape⟩ := Settings.url_webShape haccepted
  exact ⟨resolve_of_webShape hshape hreread hids, appended_reaches_iff hshape⟩

/-- A base URL with a host and a path. -/
def baseAt (segments : List String) (query : Option String) : Url :=
  ⟨"http".toList, some (.ofHost (.name "stitch.test".toList)),
    .segments (segments.map String.toList), query.map String.toList, none⟩

theorem resolve_appends_below_path :
    (Settings.mk "http://stitch.test/proxy//" 30 "").url = .ok (baseAt ["proxy", "", ""] none) ∧
    Url.parse (baseAt ["proxy", "", ""] none).text = .ok (baseAt ["proxy", "", ""] none) ∧
    (∀ id ∈ (Route.importApp "g-1" "a_1" "new & old" true).ids, IsPlainId id) ∧
    (plain (baseAt ["proxy", "", ""] none) 30).resolve
        (Route.importApp "g-1" "a_1" "new & old" true).path =
      .ok (appended (baseAt ["proxy", "", ""] none) (.importApp "g-1" "a_1" "new & old" true)) := by
  have haccepted : (Settings.mk "http://stitch.test/proxy//" 30 "").url =
      .ok (baseAt ["proxy", "", ""] none) := eq_ok_of_toOption (by decide +kernel)
  have hreread : Url.parse (baseAt ["proxy", "", ""] none).text =
      .ok (baseAt ["proxy", "", ""] none) := eq_ok_of_toOption (by decide +kernel)
  have hids : ∀ id ∈ (Route.importApp "g-1" "a_1" "new & old" true).ids, IsPlainId id := by
    simp [Route.ids, IsPlainId, isIdChar]
  exact ⟨haccepted, hreread, hids,
    (resolve_appends (c := plain (baseAt ["proxy", "", ""] none) 30) haccepted hreread hids).1⟩

/-- Behind a base URL with a query the route is a part of that query. -/
theorem profile_lost_in_query :
    ¬ ∀ (settings : Settings) (c : Connection) (route : Route), settings.url = .ok c.base →
      (∀ id ∈ route.ids, IsPlainId id) →
        ∃ u, c.resolve route.path = .ok u ∧ Reaches c.base u route := by
  intro h
  have haccepted : (Settings.mk "http://stitch.test/proxy?q=1" 30 "").url =
      .ok (baseAt ["proxy"] (some "q=1")) := eq_ok_of_toOption (by decide +kernel)
  have hresolve : (plain (baseAt ["proxy"] (some "q=1")) 30).resolve Route.profile.path =
      .ok (baseAt ["proxy"] (some "q=1/api/admin/v3.0/auth/profile")) :=
    eq_ok_of_toOption (by decide +kernel)
  obtain ⟨u, hu, -, hquery⟩ :=
    h _ (plain (baseAt ["proxy"] (some "q=1")) 30) .profile haccepted (by simp [Route.ids])
  rw [hresolve] at hu
  obtain rfl := Except.ok.inj hu
  exact absurd hquery (by simp [baseAt, Route.query?])

end AppAdmin.Connection
