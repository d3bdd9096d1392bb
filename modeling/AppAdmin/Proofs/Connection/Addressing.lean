import AppAdmin.Proofs.Connection.Target
import AppAdmin.Proofs.Query
import AppAdmin.Proofs.Url.Paths

/-!
Which app a request is about. Ids are put into the path as they are, so that an id stays one segment
exactly if it holds no mark, spells no escape and is no dot segment. The two directions meet in a
count of bytes: no id adds more bytes to a path than it has, and only a whole one adds as many.
-/

namespace AppAdmin.Connection

open Url
open Text.Utf8 (octets)

/-! ### What a URL is about -/

/-- An operation on one app. -/
inductive Deed
  | exportApp
  | importApp (strategy : String) (dryRun : Bool)

namespace Deed

def route (deed : Deed) (group app : String) : Route :=
  match deed with
  | .exportApp => .exportApp group app
  | .importApp strategy dryRun => .importApp group app strategy dryRun

def name : Deed → List Char
  | .exportApp => "export".toList
  | .importApp .. => "import".toList

def parameters? : Deed → Option (List (String × String))
  | .exportApp => none
  | .importApp strategy dryRun => some (importParameters strategy dryRun)

end Deed

theorem Deed.name_cases (deed : Deed) : deed.name = "export".toList ∨ deed.name = "import".toList := by
  cases deed
  · exact Or.inl rfl
  · exact Or.inr rfl

theorem Deed.name_chars (deed : Deed) : ∀ c ∈ deed.name,
    isAnySlash c = false ∧ (isKept c = true ∧ isPathChar c = true) ∧ 0x20 < c.toNat := by
  obtain h | h := deed.name_cases
  all_goals
    rw [h]
    exact Text.forall_of_all (by decide)

/-- The segments in front of a group. -/
def groupsPath : List (List Char) := ["api", "admin", "v3.0", "groups"].map String.toList

/-- A segment that says an id. -/
def Says (segment : List Char) (id : String) : Prop :=
  percentDecode (octets segment) = Text.Utf8.encode id

/-- A URL that asks, below a base URL, for an operation on the app of a group. -/
structure Addresses (base u : Url) (deed : Deed) (group app : String) : Prop where
  path : ∃ g a, u.path = .segments (keptSegments base.path ++ groupsPath ++
    [g, "apps".toList, a, deed.name]) ∧ Says g group ∧ Says a app
  query : u.query.map formPairs = deed.parameters?

/-- The characters that end a segment or the path, and those that are dropped from a URL. -/
def pathMarks : List Char := ['/', '\\', '?', '#', '\t', '\n', '\r']

/-- An id that stays one segment, and says itself as that segment. -/
structure StaysWhole (id : String) : Prop where
  unmarked : ∀ c ∈ id.toList, c ∉ pathMarks
  undotted : id ≠ "." ∧ id ≠ ".."
  unescaped : percentDecode (Text.Utf8.encode id) = Text.Utf8.encode id

theorem notMem_pathMarks_iff {c : Char} : c ∉ pathMarks ↔
    isAnySlash c = false ∧ isKept c = true ∧ isPathChar c = true := by
  simp [pathMarks, isAnySlash, isKept, isPathChar]
  tauto

/-- What is known of an id that adds all its bytes to the path. -/
theorem StaysWhole.of_gain {id : String} (hmarks : ∀ c ∈ id.toList, c ∉ pathMarks)
    (hgain : Path.gain id.toList = (octets id.toList).length) : StaysWhole id := by
  obtain ⟨hmove, hsays⟩ := Path.of_gain_eq hgain
  obtain ⟨hone, htwo, -⟩ := Path.Move.of_eq_into_iff.mp hmove
  refine ⟨hmarks, ⟨?_, ?_⟩, ?_⟩
  · rintro rfl
    exact hone rfl
  · rintro rfl
    exact htwo rfl
  · exact (percentDecode_octets id.toList).trans hsays

section Whole

variable {id : String} (h : StaysWhole id)

include h

theorem StaysWhole.unescape_eq : unescape id.toList = octets id.toList :=
  (percentDecode_octets id.toList).symm.trans h.unescaped

theorem StaysWhole.move :
    Path.Move.of id.toList = .into (percentEncode escapedInPath id.toList) := by
  have hundotted : Path.undotted id.toList = id.toList := undotted_of_unescape h.unescape_eq
  refine Path.Move.of_eq_into_iff.mpr ⟨?_, ?_, rfl⟩
  · rw [hundotted]
    exact fun heq => h.undotted.1 (String.toList_inj.mp heq)
  · rw [hundotted]
    exact fun heq => h.undotted.2 (String.toList_inj.mp heq)

theorem StaysWhole.says : Says (percentEncode escapedInPath id.toList) id := by
  rw [Says, percentDecode_octets, unescape_percentEncode, h.unescape_eq]
  rfl

theorem StaysWhole.unslashed : ∀ c ∈ id.toList, isAnySlash c = false :=
  fun c hc => (notMem_pathMarks_iff.mp (h.unmarked c hc)).1

theorem StaysWhole.kept : ∀ c ∈ id.toList, isKept c = true ∧ isPathChar c = true :=
  fun c hc => (notMem_pathMarks_iff.mp (h.unmarked c hc)).2

end Whole

/-! ### The path behind a route -/

/-- The text of a route from its group to its query. -/
def core (deed : Deed) (group app : String) : List Char :=
  group.toList ++ '/' :: ("apps".toList ++ '/' :: (app.toList ++ '/' :: deed.name))

theorem Deed.path_toList (deed : Deed) (group app : String) :
    (deed.route group app).path.toList = groupsPath.flatMap ('/' :: ·) ++ '/' ::
      (core deed group app ++ markedText '?' ((deed.route group app).query?.map String.toList)) := by
  rw [Route.path_toList]
  cases deed <;>
    simp [Deed.route, Route.segments, Route.steps, groupsPath, core, Deed.name, List.flatMap_cons]

theorem groupsPath_settled : ∀ s ∈ groupsPath, Path.Settled s := by
  have hmoves : ∀ s ∈ groupsPath, Path.Move.of s = .into s := by decide
  have hunslashed : groupsPath.all (·.all (!isAnySlash ·)) = true := by decide
  intro s hs
  refine ⟨hmoves s hs, fun c hc => ?_⟩
  have hall := List.all_eq_true.mp (List.all_eq_true.mp hunslashed s hs) c hc
  simpa using hall

theorem Deed.name_settled (deed : Deed) : Path.Settled deed.name := by
  refine ⟨?_, fun c hc => (deed.name_chars c hc).1⟩
  obtain h | h := deed.name_cases <;> rw [h] <;> decide

theorem apps_settled : Path.Settled "apps".toList := ⟨by decide, Text.forall_of_all (by decide)⟩

section Resolve

variable {c : Connection} {a : Authority} {segments : List (List Char)}

theorem keptSegments_settled {base : Url} (h : WebShape base a segments) :
    ∀ s ∈ keptSegments base.path, Path.Settled s := by
  rw [h.path]
  exact fun s hs => h.settled s ((List.rdropWhile_prefix _ segments).subset hs)

theorem trimSlashes_tailText {base : Url} (h : WebShape base a segments) (hquery : base.query = none)
    (hfragment : base.fragment = none) :
    trimSlashes base.tailText = (keptSegments base.path).flatMap ('/' :: ·) := by
  have htail : base.tailText = (Path.segments segments).toText := by
    simp [tailText, hfragment, hquery, h.path, markedText]
  rw [htail, trimSlashes_toText h.settled, h.path]
  rfl

/-- What stands behind the last mark in front of the query. -/
theorem tail_kept (deed : Deed) (group app : String) : ∀ c ∈ '/' :: (deed.name ++
    markedText '?' ((deed.route group app).query?.map String.toList)), 0x20 < c.toNat := by
  have hname : ∀ c ∈ '/' :: deed.name, 0x20 < c.toNat :=
    List.forall_mem_cons.mpr ⟨by decide, fun c hc => (deed.name_chars c hc).2.2⟩
  rw [← List.cons_append, List.forall_mem_append]
  refine ⟨hname, fun c hc => ?_⟩
  obtain rfl | ⟨q, hq, hc⟩ := mem_markedText hc
  · decide
  · obtain ⟨query, hroute, rfl⟩ := Option.map_eq_some_iff.mp hq
    exact (of_spared_query (spared_of_isRouteChar (Route.query_chars hroute c hc)).1).1

/-- The URL of a route: what its path is made of, and its query if no mark stands in front of it. -/
theorem resolve_deed (h : WebShape c.base a segments)
    (hreread : Url.parse c.base.text = .ok c.base) (hquery : c.base.query = none)
    (hfragment : c.base.fragment = none) (deed : Deed) (group app : String) :
    ∃ u, c.resolve (deed.route group app).path = .ok u ∧
      u.path = .segments (Path.follow (keptSegments c.base.path ++ groupsPath).reverse
        (pieces isAnySlash (pathPart (core deed group app)))) ∧
      ((∀ ch ∈ core deed group app, isKept ch = true ∧ isPathChar ch = true) →
        u.query = (deed.route group app).query?.map String.toList) := by
  set front := keptSegments c.base.path ++ groupsPath with hfrontdef
  set query := (deed.route group app).query?.map String.toList with hquerydef
  have hfront : ∀ s ∈ front, Path.Settled s :=
    List.forall_mem_append.mpr ⟨keptSegments_settled h, groupsPath_settled⟩
  have hchars : ∀ ch ∈ front.flatMap ('/' :: ·) ++ ['/'],
      isKept ch = true ∧ isPathChar ch = true := by
    rw [List.forall_mem_append]
    refine ⟨fun ch hch => ?_, by simp [isKept, isPathChar]⟩
    obtain ⟨hlt, hhash, hquestion⟩ := Path.toText_chars hfront hch
    exact ⟨keeps_of_not_dropped hlt, by simp [isPathChar, hhash, hquestion]⟩
  -- the text behind the authority, split where only the path can end and where its last mark is
  have htail : trimSlashes c.base.tailText ++ (deed.route group app).path.toList =
      (front.flatMap ('/' :: ·) ++ '/' :: (group.toList ++ '/' :: ("apps".toList ++ '/' ::
        app.toList))) ++ '/' :: (deed.name ++ markedText '?' query) := by
    rw [trimSlashes_tailText h hquery hfragment, Deed.path_toList]
    simp [core, hfrontdef, hquerydef]
  have hsplit : (front.flatMap ('/' :: ·) ++ '/' :: (group.toList ++ '/' :: ("apps".toList ++ '/' ::
        app.toList))) ++ '/' :: (deed.name ++ markedText '?' query) =
      front.flatMap ('/' :: ·) ++ ['/'] ++ core deed group app ++ markedText '?' query := by
    simp [core]
  have hne := List.cons_ne_nil '/' (deed.name ++ markedText '?' query)
  have hend := tail_kept deed group app
  refine ⟨_, resolve_route h hreread _, ?_, ?_⟩
  · rw [htail, withTail_path _ _ _ hne hend, hsplit, pathPart_markedText,
      pathPart_append_of_kept hchars, List.append_assoc, List.singleton_append,
      Path.ofText_settled_append (by simp [hfrontdef, groupsPath]) hfront]
  · intro hcore
    rw [htail]
    refine withTail_query _ _ hne hend hsplit (List.forall_mem_append.mpr ⟨hchars, hcore⟩) ?_
    intro q hq ch hch
    obtain ⟨text, hroute, rfl⟩ := Option.map_eq_some_iff.mp hq
    exact (spared_of_isRouteChar (Route.query_chars hroute ch hch)).1

end Resolve

/-! ### Whole ids and no others -/

variable {deed : Deed} {group app : String}

theorem pieces_core (hgroup : ∀ c ∈ group.toList, isAnySlash c = false)
    (happ : ∀ c ∈ app.toList, isAnySlash c = false) :
    pieces isAnySlash (core deed group app) =
      [group.toList, "apps".toList, app.toList, deed.name] := by
  rw [core, pieces_append hgroup rfl, pieces_append apps_settled.unslashed rfl,
    pieces_append happ rfl, pieces_of_unmarked deed.name_settled.unslashed]

theorem core_kept (hgroup : StaysWhole group) (happ : StaysWhole app) :
    ∀ c ∈ core deed group app, isKept c = true ∧ isPathChar c = true := by
  have hname : ∀ c ∈ deed.name, isKept c = true ∧ isPathChar c = true :=
    fun c hc => (deed.name_chars c hc).2.1
  have hslash : isKept '/' = true ∧ isPathChar '/' = true := by decide
  simp only [core, List.forall_mem_append, List.forall_mem_cons]
  exact ⟨hgroup.kept, hslash, Text.forall_of_all (by decide), hslash, happ.kept, hslash, hname⟩

/-- The path that whole ids are put into. -/
theorem follow_whole (hgroup : StaysWhole group) (happ : StaysWhole app)
    (front : List (List Char)) :
    Path.follow front.reverse (pieces isAnySlash (pathPart (core deed group app))) =
      front ++ [percentEncode escapedInPath group.toList, "apps".toList,
        percentEncode escapedInPath app.toList, deed.name] := by
  have happs := apps_settled.percentEncode_eq
  have hname := deed.name_settled.percentEncode_eq
  have hmoves : ∀ s ∈ [group.toList, "apps".toList, app.toList, deed.name],
      Path.Move.of s = .into (percentEncode escapedInPath s) := by
    simp only [List.forall_mem_cons]
    exact ⟨hgroup.move, by rw [happs, apps_settled.move], happ.move,
      by rw [hname, deed.name_settled.move], by simp⟩
  rw [pathPart_of_kept (core_kept hgroup happ), pieces_core hgroup.unslashed happ.unslashed,
    Path.follow_of_into hmoves, List.reverse_reverse]
  simp only [List.map_cons, List.map_nil, happs, hname]

theorem Deed.query_pairs (deed : Deed) (group app : String) :
    ((deed.route group app).query?.map String.toList).map formPairs = deed.parameters? := by
  cases deed with
  | exportApp => rfl
  | importApp strategy dryRun => exact congrArg some (formPairs_importQuery strategy dryRun)

/-! ### Counting the bytes of a path -/

theorem Says.length_unescape {segment : List Char} {id : String} (h : Says segment id) :
    (unescape segment).length = (octets id.toList).length := by
  rw [Says, percentDecode_octets] at h
  exact congrArg List.length h

theorem length_unescape_name (deed : Deed) :
    (unescape deed.name).length = (octets deed.name).length := by
  obtain h | h := deed.name_cases <;> rw [h] <;> decide

/-- What the core of a route has besides its slashes. -/
theorem bulk_core (deed : Deed) (group app : String) : bulk (core deed group app) =
    bulk group.toList + bulk "apps".toList + bulk app.toList + bulk deed.name := by
  simp only [core, bulk_append, bulk_cons_slash (c := '/') rfl]
  omega

/-- Ids that are found in the path have no byte that the path lacks. -/
theorem whole_of_follow {front : List (List Char)} {g a : List Char}
    (h : Path.follow front.reverse (pieces isAnySlash (pathPart (core deed group app))) =
      front ++ [g, "apps".toList, a, deed.name])
    (hgroup : Says g group) (happ : Says a app) : StaysWhole group ∧ StaysWhole app := by
  have hweight := Path.weight_follow_le front.reverse
    (pieces isAnySlash (pathPart (core deed group app)))
  have hname := length_unescape_name deed
  have happs : (unescape "apps".toList).length = (octets "apps".toList).length := by decide
  rw [h, Path.weight_append, Path.weight_reverse] at hweight
  simp only [Path.weight_cons, show Path.weight [] = 0 from rfl, hgroup.length_unescape,
    happ.length_unescape, hname, happs] at hweight
  have hgain := gains_pieces_le (pathPart (core deed group app))
  have hpath := bulk_pathPart_le (core deed group app)
  have hbulk := bulk_core deed group app
  have hgroupBulk := bulk_le group.toList
  have happsBulk := bulk_le "apps".toList
  have happBulk := bulk_le app.toList
  have hnameBulk := bulk_le deed.name
  -- every bound above is an equation, since the two ends of the chain meet
  have hkept := kept_of_bulk_eq (s := core deed group app) (by omega)
  have hgroupSlash := unslashed_of_bulk_eq (s := group.toList) (by omega)
  have happSlash := unslashed_of_bulk_eq (s := app.toList) (by omega)
  rw [pathPart_of_kept hkept, pieces_core hgroupSlash happSlash] at hweight
  simp only [Path.gains] at hweight
  have hgroupGain := Path.gain_le group.toList
  have happsGain := Path.gain_le "apps".toList
  have happGain := Path.gain_le app.toList
  have hnameGain := Path.gain_le deed.name
  simp only [core, List.forall_mem_append, List.forall_mem_cons] at hkept
  obtain ⟨hgroupKept, -, -, -, happKept, -⟩ := hkept
  exact ⟨.of_gain (fun c hc => notMem_pathMarks_iff.mpr ⟨hgroupSlash c hc, hgroupKept c hc⟩)
      (by omega),
    .of_gain (fun c hc => notMem_pathMarks_iff.mpr ⟨happSlash c hc, happKept c hc⟩) (by omega)⟩

/-! ### The URL of a route -/

theorem Says.unique {segment : List Char} {id id' : String} (h : Says segment id)
    (h' : Says segment id') : id = id' := by
  have hencode : Text.Utf8.encode id = Text.Utf8.encode id' := h.symm.trans h'
  have hdecode := congrArg Text.Utf8.decode? hencode
  rw [Text.Utf8.decode?_encode, Text.Utf8.decode?_encode] at hdecode
  exact Option.some.inj hdecode

theorem Addresses.unique {base u u' : Url} {deed' : Deed} {group' app' : String}
    (h : Addresses base u deed group app) (h' : Addresses base u' deed' group' app')
    (hpath : u.path = u'.path) : group = group' ∧ app = app' := by
  obtain ⟨g, a, hu, hgroup, happ⟩ := h.path
  obtain ⟨g', a', hu', hgroup', happ'⟩ := h'.path
  rw [hu, hu', Path.segments.injEq, List.append_cancel_left_eq] at hpath
  simp only [List.cons.injEq] at hpath
  obtain ⟨rfl, -, rfl, -⟩ := hpath
  exact ⟨hgroup.unique hgroup', happ.unique happ'⟩

/-- Whole ids are all that a route can be about: each of them is one segment of the path, the query
says the parameters, and other ids have another path. No other id is ever found in the URL. -/
theorem resolve_addresses_iff {settings : Settings} {c : Connection}
    (haccepted : settings.url = .ok c.base) (hreread : Url.parse c.base.text = .ok c.base)
    (hquery : c.base.query = none) (hfragment : c.base.fragment = none)
    (deed : Deed) (group app : String) :
    ∃ u, c.resolve (deed.route group app).path = .ok u ∧
      (Addresses c.base u deed group app ↔ StaysWhole group ∧ StaysWhole app) ∧
      (StaysWhole group → StaysWhole app → ∀ deed' group' app' u',
        StaysWhole group' → StaysWhole app' →
        c.resolve (Deed.route deed' group' app').path = .ok u' → u.path = u'.path →
          group = group' ∧ app = app') := by
  obtain ⟨a, segments, hshape⟩ := Settings.url_webShape haccepted
  have haddresses {deed : Deed} {group app : String} {u : Url} (hgroup : StaysWhole group)
      (happ : StaysWhole app) (hu : c.resolve (deed.route group app).path = .ok u) :
      Addresses c.base u deed group app := by
    obtain ⟨v, hv, hpath, hparameters⟩ :=
      resolve_deed hshape hreread hquery hfragment deed group app
    rw [hu] at hv
    obtain rfl := Except.ok.inj hv
    refine ⟨⟨_, _, ?_, hgroup.says, happ.says⟩, ?_⟩
    · rw [hpath, follow_whole hgroup happ]
    · rw [hparameters (core_kept hgroup happ), Deed.query_pairs]
  obtain ⟨u, hu, hpath, -⟩ := resolve_deed hshape hreread hquery hfragment deed group app
  refine ⟨u, hu, ⟨?_, fun h => haddresses h.1 h.2 hu⟩, ?_⟩
  · rintro ⟨⟨g, a, hsegments, hgroup, happ⟩, -⟩
    rw [hpath, Path.segments.injEq] at hsegments
    exact whole_of_follow hsegments hgroup happ
  · intro hgroup happ deed' group' app' u' hgroup' happ' hu' hsame
    exact (haddresses hgroup happ hu).unique (haddresses hgroup' happ' hu') hsame

theorem proxy_accepted :
    (Settings.mk "http://stitch.test/proxy" 30 "").url = .ok (baseAt ["proxy"] none) :=
  eq_ok_of_toOption (by decide +kernel)

theorem staysWhole_unicode : StaysWhole "g%1 é" ∧ StaysWhole "a;%" := by
  have hgroup : ∀ c ∈ "g%1 é".toList, c ∉ pathMarks := Text.forall_of_all (by decide)
  have happ : ∀ c ∈ "a;%".toList, c ∉ pathMarks := Text.forall_of_all (by decide)
  exact ⟨⟨hgroup, by decide, by decide +kernel⟩, ⟨happ, by decide, by decide +kernel⟩⟩

theorem resolve_addresses_below_path :
    (Settings.mk "http://stitch.test/proxy" 30 "").url = .ok (baseAt ["proxy"] none) ∧
    Url.parse (baseAt ["proxy"] none).text = .ok (baseAt ["proxy"] none) ∧
    (baseAt ["proxy"] none).query = none ∧ (baseAt ["proxy"] none).fragment = none ∧
    ∃ u, (plain (baseAt ["proxy"] none) 30).resolve
        (Route.importApp "g%1 é" "a;%" "new & old" true).path = .ok u ∧
      Addresses (baseAt ["proxy"] none) u (.importApp "new & old" true) "g%1 é" "a;%" := by
  have hreread : Url.parse (baseAt ["proxy"] none).text = .ok (baseAt ["proxy"] none) :=
    eq_ok_of_toOption (by decide +kernel)
  obtain ⟨u, hu, haddresses, -⟩ := resolve_addresses_iff (c := plain (baseAt ["proxy"] none) 30)
    proxy_accepted hreread rfl rfl (.importApp "new & old" true) "g%1 é" "a;%"
  exact ⟨proxy_accepted, hreread, rfl, rfl, u, hu, haddresses.mpr staysWhole_unicode⟩

/-- An id with a number sign turns a dry run into another request. -/
theorem dryRun_lost_in_fragment :
    ¬ ∀ (settings : Settings) (c : Connection) (deed : Deed) (group app : String),
      settings.url = .ok c.base → c.base.query = none → c.base.fragment = none →
      group ∉ ["", ".", ".."] → app ∉ ["", ".", ".."] →
        ∃ u, c.resolve (deed.route group app).path = .ok u ∧
          Addresses c.base u deed group app := by
  intro h
  have hresolve : (plain (baseAt ["proxy"] none) 30).resolve
      (Route.importApp "g" "a#" "merge" true).path =
      .ok { baseAt ["proxy", "api", "admin", "v3.0", "groups", "g", "apps", "a"] none with
        fragment := some "/import?strategy=merge&diff=true".toList } :=
    eq_ok_of_toOption (by decide +kernel)
  obtain ⟨u, hu, haddresses⟩ := h _ (plain (baseAt ["proxy"] none) 30) (.importApp "merge" true)
    "g" "a#" proxy_accepted rfl rfl (by decide) (by decide)
  rw [Deed.route, hresolve] at hu
  obtain rfl := Except.ok.inj hu
  cases haddresses.query

end AppAdmin.Connection
