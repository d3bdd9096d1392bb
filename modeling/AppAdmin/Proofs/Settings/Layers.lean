import AppAdmin.Proofs.Settings.Files
import AppAdmin.Proofs.Settings.Keys

/-!
The layers of the settings. For each field one setting counts: that of its variable, else that of the
file, else the built-in one. The three that count decide what is loaded, and whether it is; all that is
below them, and all that is no field, does not matter.
-/

namespace AppAdmin.Settings

open Text (lowered sameName)

/-- The keys of the fields. -/
def fieldKeys : List String := [urlKey, timeoutKey, userAgentKey]

/-- The variable that holds a setting. -/
def variableName (key : String) : String := variableStart ++ "_" ++ key

/-- The environment has a value for a setting. Case does not count in the name of its variable. -/
def Sets (env : Environment) (key value : String) : Prop :=
  ∃ name, (name, value) ∈ env ∧ sameName name (variableName key) = true

/-- The setting that counts for a key. -/
inductive Wins (env : Environment) (entries : List (String × Tree)) (key : String) : Tree → Prop
  | environment {value : String} (hset : Sets env key value) :
      Wins env entries key (.leaf environmentSource (guess value))
  | file {t : Tree} (hunset : ∀ value, ¬Sets env key value) (hmem : (key, t) ∈ entries) :
      Wins env entries key t
  | builtIn {t : Tree} (hunset : ∀ value, ¬Sets env key value) (hmissing : ∀ t, (key, t) ∉ entries)
      (hmem : (key, t) ∈ builtInEntries) : Wins env entries key t

/-- A file and an environment in which no key leads into another setting, and no two variables have
names that are the same up to case. -/
structure Layered (p : Platform) (d : Disk) (env : Environment) (file : Option String)
    (entries : List (String × Tree)) : Prop where
  read : fileEntries p d env file = .ok entries
  keys : ∀ e ∈ entries, Plain e.1
  names : ∀ v ∈ env, Plain v.1
  different : env.Pairwise fun v w => sameName v.1 w.1 = false

/-- Layers that differ in nothing but what is no field, or lies below the variable of a field. -/
structure Agree (env env' : Environment) (entries entries' : List (String × Tree)) : Prop where
  environment : ∀ key ∈ fieldKeys, ∀ value, Sets env key value ↔ Sets env' key value
  file : ∀ key ∈ fieldKeys, (∀ value, ¬Sets env key value) →
    ∀ t, (key, t) ∈ entries ↔ (key, t) ∈ entries'

/-- The fields are what the settings that count for them are read as. -/
structure Converts (url timeout agent : Tree) (s : Settings) : Prop where
  baseUrl : Field.text urlKey url = .ok s.baseUrl
  timeoutSeconds : Field.number timeoutKey timeout = .ok s.timeoutSeconds
  userAgent : Field.text userAgentKey agent = .ok s.userAgent

/-! ### The environment as a layer -/

/-- The setting that a variable holds, if it holds one. -/
def setting? (v : String × String) : Option (String × Tree) :=
  let start := (lowered variableStart ++ "_").toList
  let name := (lowered v.1).toList
  if start.isPrefixOf name then
    some (String.ofList (name.drop start.length), .leaf environmentSource (guess v.2))
  else none

theorem ofEnvironment_eq (env : Environment) : ofEnvironment env = env.filterMap setting? := rfl

theorem setting?_eq_some_iff {v : String × String} {key : String} {t : Tree} :
    setting? v = some (key, t) ↔
      lowered v.1 = lowered variableStart ++ "_" ++ key ∧
        .leaf environmentSource (guess v.2) = t := by
  have hsplit : (lowered variableStart ++ "_" ++ key).toList
      = (lowered variableStart ++ "_").toList ++ key.toList := String.toList_append
  rw [setting?, ← String.toList_inj, hsplit]
  split
  next hprefix =>
      obtain ⟨rest, hrest⟩ := List.isPrefixOf_iff_prefix.mp hprefix
      rw [← hrest, List.drop_left, List.append_cancel_left_eq, Option.some.injEq, Prod.mk.injEq,
        ← String.toList_inj, String.toList_ofList]
  next hno =>
      refine iff_of_false nofun fun ⟨hname, _⟩ => hno ?_
      rw [List.isPrefixOf_iff_prefix, hname]
      exact List.prefix_append _ _

theorem mem_ofEnvironment_iff {env : Environment} {key : String} {t : Tree} :
    (key, t) ∈ ofEnvironment env ↔ ∃ v ∈ env,
      lowered v.1 = lowered variableStart ++ "_" ++ key ∧
        .leaf environmentSource (guess v.2) = t := by
  rw [ofEnvironment_eq, List.mem_filterMap]
  simp only [setting?_eq_some_iff]

theorem sameName_variableName_iff {name key : String} (hkey : lowered key = key) :
    sameName name (variableName key) = true ↔
      lowered name = lowered variableStart ++ "_" ++ key := by
  rw [Text.sameName_iff, variableName, Text.lowered_append, Text.lowered_append, hkey]
  rfl

/-- Variables whose names are not the same hold different settings. -/
theorem distinct_ofEnvironment {env : Environment}
    (h : env.Pairwise fun v w => sameName v.1 w.1 = false) : Distinct (ofEnvironment env) := by
  rw [Distinct, List.Nodup, List.pairwise_map, ofEnvironment_eq, List.pairwise_filterMap]
  refine h.imp fun {v w} hvw e he e' he' heq => ?_
  have hv := (setting?_eq_some_iff.mp he).1
  have hw := (setting?_eq_some_iff.mp he').1
  rw [Bool.eq_false_iff, ne_eq, Text.sameName_iff] at hvw
  exact hvw (hv.trans (heq ▸ hw.symm))

theorem plain_lowered {name : String} (h : Plain name) : Plain (lowered name) := by
  have hmark {mark : Char} (hmark : ∀ n ∈ List.range 26, (Char.ofNat (0x41 + n)).toLower ≠ mark)
      (hname : mark ∉ name.toList) : mark ∉ (lowered name).toList := by
    rw [lowered, String.toList_ofList]
    intro hmem
    obtain ⟨c, hc, hlower⟩ := List.mem_map.mp hmem
    -- No capital becomes a mark, so it was there before.
    have hsame : c.toLower = mark → c = mark :=
      Text.toLower_cases (P := fun c lower => lower = mark → c = mark) (fun _ => id)
        (fun n hn heq => absurd heq (hmark n hn)) c
    exact hname (hsame hlower ▸ hc)
  exact ⟨hmark (by decide) h.1, hmark (by decide) h.2⟩

theorem plain_of_mem_ofEnvironment {env : Environment} (h : ∀ v ∈ env, Plain v.1) :
    ∀ e ∈ ofEnvironment env, Plain e.1 := by
  rintro ⟨key, t⟩ he
  obtain ⟨v, hv, hname, -⟩ := mem_ofEnvironment_iff.mp he
  have hplain := plain_lowered (h v hv)
  rw [hname] at hplain
  constructor
  · exact fun hmem => hplain.1 (by simp [hmem])
  · exact fun hmem => hplain.2 (by simp [hmem])

/-! ### The setting that counts -/

section Winner

variable {p p' : Platform} {d d' : Disk} {env env' : Environment} {file file' : Option String}
  {entries entries' : List (String × Tree)} {key : String}

theorem lowered_of_mem_fieldKeys (h : key ∈ fieldKeys) : lowered key = key := by
  revert key
  decide

theorem exists_builtIn (h : key ∈ fieldKeys) : ∃ t, (key, t) ∈ builtInEntries := by
  have hkeys : fieldKeys = builtInEntries.map Prod.fst := rfl
  rw [hkeys] at h
  obtain ⟨⟨_, t⟩, hmem, rfl⟩ := List.mem_map.mp h
  exact ⟨t, hmem⟩

theorem distinct_builtInEntries : Distinct builtInEntries := by
  change fieldKeys.Nodup
  decide

/-- What is in the environment as a layer is what its variables set. -/
theorem mem_ofEnvironment_iff_sets (h : lowered key = key) {t : Tree} :
    (key, t) ∈ ofEnvironment env ↔
      ∃ value, Sets env key value ∧ .leaf environmentSource (guess value) = t := by
  rw [mem_ofEnvironment_iff]
  constructor
  · rintro ⟨⟨name, value⟩, hmem, hname, ht⟩
    exact ⟨value, ⟨name, hmem, (sameName_variableName_iff h).mpr hname⟩, ht⟩
  · rintro ⟨value, ⟨name, hmem, hname⟩, ht⟩
    exact ⟨(name, value), hmem, (sameName_variableName_iff h).mp hname, ht⟩

/-- What is found under a key in one of the layers, the upper ones first. -/
def found? (env : Environment) (entries : List (String × Tree)) (key : String) : Option Tree :=
  (Tree.find? key (ofEnvironment env)).or
    ((Tree.find? key entries).or (Tree.find? key builtInEntries))

theorem Layered.found?_eq_some_iff (h : Layered p d env file entries) (hkey : key ∈ fieldKeys)
    {t : Tree} : found? env entries key = some t ↔ Wins env entries key t := by
  have hvariable {t : Tree} : Tree.find? key (ofEnvironment env) = some t ↔
      ∃ value, Sets env key value ∧ .leaf environmentSource (guess value) = t :=
    (Tree.find?_eq_some_iff (distinct_ofEnvironment h.different)).trans
      (mem_ofEnvironment_iff_sets (lowered_of_mem_fieldKeys hkey))
  have hfile {t : Tree} : Tree.find? key entries = some t ↔ (key, t) ∈ entries :=
    Tree.find?_eq_some_iff (distinct_of_fileEntries h.read)
  have hunset : Tree.find? key (ofEnvironment env) = none ↔ ∀ value, ¬Sets env key value := by
    simp [Option.eq_none_iff_forall_ne_some, hvariable]
  have hmissing : Tree.find? key entries = none ↔ ∀ t, (key, t) ∉ entries := by
    simp [Option.eq_none_iff_forall_ne_some, hfile]
  rw [found?, Option.or_eq_some_iff, Option.or_eq_some_iff, hvariable, hunset, hfile, hmissing,
    Tree.find?_eq_some_iff distinct_builtInEntries]
  constructor
  · rintro (⟨value, hset, rfl⟩ | ⟨hunset, hmem | ⟨hmissing, hmem⟩⟩)
    · exact .environment hset
    · exact .file hunset hmem
    · exact .builtIn hunset hmissing hmem
  · rintro (hset | ⟨hunset, hmem⟩ | ⟨hunset, hmissing, hmem⟩)
    · exact .inl ⟨_, hset, rfl⟩
    · exact .inr ⟨hunset, .inl hmem⟩
    · exact .inr ⟨hunset, .inr ⟨hmissing, hmem⟩⟩

/-- For each field there is one setting that counts. -/
theorem Layered.existsUnique_wins (h : Layered p d env file entries) (hkey : key ∈ fieldKeys) :
    ∃! t, Wins env entries key t := by
  obtain ⟨builtIn, hbuiltIn⟩ := exists_builtIn hkey
  have hsome : (found? env entries key).isSome = true := by
    rw [found?, (Tree.find?_eq_some_iff distinct_builtInEntries).mpr hbuiltIn]
    simp
  obtain ⟨t, ht⟩ := Option.isSome_iff_exists.mp hsome
  refine ⟨t, (h.found?_eq_some_iff hkey).mp ht, fun t' ht' => ?_⟩
  have heq := (h.found?_eq_some_iff hkey).mpr ht'
  exact Option.some.inj (heq.symm.trans ht)

/-- Settings that agree where it counts have the same ones that count. -/
theorem Agree.wins (hagree : Agree env env' entries entries') (hkey : key ∈ fieldKeys) {t : Tree}
    (h : Wins env entries key t) : Wins env' entries' key t := by
  have hunset (h : ∀ value, ¬Sets env key value) (value : String) : ¬Sets env' key value :=
    fun hset => h value ((hagree.environment key hkey value).mpr hset)
  cases h with
  | environment hset => exact .environment ((hagree.environment key hkey _).mp hset)
  | file h hmem => exact .file (hunset h) ((hagree.file key hkey h t).mp hmem)
  | builtIn h hmissing hmem =>
      exact .builtIn (hunset h) (fun t ht => hmissing t ((hagree.file key hkey h t).mpr ht)) hmem

/-! ### The fields of the layers -/

/-- Under a key there is a setting that is read like another one. -/
def ReadLike (es : List (String × Tree)) (key : String) (t : Tree) : Prop :=
  ∃ t', Tree.find? key es = some t' ∧ (∀ k, Field.text k t' = Field.text k t) ∧
    ∀ k, Field.number k t' = Field.number k t

variable {t : Tree} {below above : List (String × Tree)}

theorem readLike_layer_of_some (hplain : ∀ e ∈ above, Plain e.1) (hdistinct : Distinct above)
    (h : Tree.find? key above = some t) : ReadLike (Tree.layer below above) key t := by
  have hcover := Tree.find?_layer hplain hdistinct below key
  rw [h] at hcover
  exact ⟨_, hcover, fun k => Field.text_cover k t _, fun k => Field.number_cover k t _⟩

theorem readLike_layer_of_none (hplain : ∀ e ∈ above, Plain e.1) (hdistinct : Distinct above)
    (h : Tree.find? key above = none) (hbelow : ReadLike below key t) :
    ReadLike (Tree.layer below above) key t := by
  obtain ⟨t', ht', hread⟩ := hbelow
  refine ⟨t', ?_, hread⟩
  rw [Tree.find?_layer hplain hdistinct, h]
  exact ht'

/-- **The layers show what counts.** -/
theorem Layered.readLike (h : Layered p d env file entries) (hkey : key ∈ fieldKeys)
    (hwins : Wins env entries key t) :
    ReadLike (Tree.layer (Tree.layer builtInEntries entries) (ofEnvironment env)) key t := by
  have hplain := plain_of_mem_ofEnvironment h.names
  have hdistinct := distinct_ofEnvironment h.different
  have hentries := distinct_of_fileEntries h.read
  have hfound := (h.found?_eq_some_iff hkey).mpr hwins
  rw [found?, Option.or_eq_some_iff, Option.or_eq_some_iff] at hfound
  -- From the lowest layer that counts upwards: it covers what is below, and nothing covers it.
  obtain hvariable | ⟨hunset, hfile | ⟨hmissing, hbuiltIn⟩⟩ := hfound
  · exact readLike_layer_of_some hplain hdistinct hvariable
  · exact readLike_layer_of_none hplain hdistinct hunset
      (readLike_layer_of_some h.keys hentries hfile)
  · exact readLike_layer_of_none hplain hdistinct hunset
      (readLike_layer_of_none h.keys hentries hmissing ⟨t, hbuiltIn, fun _ => rfl, fun _ => rfl⟩)

variable {url timeout agent : Tree} {s : Settings}

theorem ofEntries_eq_of_readLike {es : List (String × Tree)} (hurl : ReadLike es urlKey url)
    (htimeout : ReadLike es timeoutKey timeout) (hagent : ReadLike es userAgentKey agent) :
    ofEntries es = ofEntries [(urlKey, url), (timeoutKey, timeout), (userAgentKey, agent)] := by
  obtain ⟨url', hurl, hurlText, -⟩ := hurl
  obtain ⟨timeout', htimeout, -, htimeoutNumber⟩ := htimeout
  obtain ⟨agent', hagent, hagentText, -⟩ := hagent
  rw [ofEntries, ofEntries]
  simp only [hurl, htimeout, hagent, Option.getD_some, hurlText, htimeoutNumber, hagentText]
  rfl

/-- The setting under a key of a table. -/
def setting (es : List (String × Tree)) (key : String) : Tree := (Tree.find? key es).getD .absent

theorem ofEntries_eq_ok_iff_converts {es : List (String × Tree)} : ofEntries es = .ok s ↔
    Converts (setting es urlKey) (setting es timeoutKey) (setting es userAgentKey) s := by
  have hread : ofEntries es = Field.text urlKey (setting es urlKey) >>= fun baseUrl =>
      Field.number timeoutKey (setting es timeoutKey) >>= fun seconds =>
        Field.text userAgentKey (setting es userAgentKey) >>= fun name =>
          .ok ⟨baseUrl, seconds, name⟩ := rfl
  rw [hread]
  constructor
  · intro h
    obtain ⟨baseUrl, hurl, h⟩ := exists_of_bind_eq_ok h
    obtain ⟨seconds, htimeout, h⟩ := exists_of_bind_eq_ok h
    obtain ⟨name, hagent, h⟩ := exists_of_bind_eq_ok h
    cases h
    exact ⟨hurl, htimeout, hagent⟩
  · intro h
    rw [h.baseUrl, h.timeoutSeconds, h.userAgent]
    rfl

theorem ofEntries_eq_ok_iff :
    ofEntries [(urlKey, url), (timeoutKey, timeout), (userAgentKey, agent)] = .ok s ↔
      Converts url timeout agent s :=
  ofEntries_eq_ok_iff_converts

theorem url_eq_ok_iff {u : Url} : s.url = .ok u ↔
    Url.parse s.baseUrl = .ok u ∧ (u.scheme = "http".toList ∨ u.scheme = "https".toList) := by
  rw [Settings.url]
  split
  next hparse => simp [hparse]
  next u' hparse =>
      rw [hparse, Except.ok.injEq]
      split
      next hscheme =>
          rw [Except.ok.injEq]
          exact ⟨fun heq => ⟨heq, heq ▸ hscheme⟩, And.left⟩
      next hscheme => exact iff_of_false nofun fun ⟨heq, h⟩ => hscheme (heq ▸ h)

/-! ### Loading -/

theorem load_eq_ok_iff : load p d env file = .ok s ↔ ∃ entries,
    fileEntries p d env file = .ok entries ∧
      ofEntries (Tree.layer (Tree.layer builtInEntries entries) (ofEnvironment env)) = .ok s ∧
        ∃ u, s.url = .ok u := by
  rw [load]
  split
  next hread => simp [hread]
  next es hread =>
      simp only [hread, Except.ok.injEq, exists_eq_left']
      split
      next hfields => simp [hfields]
      next s' hfields =>
          rw [hfields, Except.ok.injEq]
          cases hurl : s'.url with
          | error cause =>
              refine iff_of_false nofun ?_
              rintro ⟨rfl, u, hu⟩
              rw [hurl] at hu
              cases hu
          | ok u =>
              rw [Except.map, Except.ok.injEq]
              exact ⟨fun heq => ⟨heq, u, heq ▸ hurl⟩, And.left⟩

/-- What cannot be read is a fault of the file, and no other is. -/
theorem load_eq_file_iff {cause : FileFault} :
    load p d env file = .error (.file cause) ↔ fileEntries p d env file = .error cause := by
  rw [load]
  split
  next hread => simp [hread]
  next es hread =>
      refine iff_of_false (fun h => ?_) (by simp [hread])
      split at h
      · cases h
      next s hfields =>
          rw [Settings.url] at h
          split at h
          · cases h
          · split at h <;> cases h

theorem Layered.ofEntries_eq (h : Layered p d env file entries) (hurl : Wins env entries urlKey url)
    (htimeout : Wins env entries timeoutKey timeout)
    (hagent : Wins env entries userAgentKey agent) :
    ofEntries (Tree.layer (Tree.layer builtInEntries entries) (ofEnvironment env))
      = ofEntries [(urlKey, url), (timeoutKey, timeout), (userAgentKey, agent)] :=
  ofEntries_eq_of_readLike (h.readLike (by decide) hurl) (h.readLike (by decide) htimeout)
    (h.readLike (by decide) hagent)

theorem Layered.load_eq_ok_iff (h : Layered p d env file entries)
    (hurl : Wins env entries urlKey url) (htimeout : Wins env entries timeoutKey timeout)
    (hagent : Wins env entries userAgentKey agent) :
    load p d env file = .ok s ↔ Converts url timeout agent s ∧ ∃ u, s.url = .ok u := by
  rw [Settings.load_eq_ok_iff, h.read]
  simp only [Except.ok.injEq, exists_eq_left', h.ofEntries_eq hurl htimeout hagent,
    ofEntries_eq_ok_iff]

/-- Settings whose layers agree where it counts load alike, and fail alike. -/
theorem Agree.load_eq (hagree : Agree env env' entries entries') (h : Layered p d env file entries)
    (h' : Layered p' d' env' file' entries') : load p' d' env' file' = load p d env file := by
  obtain ⟨url, hurl, -⟩ := h.existsUnique_wins (show urlKey ∈ fieldKeys by decide)
  obtain ⟨timeout, htimeout, -⟩ := h.existsUnique_wins (show timeoutKey ∈ fieldKeys by decide)
  obtain ⟨agent, hagent, -⟩ := h.existsUnique_wins (show userAgentKey ∈ fieldKeys by decide)
  have hfields := h.ofEntries_eq hurl htimeout hagent
  have hfields' := h'.ofEntries_eq (hagree.wins (by decide) hurl) (hagree.wins (by decide) htimeout)
    (hagree.wins (by decide) hagent)
  rw [load, load, h.read, h'.read]
  simp only [hfields, hfields']

/-- **The settings are layered field by field.** For each field one setting counts; the settings are
loaded exactly if those three can be read and give an address for the web, and are then what was read.
Layers that differ in nothing that counts load alike, also on another platform. A file of the user
that is not there is as good as an empty one, and a file that is asked for must be there. -/
theorem load_layered (p : Platform) (d : Disk) (env : Environment) (file : Option String) :
    (∀ entries, Layered p d env file entries →
      (∀ key ∈ fieldKeys, ∃! t, Wins env entries key t) ∧
      (∀ url timeout agent, Wins env entries urlKey url → Wins env entries timeoutKey timeout →
        Wins env entries userAgentKey agent → ∀ s, load p d env file = .ok s ↔
          Converts url timeout agent s ∧ ∃ u, Url.parse s.baseUrl = .ok u ∧
            (u.scheme = "http".toList ∨ u.scheme = "https".toList)) ∧
      ∀ p' d' env' file' entries', Layered p' d' env' file' entries' →
        Agree env env' entries entries' → load p' d' env' file' = load p d env file) ∧
    (∀ s, load p d env file = .ok s → ∃ u, s.url = .ok u) ∧
    (∀ d', (∀ path, userFile? p env = some path → ¬Found d path ∧ d'.read path = .ok []) →
      load p d env none = load p d' env none) ∧
    ∀ path, load p d env (some path) = .error (.file (.missing path)) ↔ ¬Found d path := by
  refine ⟨fun entries h => ⟨?_, ?_, ?_⟩, ?_, ?_, ?_⟩
  · exact fun key hkey => h.existsUnique_wins hkey
  · intro url timeout agent hurl htimeout hagent s
    simp only [h.load_eq_ok_iff hurl htimeout hagent, url_eq_ok_iff]
  · exact fun p' d' env' file' entries' h' hagree => hagree.load_eq h h'
  · intro s hs
    obtain ⟨-, -, -, hurl⟩ := Settings.load_eq_ok_iff.mp hs
    exact hurl
  · intro d' h
    have hread := fileEntries_of_not_found (d := d) fun path hpath => (h path hpath).1
    have hread' := fileEntries_of_empty (d := d') fun path hpath => (h path hpath).2
    rw [load, load, hread, hread']
  · exact fun path => load_eq_file_iff.trans readFile_eq_missing_iff

end Winner

/-! ### A file of lines -/

/-- The entries of lines in which an equals sign stands between a name and a text. -/
def lineEntries (source content : String) : List (String × Tree) :=
  (content.toList.splitOn '\n').map fun line =>
    let text := String.ofList ((line.dropWhile (· != '=')).drop 1)
    (String.ofList (line.takeWhile (· != '=')), .leaf source (.text text))

/-- A reader of such lines, which refuses a name that comes twice. -/
def lineReader : Reader where
  entries? source content :=
    if Distinct (lineEntries source content) then some (lineEntries source content) else none
  distinct h := by
    obtain ⟨hdistinct, hentries⟩ := Option.ite_none_right_eq_some.mp h
    cases hentries
    exact hdistinct

/-- A platform on which the files of one more format can be read, if they are plain lines. -/
def linePlatform : Platform :=
  { Platform.bare none with reader := fun f => if f = .ini then lineReader else .refusing }

def lineDisk (content : String) : Disk := ⟨[], [], [(["conf.ini"], Text.Utf8.encode content)]⟩

/-- A file with a text for the number of seconds. -/
def wordyFile : String := "timeout_secs=soon\nuser_agent=ci"

/-- The file without that. -/
def agentLine : String := "user_agent=ci"

theorem fileEntries_lineDisk (env : Environment) {content : String}
    (h : content ∈ [wordyFile, agentLine]) :
    fileEntries linePlatform (lineDisk content) env (some "conf")
      = .ok (lineEntries "conf.ini" content) := by
  have hunread : ∀ content ∈ [wordyFile, agentLine],
      ((lineDisk content).read "conf").toOption = none := by
    decide +kernel
  have hfirst : ∀ content ∈ [wordyFile, agentLine],
      firstFile? (lineDisk content)
          (linePlatform.ends.map fun e => ([] ++ ["conf" ++ "." ++ e.1], e.2))
        = some (["conf.ini"], .foreign .ini, Text.Utf8.encode content) := by
    decide +kernel
  have hcontent : ∀ content ∈ [wordyFile, agentLine],
      contentText (Text.Utf8.encode content) = content := by
    decide +kernel
  have hdistinct : ∀ content ∈ [wordyFile, agentLine],
      Distinct (lineEntries "conf.ini" content) := by
    decide +kernel
  obtain ⟨fault, hread⟩ := exists_error_of_toOption (hunread content h)
  have hlocate : (lineDisk content).locate "conf" = [] ++ ["conf"] := by
    change [] ++ Disk.namesOf "conf" = _
    decide
  refine readFile_of_firstFile (places_of_unread hread hlocate (by decide)) (hfirst content h) ?_
  rw [hcontent content h]
  exact if_pos (hdistinct content h)

theorem not_sets {env : Environment} {key : String}
    (h : ∀ v ∈ env, sameName v.1 (variableName key) = false) (value : String) :
    ¬Sets env key value := by
  rintro ⟨name, hmem, hname⟩
  exact Bool.false_ne_true ((h _ hmem).symm.trans hname)

def secondsVariable : String × String := ("STITCH_TIMEOUT_SECS", "90")

def apiKeyVariable : String × String := ("STITCH_API_KEY", "[")

/-- A text for a number in the file does not matter below a variable, and neither does a key for the
service, which stands in the environment like a setting and is none. -/
theorem load_beside_apiKey :
    load linePlatform (lineDisk wordyFile) [secondsVariable, apiKeyVariable] (some "conf")
      = .ok { builtIn with timeoutSeconds := 90, userAgent := "ci" } ∧
    load linePlatform (lineDisk agentLine) [secondsVariable] (some "conf")
      = load linePlatform (lineDisk wordyFile) [secondsVariable, apiKeyVariable] (some "conf") := by
  have hwordy : Layered linePlatform (lineDisk wordyFile) [secondsVariable, apiKeyVariable]
      (some "conf") [(timeoutKey, .leaf (some "conf.ini") (.text "soon")),
        (userAgentKey, .leaf (some "conf.ini") (.text "ci"))] :=
    ⟨fileEntries_lineDisk _ (by decide), by decide, by decide, by decide⟩
  have hagent : Layered linePlatform (lineDisk agentLine) [secondsVariable] (some "conf")
      [(userAgentKey, .leaf (some "conf.ini") (.text "ci"))] :=
    ⟨fileEntries_lineDisk _ (by decide), by decide, by decide, by decide⟩
  have hseconds (env : Environment) : Sets (secondsVariable :: env) timeoutKey "90" :=
    ⟨_, List.mem_cons_self, by decide⟩
  obtain ⟨-, hload, hbeside⟩ := (load_layered _ _ _ _).1 _ hwordy
  constructor
  · have hurl : ∀ t, (urlKey, t) ∉ [(timeoutKey, Tree.leaf (some "conf.ini") (.text "soon")),
        (userAgentKey, .leaf (some "conf.ini") (.text "ci"))] := by
      simp [urlKey, timeoutKey, userAgentKey]
    have hnumber : Field.number timeoutKey (.leaf environmentSource (guess "90")) = .ok 90 :=
      eq_ok_of_toOption (by decide +kernel)
    have hscheme : (Url.parse builtIn.baseUrl).toOption.map (·.scheme) = some "https".toList := by
      decide +kernel
    obtain ⟨u, hu, hscheme⟩ := Option.map_eq_some_iff.mp hscheme
    exact (hload _ _ _ (.builtIn (not_sets (by decide)) hurl List.mem_cons_self)
      (.environment (hseconds _))
      (.file (not_sets (by decide)) (List.mem_cons_of_mem _ List.mem_cons_self)) _).mpr
      ⟨⟨rfl, hnumber, rfl⟩, u, eq_ok_of_toOption hu, .inr hscheme⟩
  · refine hbeside _ _ _ _ _ hagent ⟨fun key hkey value => ?_, fun key _ hunset t => ?_⟩
    · have hother : ∀ key ∈ fieldKeys, sameName "STITCH_API_KEY" (variableName key) = false := by
        decide
      simp [Sets, apiKeyVariable, or_and_right, exists_or, hother key hkey]
    · -- The first line counts for nothing, since its variable is set.
      have hne : key ≠ timeoutKey := fun h => hunset "90" (h ▸ hseconds _)
      simp [hne]

end AppAdmin.Settings
