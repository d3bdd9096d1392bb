import AppAdmin.Proofs.Json.Reading
import AppAdmin.Proofs.Number.Numerals
import AppAdmin.Proofs.Settings.Layers

/-!
Texts among the settings. A text in a settings file is taken as it is. A value in the environment is taken
for what it looks like, and where a text is asked for it is written down again: it comes out as it went in
exactly if it looks like nothing else, or is spelled the way in which it would be written.
-/

namespace AppAdmin.Settings

open Number (Whole Floating Canonical isInteger64)
open Text (lowered sameName)

/-- A truth value in words. -/
def truthWord (b : Bool) : String := if b then "true" else "false"

/-- The value that a text looks like. -/
inductive LooksLike (v : String) : Scalar → Prop
  | truth {b : Bool} (h : sameName v (truthWord b) = true) : LooksLike v (.bool b)
  | whole {n : Int} (h : Whole v.toList n) (hbits : isInteger64 n = true) : LooksLike v (.integer n)
  | number {x : Binary64} (h : Floating v.toList x)
      (hlarge : ∀ n, Whole v.toList n → isInteger64 n = false) : LooksLike v (.real x)
  | text (hword : ∀ b, sameName v (truthWord b) = false) (hnumber : ∀ x, ¬Floating v.toList x) :
      LooksLike v (.text v)

/-- A value as a text. -/
def Scalar.written : Scalar → String
  | .null => ""
  | .bool b => truthWord b
  | .integer n => integerText n
  | .real x => x.plainText
  | .text s => s

/-- A text that stays the same when it is taken for what it looks like and written down again. -/
inductive Kept (v : String) : Prop
  | truth {b : Bool} (h : v = truthWord b)
  | whole {n : Int} (h : Whole v.toList n) (hbits : isInteger64 n = true)
      (hcanonical : Canonical v.toList)
  | number {x : Binary64} (h : Floating v.toList x)
      (hlarge : ∀ n, Whole v.toList n → isInteger64 n = false) (hplain : x.plainText = v)
  | text (hword : ∀ b, sameName v (truthWord b) = false) (hnumber : ∀ x, ¬Floating v.toList x)

/-- The name of a variable leads into a setting or to what is inside it. -/
def LeadsInto (name key : String) : Prop :=
  ∃ path, lowered name = lowered variableStart ++ "_" ++ path ∧ (KeyPath.ofText path).key = key

/-! ### Whole numbers as texts -/

theorem integerText_natCast (n : Nat) : integerText n = String.ofList (Nat.toDigits 10 n) := by
  rw [integerText, if_neg (by omega), String.empty_append, Int.natAbs_natCast]

theorem integerText_neg {n : Nat} (h : 0 < n) :
    integerText (-n) = String.ofList ('-' :: Nat.toDigits 10 n) := by
  rw [integerText, if_pos (by omega), Int.natAbs_neg, Int.natAbs_natCast, ← String.toList_inj]
  simp

theorem canonical_integerText (n : Int) : Canonical (integerText n).toList := by
  obtain ⟨m, rfl | rfl⟩ := n.eq_nat_or_neg
  · rw [integerText_natCast, String.toList_ofList]
    obtain rfl | hm := Nat.eq_zero_or_pos m
    · exact .zero
    · exact .positive (Number.significant_toDigits m hm)
  · obtain rfl | hm := Nat.eq_zero_or_pos m
    · exact .zero
    · rw [integerText_neg hm, String.toList_ofList]
      exact .negative (Number.significant_toDigits m hm)

/-- What is spelled canonically is written as it stands. -/
theorem integerText_of_canonical {s : List Char} {n : Int} (h : Whole s n) (hs : Canonical s) :
    integerText n = String.ofList s := by
  obtain ⟨-, rfl⟩ := Number.whole_iff.mp h
  cases hs with
  | zero => rfl
  | positive hs =>
      rw [Number.cutSign_of_noSign hs.noSign, if_neg Bool.false_ne_true, integerText_natCast,
        hs.toDigits_ofDigits]
  | @negative s hs =>
      change integerText (-(Number.ofDigits s : Int)) = _
      rw [integerText_neg hs.ofDigits_pos, hs.toDigits_ofDigits]

/-! ### What a value looks like -/

variable {v : String}

theorem sameName_truthWord_iff {b : Bool} :
    sameName v (truthWord b) = true ↔ lowered v = truthWord b := by
  have hsmall : lowered (truthWord b) = truthWord b := by cases b <;> decide
  rw [Text.sameName_iff, hsmall]

theorem sameName_truthWord_of_floating {x : Binary64} (h : Floating v.toList x) (b : Bool) :
    sameName v (truthWord b) = false := by
  have hword := h.map_toLower_ne (truthWord b).toList (by cases b <;> decide)
  rw [Bool.eq_false_iff, ne_eq, sameName_truthWord_iff, ← String.toList_inj, lowered,
    String.toList_ofList]
  exact hword

theorem guess_of_word {b : Bool} (h : sameName v (truthWord b) = true) : guess v = .bool b := by
  cases b with
  | false =>
      have hlower : lowered v = "false" := sameName_truthWord_iff.mp h
      rw [guess, hlower, if_neg (by decide), if_pos rfl]
  | true =>
      have hlower : lowered v = "true" := sameName_truthWord_iff.mp h
      rw [guess, hlower, if_pos rfl]

theorem guess_of_no_word (h : ∀ b, sameName v (truthWord b) = false) :
    guess v = match Number.integer64? v.toList with
      | some n => .integer n
      | none => match Number.real? v.toList with
        | some x => .real x
        | none => .text v := by
  have hword (b : Bool) : lowered v ≠ truthWord b := by
    rw [ne_eq, ← sameName_truthWord_iff, h b]
    exact Bool.false_ne_true
  have htrue : lowered v ≠ "true" := hword true
  have hfalse : lowered v ≠ "false" := hword false
  exact (if_neg htrue).trans (if_neg hfalse)

theorem looksLike_guess (v : String) : LooksLike v (guess v) := by
  by_cases htruth : ∃ b, sameName v (truthWord b) = true
  · obtain ⟨b, hb⟩ := htruth
    rw [guess_of_word hb]
    exact .truth hb
  · have hword : ∀ b, sameName v (truthWord b) = false := by simpa using htruth
    rw [guess_of_no_word hword]
    split
    next n hn =>
        obtain ⟨hwhole, hbits⟩ := Number.integer64?_eq_some_iff.mp hn
        exact .whole hwhole hbits
    next hsmall =>
        split
        next x hx =>
            exact .number (Number.real?_eq_some_iff.mp hx) (Number.integer64?_eq_none_iff.mp hsmall)
        next hnumber => exact .text hword (Number.real?_eq_none_iff.mp hnumber)

/-- **A value is taken for what it looks like.** -/
theorem guess_eq_iff {t : Scalar} : guess v = t ↔ LooksLike v t := by
  refine ⟨fun h => h ▸ looksLike_guess v, fun h => ?_⟩
  cases h with
  | truth h => exact guess_of_word h
  | whole h hbits =>
      obtain ⟨x, hx⟩ := h.exists_floating
      rw [guess_of_no_word (sameName_truthWord_of_floating hx),
        Number.integer64?_eq_some_iff.mpr ⟨h, hbits⟩]
  | number h hlarge =>
      rw [guess_of_no_word (sameName_truthWord_of_floating h),
        Number.integer64?_eq_none_iff.mpr hlarge, Number.real?_eq_some_iff.mpr h]
  | text hword hnumber =>
      have hwhole : ∀ n, Whole v.toList n → isInteger64 n = false := by
        intro n hn
        obtain ⟨x, hx⟩ := hn.exists_floating
        exact absurd hx (hnumber x)
      rw [guess_of_no_word hword, Number.integer64?_eq_none_iff.mpr hwhole,
        Number.real?_eq_none_iff.mpr hnumber]

/-! ### What it is as a text -/

/-- A value from the environment can be read as a text. -/
theorem text_guess (key : String) (source : Option String) (v : String) :
    Field.text key (.leaf source (guess v)) = .ok (guess v).written := by
  cases hguess : guess v with
  | null => cases guess_eq_iff.mp hguess
  | bool b => rfl
  | integer n => rfl
  | real x => rfl
  | text s => rfl

/-- **What it takes for a text to be kept.** -/
theorem written_eq_iff {t : Scalar} (h : LooksLike v t) : t.written = v ↔ Kept v := by
  constructor
  · intro hwritten
    cases h with
    | truth => exact .truth hwritten.symm
    | @whole n h hbits =>
        refine .whole h hbits ?_
        rw [← hwritten]
        exact canonical_integerText n
    | number h hlarge => exact .number h hlarge hwritten
    | text hword hnumber => exact .text hword hnumber
  · rw [← guess_eq_iff] at h
    intro hkept
    cases hkept with
    | @truth b hv =>
        have hsame : sameName v (truthWord b) = true := by
          rw [hv]
          exact Text.sameName_refl _
        rw [← h, guess_of_word hsame, hv]
        rfl
    | whole hwhole hbits hcanonical =>
        rw [← h, guess_eq_iff.mpr (.whole hwhole hbits), Scalar.written,
          integerText_of_canonical hwhole hcanonical, String.ofList_toList]
    | number hnumber hlarge hplain =>
        rw [← h, guess_eq_iff.mpr (.number hnumber hlarge)]
        exact hplain
    | text hword hnumber =>
        rw [← h, guess_eq_iff.mpr (.text hword hnumber)]
        rfl

/-! ### Environments that differ in one variable -/

section Variable

variable {before after : Environment}

theorem get?_beside {name other : String} (h : name ≠ other) (v w : String) :
    Environment.get? (before ++ (name, v) :: after) other
      = Environment.get? (before ++ (name, w) :: after) other := by
  have hskip (u : String) : ((name, u) :: after).find? (·.1 == other) = after.find? (·.1 == other) :=
    List.find?_cons_of_neg (by simp [h])
  rw [Environment.get?, Environment.get?, List.find?_append, List.find?_append, hskip, hskip]

/-- Where the file of a user is does not depend on the variables of settings. -/
theorem fileEntries_beside (p : Platform) (d : Disk) (file : Option String) {name : String}
    (hconfig : name ≠ "XDG_CONFIG_HOME") (hhome : name ≠ "HOME") (v w : String) :
    fileEntries p d (before ++ (name, v) :: after) file
      = fileEntries p d (before ++ (name, w) :: after) file := by
  have hfile : userFile? p (before ++ (name, v) :: after)
      = userFile? p (before ++ (name, w) :: after) := by
    rw [userFile?, userFile?, get?_beside hconfig v w, get?_beside hhome v w]
  cases file with
  | some path => rfl
  | none => rw [fileEntries, fileEntries, hfile]

theorem setting?_variableName {key : String} (hkey : lowered key = key) (v : String) :
    setting? (variableName key, v) = some (key, .leaf environmentSource (guess v)) := by
  rw [setting?_eq_some_iff, ← sameName_variableName_iff hkey]
  exact ⟨Text.sameName_refl _, rfl⟩

theorem ofEnvironment_append_cons {key : String} (hkey : lowered key = key) (v : String) :
    ofEnvironment (before ++ (variableName key, v) :: after)
      = ofEnvironment before ++ (key, .leaf environmentSource (guess v)) :: ofEnvironment after := by
  rw [ofEnvironment_eq, List.filterMap_append, List.filterMap_cons_some (setting?_variableName hkey v)]
  rfl

/-- Variables that do not lead into a setting are no settings that do. -/
theorem elsewhere_of_not_leadsInto {env : Environment} {key : String}
    (h : ∀ e ∈ env, ¬LeadsInto e.1 key) :
    ∀ e ∈ ofEnvironment env, (KeyPath.ofText e.1).key ≠ key := by
  rintro ⟨path, t⟩ he hpath
  obtain ⟨e, hmem, hname, -⟩ := mem_ofEnvironment_iff.mp he
  exact h e hmem ⟨path, hname, hpath⟩

end Variable

/-! ### Loading -/

/-- A table that differs from another in the user agent is read like it, but for the user agent. -/
theorem ofEntries_of_agreeBeside {es es' : List (String × Tree)} {s : Settings} {t : Tree}
    {agent : String} (h : ofEntries es = .ok s) (hbeside : Tree.AgreeBeside userAgentKey es es')
    (hfound : Tree.find? userAgentKey es' = some t) (hagent : Field.text userAgentKey t = .ok agent) :
    ofEntries es' = .ok { s with userAgent := agent } := by
  have hread := ofEntries_eq_ok_iff_converts.mp h
  have hsame {key : String} (hkey : key ≠ userAgentKey) : setting es' key = setting es key := by
    rw [setting, setting, hbeside key hkey]
  have hsetting : setting es' userAgentKey = t := by rw [setting, hfound, Option.getD_some]
  refine ofEntries_eq_ok_iff_converts.mpr ⟨?_, ?_, ?_⟩
  · rw [hsame (by decide)]
    exact hread.baseUrl
  · rw [hsame (by decide)]
    exact hread.timeoutSeconds
  · rw [hsetting]
    exact hagent

/-- Settings that are loaded are loaded again, but for the user agent, where the layers differ in it. -/
theorem load_of_agreeBeside {p : Platform} {d d' : Disk} {env env' : Environment}
    {file file' : Option String} {entries entries' : List (String × Tree)} {s : Settings} {t : Tree} {agent : String}
    (h : load p d env file = .ok s) (hread : fileEntries p d env file = .ok entries)
    (hread' : fileEntries p d' env' file' = .ok entries')
    (hbeside : Tree.AgreeBeside userAgentKey
      (Tree.layer (Tree.layer builtInEntries entries) (ofEnvironment env))
      (Tree.layer (Tree.layer builtInEntries entries') (ofEnvironment env')))
    (hfound : Tree.find? userAgentKey
      (Tree.layer (Tree.layer builtInEntries entries') (ofEnvironment env')) = some t)
    (hagent : Field.text userAgentKey t = .ok agent) :
    load p d' env' file' = .ok { s with userAgent := agent } := by
  obtain ⟨_, hentries, hfields, hurl⟩ := load_eq_ok_iff.mp h
  rw [hread, Except.ok.injEq] at hentries
  subst hentries
  exact load_eq_ok_iff.mpr ⟨entries', hread', ofEntries_of_agreeBeside hfields hbeside hfound hagent,
    hurl⟩

theorem plain_userAgentKey : Plain userAgentKey := by decide

/-- The user agent of the environment is what its value is written as. -/
theorem load_of_variable {p : Platform} {d : Disk} {file : Option String}
    {before after : Environment} (hlast : ∀ e ∈ after, ¬LeadsInto e.1 userAgentKey) {other : String} {s : Settings}
    (h : load p d (before ++ (variableName userAgentKey, other) :: after) file = .ok s) (v : String) :
    load p d (before ++ (variableName userAgentKey, v) :: after) file
      = .ok { s with userAgent := (guess v).written } := by
  obtain ⟨entries, hread, -, -⟩ := load_eq_ok_iff.mp h
  have hread' := hread
  rw [fileEntries_beside p d file (by decide) (by decide) other v] at hread'
  have hlower : lowered userAgentKey = userAgentKey := by decide
  refine load_of_agreeBeside h hread hread' ?_ ?_ (text_guess userAgentKey environmentSource v)
  · rw [ofEnvironment_append_cons hlower, ofEnvironment_append_cons hlower]
    exact Tree.agreeBeside_layer plain_userAgentKey _ _ _ _ _
  · rw [ofEnvironment_append_cons hlower]
    exact Tree.find?_layer_leaf plain_userAgentKey (elsewhere_of_not_leadsInto hlast) _ _ _

/-- The user agent of a file is the text that stands there. -/
theorem load_of_file {p : Platform} {d d' : Disk} {file : Option String} {env : Environment}
    {front back : List (String × Tree)} {t : Tree} {source : Option String} {v : String}
    (hread : fileEntries p d env file = .ok (front ++ (userAgentKey, t) :: back))
    (hread' : fileEntries p d' env file = .ok (front ++ (userAgentKey, .leaf source (.text v)) :: back))
    (hback : ∀ e ∈ back, (KeyPath.ofText e.1).key ≠ userAgentKey)
    (henv : ∀ e ∈ env, ¬LeadsInto e.1 userAgentKey) {s : Settings} (h : load p d env file = .ok s) :
    load p d' env file = .ok { s with userAgent := v } := by
  have hagent : Field.text userAgentKey (.leaf source (.text v)) = .ok v := rfl
  refine load_of_agreeBeside h hread hread' ?_ ?_ hagent
  · exact (Tree.agreeBeside_layer plain_userAgentKey _ _ _ _ _).layer _
  · rw [Tree.find?_layer_of_elsewhere (elsewhere_of_not_leadsInto henv)]
    exact Tree.find?_layer_leaf plain_userAgentKey hback _ _ _

/-! ### The user agent -/

/-- A settings file with a user agent. -/
def agentFile (agent : String) : Json.Value := .record [(userAgentKey, .text agent)]

def diskOf (agent : String) : Disk :=
  ⟨[], [], [(["s.json"], Text.Utf8.encode (agentFile agent).compact)]⟩

theorem fileEntries_diskOf (p : Platform) {agent : String} (h : agent ∈ ["ci", "1.10"]) :
    fileEntries p (diskOf agent) [] (some "s.json")
      = .ok [(userAgentKey, .leaf (some "s.json") (.text agent))] := by
  have hread : ∀ agent ∈ ["ci", "1.10"], ((diskOf agent).read "s.json").toOption
      = some (Text.Utf8.encode (agentFile agent).compact) := by decide +kernel
  have hcontent : ∀ agent ∈ ["ci", "1.10"],
      contentText (Text.Utf8.encode (agentFile agent).compact) = (agentFile agent).compact := by
    decide +kernel
  have hfits : (agentFile agent).FitsIn Json.depthLimit := by
    simp [agentFile, Json.Value.FitsIn, Json.MembersFitIn, Json.depthLimit]
  have hname : ((diskOf agent).locate "s.json").getLast? = some "s.json" := by
    change ([] ++ Disk.namesOf "s.json").getLast? = some "s.json"
    decide
  have hformat : ∃ e ∈ Format.extensions .json, extension? "s.json" = some e :=
    ⟨"json", by decide, by decide⟩
  refine readFile_of_read (eq_ok_of_toOption (hread agent h)) hname hformat ?_
  rw [Platform.entries?, hcontent agent h, Json.decode_compact hfits]
  rfl

/-- **What becomes of the user agent.** Where settings load with one user agent they load with every
other one. A text in a file is the user agent as it is. A value of the variable is taken for what it looks
like, and the user agent is that as a text: the value itself exactly if it is kept. -/
theorem load_userAgent (p : Platform) (d : Disk) (file : Option String) (v : String) :
    (∀ (before after : Environment) (other : String) (s : Settings),
      (∀ e ∈ after, ¬LeadsInto e.1 userAgentKey) →
      load p d (before ++ (variableName userAgentKey, other) :: after) file = .ok s →
        ∃ t, LooksLike v t ∧
          load p d (before ++ (variableName userAgentKey, v) :: after) file
            = .ok { s with userAgent := t.written } ∧ (t.written = v ↔ Kept v)) ∧
    ∀ (d' : Disk) (env : Environment) (front back : List (String × Tree)) (t : Tree)
      (source : Option String) (s : Settings),
      fileEntries p d' env file = .ok (front ++ (userAgentKey, t) :: back) →
      fileEntries p d env file = .ok (front ++ (userAgentKey, .leaf source (.text v)) :: back) →
      (∀ e ∈ back, (KeyPath.ofText e.1).key ≠ userAgentKey) →
      (∀ e ∈ env, ¬LeadsInto e.1 userAgentKey) → load p d' env file = .ok s →
        load p d env file = .ok { s with userAgent := v } := by
  constructor
  · intro before after other s hlast h
    have hlooks := looksLike_guess v
    exact ⟨guess v, hlooks, load_of_variable hlast h v, written_eq_iff hlooks⟩
  · exact fun d' env front back t source s hread' hread hback henv h =>
      load_of_file hread' hread hback henv h

/-- A version loses its last zero on the way through the environment, and not in a file. -/
theorem load_userAgent_version :
    load (.bare none) ⟨[], [], []⟩ [(variableName userAgentKey, "1.10")] none
      = .ok { builtIn with userAgent := "1.1" } ∧
    load (.bare none) (diskOf "1.10") [] (some "s.json")
      = .ok { builtIn with userAgent := "1.10" } := by
  have hvariable : load (.bare none) ⟨[], [], []⟩ [(variableName userAgentKey, "ci")] none
      = .ok { builtIn with userAgent := "ci" } := eq_ok_of_toOption (by decide +kernel)
  have hfile : load (.bare none) (diskOf "ci") [] (some "s.json")
      = .ok { builtIn with userAgent := "ci" } := eq_ok_of_toOption (by decide +kernel)
  constructor
  · obtain ⟨t, hlooks, hload, -⟩ :=
      (load_userAgent (.bare none) ⟨[], [], []⟩ none "1.10").1 [] [] "ci" _ nofun hvariable
    rw [← guess_eq_iff.mpr hlooks] at hload
    have hwritten : (guess "1.10").written = "1.1" := by decide +kernel
    rw [hwritten] at hload
    exact hload
  · exact (load_userAgent (.bare none) (diskOf "1.10") (some "s.json") "1.10").2 (diskOf "ci") [] []
      [] _ _ { builtIn with userAgent := "ci" } (fileEntries_diskOf _ (by decide))
      (fileEntries_diskOf _ (by decide)) nofun nofun hfile

/-- A user agent from the environment need not be the value of its variable. -/
theorem version_shortened :
    ¬ ∀ (d : Disk) (before after : Environment) (file : Option String) (v other : String)
      (s : Settings), (∀ e ∈ after, ¬LeadsInto e.1 userAgentKey) →
      load (.bare none) d (before ++ (variableName userAgentKey, other) :: after) file = .ok s →
        load (.bare none) d (before ++ (variableName userAgentKey, v) :: after) file
          = .ok { s with userAgent := v } := by
  intro h
  have hother : load (.bare none) ⟨[], [], []⟩ [(variableName userAgentKey, "ci")] none
      = .ok { builtIn with userAgent := "ci" } := eq_ok_of_toOption (by decide +kernel)
  have hversion : load (.bare none) ⟨[], [], []⟩ [(variableName userAgentKey, "1.10")] none
      = .ok { builtIn with userAgent := "1.1" } := eq_ok_of_toOption (by decide +kernel)
  have hkept := h ⟨[], [], []⟩ [] [] none "1.10" "ci" _ nofun hother
  rw [List.nil_append, hversion, Except.ok.injEq] at hkept
  exact absurd hkept (by decide)

end AppAdmin.Settings
