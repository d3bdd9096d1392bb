import AppAdmin.Proofs.Url.Rereading
import AppAdmin.Route

/-!
The parts of a route: the segments of its path and the query behind them. Ids of letters, digits,
hyphens and underscores stand in them as they are.
-/

namespace AppAdmin

open Url

/-! ### Characters -/

/-- The characters of ids that routes are meant for. -/
def isIdChar (c : Char) : Bool := c.isAlphanum || c == '-' || c == '_'

/-- An id of such characters. -/
def IsPlainId (id : String) : Prop := id ≠ "" ∧ ∀ c ∈ id.toList, isIdChar c = true

/-- The characters of routes with such ids. -/
def isRouteChar (c : Char) : Bool := c.isAlphanum || "-_.*+%/?&=".toList.contains c

/-- The characters of queries in form encoding. -/
def isFormChar (c : Char) : Bool := c.isAlphanum || "*-._+%&=".toList.contains c

theorem isRouteChar_of_isFormChar {c : Char} (h : isFormChar c = true) : isRouteChar c = true := by
  rw [isFormChar, Bool.or_eq_true] at h
  obtain h | h := h
  · rw [isRouteChar, h, Bool.true_or]
  · have all : ∀ c ∈ "*-._+%&=".toList, isRouteChar c = true := Text.forall_of_all (by decide)
    exact all c (List.contains_iff_mem.mp h)

theorem toNat_lt_of_isRouteChar {c : Char} (h : isRouteChar c = true) : c.toNat < 128 := by
  rw [isRouteChar, Bool.or_eq_true] at h
  obtain h | h := h
  · exact Text.toNat_lt_of_isAlphanum h
  · have all : ∀ c ∈ "-_.*+%/?&=".toList, c.toNat < 128 := Text.forall_of_all (by decide)
    exact all c (List.contains_iff_mem.mp h)

theorem isRouteChar_of_isIdChar {c : Char} (h : isIdChar c = true) : isRouteChar c = true := by
  simp only [isIdChar, Bool.or_eq_true, beq_iff_eq] at h
  obtain (h | rfl) | rfl := h
  · rw [isRouteChar, h, Bool.true_or]
  · decide
  · decide

/-- Behind the path, a text of routes needs no escapes. -/
theorem spared_of_isRouteChar {c : Char} (h : isRouteChar c = true) :
    escapedInQuery true c = false ∧ escapedInFragment c = false :=
  Text.forall_ascii (P := fun c => isRouteChar c = true →
    escapedInQuery true c = false ∧ escapedInFragment c = false) (by decide +kernel)
    (toNat_lt_of_isRouteChar h) h

theorem spared_of_isIdChar {c : Char} (h : isIdChar c = true) :
    escapedInPath c = false ∧ isAnySlash c = false ∧ c ≠ '%' ∧ c ≠ '.' :=
  Text.forall_ascii (P := fun c => isIdChar c = true →
    escapedInPath c = false ∧ isAnySlash c = false ∧ c ≠ '%' ∧ c ≠ '.') (by decide +kernel)
    (toNat_lt_of_isRouteChar (isRouteChar_of_isIdChar h)) h

theorem formByte_chars (b : UInt8) : ∀ c ∈ formByte b, isFormChar c = true := by
  have hescape : ∀ c ∈ escapeSigns, isFormChar c = true := Text.forall_of_all (by decide)
  intro c hc
  unfold formByte at hc
  dsimp only at hc
  split at hc
  next h =>
      rw [List.mem_singleton] at hc
      subst hc
      simp only [Bool.and_eq_true, Bool.or_eq_true, beq_iff_eq] at h
      obtain ⟨-, (((h | h) | h) | h) | h⟩ := h
      · rw [isFormChar, h, Bool.true_or]
      all_goals
        rw [h]
        decide
  split at hc
  · rw [List.mem_singleton] at hc
    subst hc
    decide
  · exact hescape c (percentByte_subset b hc)

theorem formEncode_chars (s : String) : ∀ c ∈ (formEncode s).toList, isFormChar c = true := by
  rw [formEncode, String.toList_ofList]
  intro c hc
  obtain ⟨b, -, hc⟩ := List.mem_flatMap.mp hc
  exact formByte_chars b c hc

theorem undotted_of_no_percent {s : List Char} (h : ∀ c ∈ s, c ≠ '%') : Path.undotted s = s := by
  induction s with
  | nil => rfl
  | cons c s ih =>
      obtain ⟨hc, hs⟩ := List.forall_mem_cons.mp h
      rw [Path.undotted_cons hc, ih hs]

theorem settled_of_idChars {s : List Char} (h : ∀ c ∈ s, isIdChar c = true) : Path.Settled s := by
  have hspared := fun c hc => spared_of_isIdChar (h c hc)
  have hundotted : Path.undotted s = s := undotted_of_no_percent fun c hc => (hspared c hc).2.2.1
  have hdot : '.' ∉ s := fun hmem => absurd rfl (hspared '.' hmem).2.2.2
  refine ⟨Path.Move.of_eq_into_iff.mpr ⟨?_, ?_, ?_⟩, fun c hc => (hspared c hc).2.1⟩
  · rw [hundotted]
    rintro rfl
    exact hdot List.mem_cons_self
  · rw [hundotted]
    rintro rfl
    exact hdot List.mem_cons_self
  · exact percentEncode_of_spared fun c hc => (hspared c hc).1

namespace Route

/-! ### Parts -/

/-- The segments behind those that all routes have. -/
def steps : Route → List String
  | .login provider => ["auth", "providers", provider, "login"]
  | .profile => ["auth", "profile"]
  | .apps group => ["groups", group, "apps"]
  | .exportApp group app => ["groups", group, "apps", app, "export"]
  | .importApp group app _ _ => ["groups", group, "apps", app, "import"]

def segments (route : Route) : List (List Char) :=
  ("api" :: "admin" :: "v3.0" :: route.steps).map String.toList

def query? : Route → Option String
  | .importApp _ _ strategy dryRun =>
    some ("strategy=" ++ formEncode strategy ++ if dryRun then "&diff=true" else "")
  | _ => none

/-- The ids that a route is built from. -/
def ids : Route → List String
  | .login provider => [provider]
  | .profile => []
  | .apps group => [group]
  | .exportApp group app => [group, app]
  | .importApp group app _ _ => [group, app]

theorem path_toList (route : Route) : route.path.toList =
    route.segments.flatMap ('/' :: ·) ++ markedText '?' (route.query?.map String.toList) := by
  cases route <;> simp [path, base, segments, steps, query?, markedText]

theorem exists_path (route : Route) : ∃ p, route.path.toList = '/' :: p := by
  rw [path_toList, segments, List.map_cons, List.flatMap_cons]
  exact ⟨_, rfl⟩

theorem segments_ne_nil (route : Route) : route.segments ≠ [] := by
  simp [segments]

theorem query_formChars {route : Route} {q : String} (h : route.query? = some q) :
    ∀ c ∈ q.toList, isFormChar c = true := by
  cases route with
  | importApp group app strategy dryRun =>
      cases h
      have hname : ∀ c ∈ "strategy=".toList, isFormChar c = true := Text.forall_of_all (by decide)
      have hdiff : ∀ c ∈ (if dryRun then "&diff=true" else "").toList, isFormChar c = true := by
        cases dryRun <;> exact Text.forall_of_all (by decide)
      simp only [String.toList_append, List.forall_mem_append]
      exact ⟨⟨hname, formEncode_chars strategy⟩, hdiff⟩
  | _ => cases h

theorem query_chars {route : Route} {q : String} (h : route.query? = some q) :
    ∀ c ∈ q.toList, isRouteChar c = true :=
  fun c hc => isRouteChar_of_isFormChar (query_formChars h c hc)

variable {route : Route}

theorem mem_steps {step : String} (h : step ∈ route.steps) : step ∈ route.ids ∨
    step ∈ ["auth", "providers", "login", "profile", "groups", "apps", "export", "import"] := by
  cases route <;> simp only [steps, ids, List.mem_cons, List.not_mem_nil, or_false] at h ⊢ <;> grind

theorem steps_plain (h : ∀ id ∈ route.ids, IsPlainId id) :
    ∀ step ∈ route.steps, ∀ c ∈ step.toList, isIdChar c = true := by
  intro step hstep
  obtain hid | hword := mem_steps hstep
  · exact (h step hid).2
  · have all : ∀ word ∈ ["auth", "providers", "login", "profile", "groups", "apps", "export",
        "import"], word.toList.all isIdChar = true := by decide
    exact List.all_eq_true.mp (all step hword)

theorem segments_settled (h : ∀ id ∈ route.ids, IsPlainId id) :
    ∀ s ∈ route.segments, Path.Settled s := by
  have hversion : Path.Settled "v3.0".toList := ⟨by decide, Text.forall_of_all (by decide)⟩
  have hsteps : ∀ step ∈ route.steps, Path.Settled step.toList :=
    fun step hstep => settled_of_idChars (steps_plain h step hstep)
  simp only [segments, List.map_cons, List.forall_mem_cons, List.forall_mem_map]
  exact ⟨settled_of_idChars (Text.forall_of_all (by decide)),
    settled_of_idChars (Text.forall_of_all (by decide)), hversion, hsteps⟩

theorem path_chars (h : ∀ id ∈ route.ids, IsPlainId id) :
    ∀ c ∈ route.path.toList, isRouteChar c = true := by
  have hfront : ∀ s ∈ ["api", "admin", "v3.0"], s.toList.all isRouteChar = true := by decide
  have hsteps : ∀ step ∈ route.steps, ∀ c ∈ step.toList, isRouteChar c = true :=
    fun step hstep c hc => isRouteChar_of_isIdChar (steps_plain h step hstep c hc)
  have hsegments : ∀ s ∈ route.segments, ∀ c ∈ s, isRouteChar c = true := by
    intro s hs
    obtain ⟨word, hword, rfl⟩ := List.mem_map.mp hs
    obtain hword | hword := List.mem_append (s := ["api", "admin", "v3.0"]).mp hword
    · exact List.all_eq_true.mp (hfront word hword)
    · exact hsteps word hword
  intro c hc
  rw [path_toList, List.mem_append, List.mem_flatMap] at hc
  obtain ⟨s, hs, hc⟩ | hc := hc
  · obtain rfl | hc := List.mem_cons.mp hc
    · decide
    · exact hsegments s hs c hc
  · obtain rfl | ⟨q, hq, hc⟩ := mem_markedText hc
    · decide
    · obtain ⟨query, hquery, rfl⟩ := Option.map_eq_some_iff.mp hq
      exact query_chars hquery c hc

end Route

end AppAdmin
