import AppAdmin.Proofs.Client.Call
import AppAdmin.Proofs.Query

/-!
The query of an import. It stands behind the last question mark of the path, also if there are more in
the ids, and it says the strategy as it was given and whether the import is a dry run.
-/

namespace AppAdmin

open Url (cutLast)

/-- Where a text is cut at the last mark. -/
theorem Url.cutLast_append {mark : Char} {behind : List Char} (h : mark ∉ behind)
    (before : List Char) : cutLast mark (before ++ mark :: behind) = (some before, behind) := by
  have hbehind : mark ∉ behind.reverse := mt List.mem_reverse.mp h
  have hreverse : (before ++ mark :: behind).reverse = behind.reverse ++ mark :: before.reverse := by
    rw [List.reverse_append, List.reverse_cons, List.append_assoc, List.singleton_append]
  rw [cutLast, hreverse, Text.takeWhile_mark hbehind, Text.dropWhile_mark hbehind]
  simp only [List.reverse_reverse]

/-- Strategy and dry run can be told from the parameters. -/
theorem importParameters_inj {strategy strategy' : String} {dryRun dryRun' : Bool}
    (h : importParameters strategy dryRun = importParameters strategy' dryRun') :
    strategy = strategy' ∧ dryRun = dryRun' := by
  obtain ⟨hstrategy, hrest⟩ := List.cons.inj h
  refine ⟨(Prod.mk.inj hstrategy).2, ?_⟩
  cases dryRun <;> cases dryRun' <;> first | rfl | cases hrest

namespace Client

open Operation (outcome)

/-- The import of an archive, or with `dryRun` the list of its changes, as a call. -/
def importing (group app : String) (archive : Bytes) (strategy : String) (dryRun : Bool) : Call :=
  if dryRun then .diff group app archive strategy else .importApp group app archive strategy

/-- Where the path of an import is cut at the last question mark. -/
theorem exists_importQuery (group app strategy : String) (dryRun : Bool) :
    ∃ front query, cutLast '?' (Route.importApp group app strategy dryRun).path.toList =
        (some front, query) ∧
      (∀ c ∈ query, isFormChar c = true) ∧
      formPairs query = importParameters strategy dryRun := by
  let route := Route.importApp group app strategy dryRun
  let query := "strategy=" ++ formEncode strategy ++ if dryRun then "&diff=true" else ""
  have hquery : route.query? = some query := rfl
  have hchars : ∀ c ∈ query.toList, isFormChar c = true := Route.query_formChars hquery
  have hmark : '?' ∉ query.toList := fun hmem => absurd (hchars '?' hmem) (by decide)
  have hpath : route.path.toList = route.segments.flatMap ('/' :: ·) ++ '?' :: query.toList := by
    rw [Route.path_toList, hquery]
    rfl
  have hcut : cutLast '?' route.path.toList = _ :=
    (congrArg (cutLast '?') hpath).trans (Url.cutLast_append hmark _)
  exact ⟨_, query.toList, hcut, hchars, formPairs_importQuery strategy dryRun⟩

theorem importing_sends {σ : Type} (transport : Transport σ) (group app : String) (archive : Bytes)
    (strategy : String) (dryRun : Bool) (x : Exchange σ) :
    x.Sends transport
      [posting (.importApp group app strategy dryRun) (Content.none.withBody archive)]
      (outcome ((importing group app archive strategy dryRun).perform transport) x).2 := by
  cases dryRun with
  | false =>
      change x.Sends transport _ (outcome (importApp transport group app archive strategy) x).2
      rw [outcome_importApp]
      exact Exchange.sends_turn transport _ x
  | true =>
      change x.Sends transport _ (outcome (diff transport group app archive strategy) x).2
      rw [outcome_diff]
      exact Exchange.sends_turn transport _ x

/-- **The query of an import survives any strategy.** Behind the last question mark of the path there are
characters of form encoding only, and they are read as the strategy and the mark of a dry run. The path of
a dry run is that of the import with its mark behind, and equal paths have the same strategy and are both
dry runs or both not. With any strategy the call sends its request. -/
theorem import_query (group app strategy : String) (dryRun : Bool) :
    let path (dryRun : Bool) := (Route.importApp group app strategy dryRun).path
    (∃ front query, cutLast '?' (path dryRun).toList = (some front, query) ∧
      (∀ c ∈ query, isFormChar c = true) ∧
      formPairs query = ("strategy", strategy) :: if dryRun then [("diff", "true")] else []) ∧
    path true = path false ++ "&diff=true" ∧
    (∀ group' app' strategy' dryRun',
      (Route.importApp group' app' strategy' dryRun').path = path dryRun →
        strategy' = strategy ∧ dryRun' = dryRun) ∧
    ∀ (σ : Type) (transport : Transport σ) (archive : Bytes) (x : Exchange σ),
      x.Sends transport [⟨.post, path dryRun, Content.none.withBody archive⟩]
        (outcome ((importing group app archive strategy dryRun).perform transport) x).2 := by
  intro path
  refine ⟨exists_importQuery group app strategy dryRun, ?_, ?_, ?_⟩
  · apply String.toList_injective
    simp [path, Route.path]
  · intro group' app' strategy' dryRun' hpath
    obtain ⟨front, query, hcut, -, hpairs⟩ := exists_importQuery group app strategy dryRun
    obtain ⟨front', query', hcut', -, hpairs'⟩ := exists_importQuery group' app' strategy' dryRun'
    rw [hpath] at hcut'
    have hquery : query' = query := (Prod.mk.inj (hcut'.symm.trans hcut)).2
    apply importParameters_inj
    rw [← hpairs', ← hpairs, hquery]
  · intro σ transport archive x
    exact importing_sends transport group app archive strategy dryRun x

end Client

end AppAdmin
