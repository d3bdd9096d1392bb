import AppAdmin.Proofs.Disposition.Precedence
import AppAdmin.Proofs.Text.Chars

/-!
Header values by the parameters that they list, and what is left of one when a parameter is taken out
of it. A header value that lists parameters is accepted exactly if it has a kind and repeats no name.
-/

namespace AppAdmin.Disposition

open Text (Blank)

/-! ### Header values and their parameters -/

/-- A header value that lists parameters: a text without a semicolon in front, which holds the kind,
then the parameters as they are written, and an end. -/
inductive Lists (entries : List (String × String)) : String → Prop
  | mk {front run tail : List Char} : (∀ c ∈ front, c ≠ ';') → Run run entries → Ending tail →
      Lists entries (String.ofList (front ++ (run ++ tail)))

/-- A header value, and the same text without one of its parameters. -/
inductive Without (entry : String × String) : List (String × String) → String → String → Prop
  | mk {front run p more tail : List Char} {before after : List (String × String)} :
      (∀ c ∈ front, c ≠ ';') → Run run before → Parameter p entry → Run more after → Ending tail →
      Without entry (before ++ after) (String.ofList (front ++ (run ++ (p ++ (more ++ tail)))))
        (String.ofList (front ++ (run ++ (more ++ tail))))

/-- A parameter as it is mostly written. -/
theorem Parameter.of_tokens (name value : List Char) (hname : Token name) (hvalue : Token value) :
    Parameter (';' :: ' ' :: (name ++ '=' :: value))
      (String.ofList (name.map Char.toLower), String.ofList value) := by
  have hblank : Blank [' '] := by decide
  exact .mk .nil hblank hname .nil .nil (.token hvalue)

/-- What stands in front of the first semicolon of some parameters is white space. -/
theorem Run.cut {run tail : List Char} {entries : List (String × String)} (h : Run run entries)
    (htail : Ending tail) : ∃ w run' tail', Blank w ∧ run ++ tail = w ++ (run' ++ tail') ∧
      Run run' entries ∧ Ending tail' ∧ (run' ++ tail' = [] ∨ ∃ more, run' ++ tail' = ';' :: more) := by
  cases h with
  | nil =>
      cases htail with
      | blank hw => exact ⟨_, [], [], hw, (List.append_nil _).symm, .nil, .blank .nil, Or.inl rfl⟩
      | semicolon h₁ h₂ =>
          exact ⟨_, [], _, h₁, rfl, .nil, .semicolon .nil h₂, Or.inr ⟨_, rfl⟩⟩
  | cons hp hrest =>
      obtain @⟨w₁, w₂, w₃, w₄, name, s, v, h₁, h₂, hn, h₃, h₄, hv⟩ := hp
      refine ⟨w₁, _, tail, h₁, ?_, .cons (.mk .nil h₂ hn h₃ h₄ hv) hrest, htail, Or.inr ⟨_, rfl⟩⟩
      simp only [List.append_assoc, List.cons_append, List.nil_append]

/-- Where a header value comes apart: the text in front holds the kind, and the parameters begin at the
first semicolon. -/
theorem parts_of_run {front run tail : List Char} {entries : List (String × String)}
    (hfront : ∀ c ∈ front, c ≠ ';') (hrun : Run run entries) (htail : Ending tail) :
    kindPart (String.ofList (front ++ (run ++ tail))) = Text.trim front ∧
      ∃ run' tail', parameterPart (String.ofList (front ++ (run ++ tail))) = run' ++ tail' ∧
        Run run' entries ∧ Ending tail' := by
  obtain ⟨w, run', tail', hw, heq, hrun', htail', hstart⟩ := hrun.cut htail
  have hmark : ';' ∉ front ++ w := by
    rw [List.mem_append, not_or]
    exact ⟨fun hc => hfront ';' hc rfl, fun hc => absurd (hw ';' hc) (by decide)⟩
  have hbefore := Text.ne_mark_of_notMem hmark
  have hstop : ∀ c ∈ (run' ++ tail').head?, (c != ';') = false := by
    rcases hstart with hnil | ⟨more, hmore⟩
    · rw [hnil]
      exact nofun
    · rw [hmore]
      rintro _ ⟨⟩
      rfl
  constructor
  · rw [kindPart, String.toList_ofList, heq, ← List.append_assoc,
      Text.takeWhile_append_stop hbefore hstop, Text.trim_append hw]
  · refine ⟨run', tail', ?_, hrun', htail'⟩
    rw [parameterPart, String.toList_ofList, heq, ← List.append_assoc,
      Text.dropWhile_append_stop hbefore hstop]

theorem Run.endsToken_append {run tail : List Char} {entries : List (String × String)}
    (h : Run run entries) (htail : Ending tail) : EndsToken (run ++ tail) := by
  cases run with
  | nil => exact htail.endsToken
  | cons c run => exact h.endsToken (List.cons_ne_nil c run) tail

/-- One text holds the same parameters however it is cut up. -/
theorem Run.unique {run run' tail tail' : List Char} {entries entries' : List (String × String)}
    (h : Run run entries) (h' : Run run' entries') (htail : Ending tail) (htail' : Ending tail')
    (heq : run ++ tail = run' ++ tail') : entries = entries' := by
  induction h generalizing run' entries' with
  | nil =>
      cases h' with
      | nil => rfl
      | cons hp hrest =>
          have hread := readParameter_append hp (.of_endsToken (hrest.endsToken_append htail'))
          rw [← List.append_assoc, ← heq, List.nil_append, htail.readParameter] at hread
          cases hread
  | cons hp hrest ih =>
      have hread := readParameter_append hp (.of_endsToken (hrest.endsToken_append htail))
      rw [← List.append_assoc, heq] at hread
      cases h' with
      | nil =>
          rw [List.nil_append, htail'.readParameter] at hread
          cases hread
      | cons hp' hrest' =>
          rw [List.append_assoc, readParameter_append hp'
            (.of_endsToken (hrest'.endsToken_append htail'))] at hread
          obtain ⟨hentry, hbehind⟩ := Prod.mk.inj (Option.some.inj hread)
          obtain ⟨hname, hvalue⟩ := Prod.mk.inj hentry
          have hfirst := Prod.ext (String.toList_injective hname) (String.toList_injective hvalue)
          rw [hfirst, ih hrest' hbehind.symm]

/-- Behind parameters of different names, others of which one has the name of an earlier one. -/
theorem Run.duplicate {run s : List Char} {front entries : List (String × String)}
    (hfront : Run run front) (hnodup : (front.map Prod.fst).Nodup) (hs : Run s entries)
    (hdup : ¬((front ++ entries).map Prod.fst).Nodup) (more : List Char) :
    ∃ name, ParameterFault (run ++ (s ++ more)) (.duplicateParameter name) := by
  -- parameters go over to the front, one at a time, up to the first with a name that is there already
  induction hs generalizing run front with
  | nil =>
      rw [List.append_nil] at hdup
      exact absurd hnodup hdup
  | @cons p t entry entries hp _ ih =>
      by_cases hmem : entry.1 ∈ front.map Prod.fst
      · rw [List.append_assoc]
        exact ⟨entry.1, .duplicate hfront hnodup hp hmem⟩
      · have hlong : Run (run ++ p) (front ++ [entry]) := by
          have happend := hfront.append (.cons hp .nil)
          rwa [List.append_nil] at happend
        have hnodup' : ((front ++ [entry]).map Prod.fst).Nodup := by
          rw [List.map_append, List.map_singleton, ← List.concat_eq_append]
          exact hnodup.concat hmem
        have hdup' : ¬((front ++ [entry] ++ entries).map Prod.fst).Nodup := by
          rwa [List.append_assoc, List.singleton_append]
        obtain ⟨name, hfault⟩ := ih hlong hnodup' hdup'
        rw [List.append_assoc] at hfault ⊢
        exact ⟨name, hfault⟩

variable {entries : List (String × String)} {header : String}

theorem Lists.parameterPart (h : Lists entries header) : ∃ run tail,
    parameterPart header = run ++ tail ∧ Run run entries ∧ Ending tail := by
  obtain ⟨hfront, hrun, htail⟩ := h
  exact (parts_of_run hfront hrun htail).2

/-- A header value lists its parameters in one way only. -/
theorem Lists.unique {entries' : List (String × String)} (h : Lists entries header)
    (h' : Lists entries' header) : entries = entries' := by
  obtain ⟨run, tail, heq, hrun, htail⟩ := h.parameterPart
  obtain ⟨run', tail', heq', hrun', htail'⟩ := h'.parameterPart
  exact hrun.unique hrun' htail htail' (heq.symm.trans heq')

/-- **Which header values are accepted**, of those that list parameters, and as what. -/
theorem Lists.parse_eq_ok_iff (h : Lists entries header) {d : Disposition} :
    parse header = .ok d ↔ IsKind (kindPart header) ∧ (entries.map Prod.fst).Nodup ∧
      d = ⟨String.ofList ((kindPart header).map Char.toLower), collect entries⟩ := by
  obtain ⟨run, tail, heq, hrun, htail⟩ := h.parameterPart
  constructor
  · intro hok
    have hkind : IsKind (kindPart header) := by
      rcases isKind_or_fault (kindPart header) with hkind | ⟨fault, hfault⟩
      · exact hkind
      · rw [parse_of_kindFault hfault] at hok
        cases hok
    have hnodup : (entries.map Prod.fst).Nodup := by
      by_contra hdup
      obtain ⟨name, hfault⟩ := Run.duplicate .nil .nil hrun hdup tail
      rw [List.nil_append, ← heq] at hfault
      rw [parse_of_parameterFault hkind hfault] at hok
      cases hok
    rw [parse_of_wellFormed hkind ⟨run, tail, heq, hrun, hnodup, htail⟩] at hok
    exact ⟨hkind, hnodup, (Except.ok.inj hok).symm⟩
  · rintro ⟨hkind, hnodup, rfl⟩
    exact parse_of_wellFormed hkind ⟨run, tail, heq, hrun, hnodup, htail⟩

/-- Every header value that is accepted lists parameters. -/
theorem exists_lists {d : Disposition} (h : parse header = .ok d) :
    ∃ entries, Lists entries header := by
  rcases parse_cases header with ⟨-, entries, run, tail, heq, hrun, -, htail⟩ | ⟨fault, hfault⟩
  · refine ⟨entries, ?_⟩
    have hfront : ∀ c ∈ header.toList.takeWhile (· != ';'), c ≠ ';' := fun c hc =>
      bne_iff_ne.mp (List.all_eq_true.mp List.all_takeWhile c hc)
    have hlists := Lists.mk hfront hrun htail
    rwa [← heq, parameterPart, List.takeWhile_append_dropWhile, String.ofList_toList] at hlists
  · have herror : parse header = .error fault := by
      rcases hfault with hfault | ⟨hkind, hfault⟩
      · exact parse_of_kindFault hfault
      · exact parse_of_parameterFault hkind hfault
    rw [herror] at h
    cases h

/-! ### One parameter less -/

variable {entry : String × String} {others : List (String × String)} {rest : String}

theorem Run.exists_split {run : List Char} (h : Run run entries) (hmem : entry ∈ entries) :
    ∃ front p more before after, run = front ++ (p ++ more) ∧ entries = before ++ entry :: after ∧
      Run front before ∧ Parameter p entry ∧ Run more after := by
  induction h with
  | nil => cases hmem
  | @cons q t first entries hq ht ih =>
      rcases List.mem_cons.mp hmem with rfl | hmem
      · exact ⟨[], q, t, [], entries, rfl, rfl, .nil, hq, ht⟩
      · obtain ⟨front, p, more, before, after, rfl, rfl, hfront, hp, hmore⟩ := ih hmem
        exact ⟨q ++ front, p, more, first :: before, after, (List.append_assoc ..).symm, rfl,
          .cons hq hfront, hp, hmore⟩

/-- Each parameter can be taken out. -/
theorem Lists.exists_without (h : Lists entries header) (hmem : entry ∈ entries) :
    ∃ others rest, Without entry others header rest := by
  obtain @⟨front, run, tail, hfront, hrun, htail⟩ := h
  obtain ⟨before, p, more, entries₁, entries₂, rfl, -, hbefore, hp, hmore⟩ := hrun.exists_split hmem
  rw [List.append_assoc, List.append_assoc]
  exact ⟨_, _, .mk hfront hbefore hp hmore htail⟩

theorem Without.lists (h : Without entry others header rest) :
    (∃ entries, entries.Perm (entry :: others) ∧ Lists entries header) ∧ Lists others rest ∧
      kindPart rest = kindPart header := by
  obtain @⟨front, run, p, more, tail, before, after, hfront, hrun, hp, hmore, htail⟩ := h
  have hall : Run (run ++ (p ++ more)) (before ++ entry :: after) := hrun.append (.cons hp hmore)
  have hleft : Run (run ++ more) (before ++ after) := hrun.append hmore
  have hlists := Lists.mk hfront hall htail
  have hlists' := Lists.mk hfront hleft htail
  have hkind := (parts_of_run hfront hall htail).1
  have hkind' := (parts_of_run hfront hleft htail).1
  simp only [List.append_assoc] at hlists hlists' hkind hkind'
  exact ⟨⟨_, List.perm_middle, hlists⟩, hlists', hkind'.trans hkind.symm⟩

/-- Without one of its parameters a header value is still accepted, with the other ones. -/
theorem Without.parse (h : Without entry others header rest) {d : Disposition}
    (hd : parse header = .ok d) : ((entry :: others).map Prod.fst).Nodup ∧
      (∃ entries, entries.Perm (entry :: others) ∧ (entries.map Prod.fst).Nodup ∧
        d.params = collect entries) ∧
      Disposition.parse rest = .ok ⟨d.kind, collect others⟩ := by
  obtain ⟨⟨entries, hperm, hlists⟩, hrest, hkind⟩ := h.lists
  obtain ⟨hkindPart, hnodup, rfl⟩ := hlists.parse_eq_ok_iff.mp hd
  have hall : ((entry :: others).map Prod.fst).Nodup := ((hperm.map Prod.fst).nodup_iff).mp hnodup
  refine ⟨hall, ⟨entries, hperm, hnodup, rfl⟩, hrest.parse_eq_ok_iff.mpr ?_⟩
  rw [hkind]
  exact ⟨hkindPart, (List.nodup_cons.mp hall).2, rfl⟩

/-- What is found under a name does not depend on a parameter that stands for another name. -/
theorem Without.param?_eq (h : Without entry others header rest) {d : Disposition}
    (hd : Disposition.parse header = .ok d) {name : String}
    (hne : (meant entry).1 ≠ Text.lowered name) :
    (Disposition.mk d.kind (collect others)).param? name = d.param? name := by
  obtain ⟨hall, ⟨entries, hperm, hnodup, hparams⟩, -⟩ := h.parse hd
  rw [param?, param?, hparams]
  apply get?_collect_congr (List.nodup_cons.mp hall).2 hnodup
  intro other hstands
  rw [hperm.mem_iff, List.mem_cons]
  constructor
  · exact Or.inr
  · rintro (rfl | hother)
    · exact absurd hstands hne
    · exact hother

end AppAdmin.Disposition
