import AppAdmin.Proofs.Disposition.Reading

/-!
The faults of a header value, each described by what stands at the first place where the value
leaves the grammar, and the outcome of parsing in terms of them.
-/

namespace AppAdmin.Disposition

/-- The text before the first semicolon, without the white space at its ends. -/
def kindPart (header : String) : List Char :=
  Text.trim (header.toList.takeWhile (· != ';'))

/-- The text from the first semicolon on. -/
def parameterPart (header : String) : List Char :=
  header.toList.dropWhile (· != ';')

/-- Parameters with different names, and behind them an end. -/
def WellFormed (s : List Char) (entries : List (String × String)) : Prop :=
  ∃ run tail, s = run ++ tail ∧ Run run entries ∧ (entries.map Prod.fst).Nodup ∧ Ending tail

/-- The faults of a kind. -/
inductive KindFault : List Char → Fault → Prop
  /-- No token stands in front. -/
  | noMediaType {s : List Char} : EndsToken s → KindFault s .noMediaType
  /-- Behind the first token stands something else than a slash. -/
  | expectedSlash {token more : List Char} {c : Char} : Token token → isTokenChar c = false →
      c ≠ '/' → KindFault (token ++ c :: more) .expectedSlash
  /-- What stands behind the slash is not a token. -/
  | expectedToken {token more : List Char} : Token token → ¬Token more →
      KindFault (token ++ '/' :: more) .expectedToken

/-- The first fault of the parameters. All that stands before it are parameters with different
names. -/
inductive ParameterFault : List Char → Fault → Prop
  /-- A parameter has the name of an earlier one. -/
  | duplicate {run p more : List Char} {entries : List (String × String)}
      {entry : String × String} : Run run entries → (entries.map Prod.fst).Nodup →
      Parameter p entry → entry.1 ∈ entries.map Prod.fst →
      ParameterFault (run ++ (p ++ more)) (.duplicateParameter entry.1)
  /-- Behind the longest run of parameters stands something else than an end. -/
  | invalid {run more : List Char} {entries : List (String × String)} : Run run entries →
      (entries.map Prod.fst).Nodup →
      (∀ other behind others, run ++ more = other ++ behind → Run other others →
        other.length ≤ run.length) →
      ¬Ending more → ParameterFault (run ++ more) .invalidParameter

/-! ### The kind -/

theorem isTokenChar_toLower (c : Char) : isTokenChar c.toLower = isTokenChar c :=
  Text.toLower_cases (P := fun c d => isTokenChar d = isTokenChar c) (fun _ => rfl) (by decide) c

theorem toLower_eq_slash_iff (c : Char) : c.toLower = '/' ↔ c = '/' :=
  Text.toLower_cases (P := fun c d => d = '/' ↔ c = '/') (fun _ => Iff.rfl) (by decide) c

theorem tokenOf_map_toLower (s : List Char) :
    tokenOf (s.map Char.toLower) = (tokenOf s).map Char.toLower := by
  rw [tokenOf, List.takeWhile_map]
  exact congrArg (fun p => (s.takeWhile p).map Char.toLower) (funext isTokenChar_toLower)

theorem afterToken_map_toLower (s : List Char) :
    afterToken (s.map Char.toLower) = (afterToken s).map Char.toLower := by
  rw [afterToken, List.dropWhile_map]
  exact congrArg (fun p => (s.dropWhile p).map Char.toLower) (funext isTokenChar_toLower)

/-- The check does not look at the case of letters. -/
theorem checkKind_map_toLower (s : List Char) : checkKind (s.map Char.toLower) = checkKind s := by
  unfold checkKind
  rw [tokenOf_map_toLower, afterToken_map_toLower]
  cases afterToken s with
  | nil => simp
  | cons c rest =>
      simp only [List.map_cons, List.map_eq_nil_iff, ne_eq, toLower_eq_slash_iff,
        tokenOf_map_toLower, afterToken_map_toLower]

theorem token_iff {s : List Char} : Token s ↔ tokenOf s ≠ [] ∧ afterToken s = [] := by
  constructor
  · intro h
    have htoken := tokenOf_append h.2 .nil
    have hafter := afterToken_append h.2 .nil
    rw [List.append_nil] at htoken hafter
    rw [htoken]
    exact ⟨h.1, hafter⟩
  · rintro ⟨hne, hnil⟩
    have hs := tokenOf_append_afterToken s
    rw [hnil, List.append_nil] at hs
    exact hs ▸ token_tokenOf hne

theorem checkKind_of_token {s : List Char} (h : Token s) : checkKind s = .ok () := by
  obtain ⟨hne, hnil⟩ := token_iff.mp h
  rw [checkKind, if_neg hne, hnil]

theorem checkKind_append {token more : List Char} {c : Char} (ht : Token token)
    (hc : isTokenChar c = false) : checkKind (token ++ c :: more) =
      if c ≠ '/' then .error .expectedSlash
      else if tokenOf more = [] ∨ afterToken more ≠ [] then .error .expectedToken
      else .ok () := by
  have hend := EndsToken.cons (s := more) hc
  rw [checkKind, tokenOf_append ht.2 hend, afterToken_append ht.2 hend, if_neg ht.1]

theorem IsKind.checkKind {s : List Char} (h : IsKind s) : checkKind s = .ok () := by
  obtain h | ⟨type, subtype, ht, hs, rfl⟩ := h
  · exact checkKind_of_token h
  · obtain ⟨hne, hnil⟩ := token_iff.mp hs
    rw [checkKind_append ht (by decide)]
    simp [hne, hnil]

theorem KindFault.checkKind {s : List Char} {fault : Fault} (h : KindFault s fault) :
    checkKind s = .error fault := by
  cases h with
  | noMediaType h => rw [Disposition.checkKind, if_pos (tokenOf_of_endsToken h)]
  | expectedSlash ht hc hslash => rw [checkKind_append ht hc, if_pos hslash]
  | @expectedToken token more ht hn =>
      have hbad : tokenOf more = [] ∨ afterToken more ≠ [] := by
        rw [token_iff, Decidable.not_and_iff_not_or_not, Decidable.not_not] at hn
        exact hn
      rw [checkKind_append ht (by decide), if_neg (by decide), if_pos hbad]

theorem isKind_or_fault (s : List Char) : IsKind s ∨ ∃ fault, KindFault s fault := by
  have hs := tokenOf_append_afterToken s
  have hend := endsToken_afterToken s
  by_cases hne : tokenOf s = []
  · rw [hne, List.nil_append] at hs
    exact .inr ⟨_, .noMediaType (hs ▸ hend)⟩
  · have ht := token_tokenOf hne
    rw [← hs]
    cases hafter : afterToken s with
    | nil => exact .inl (.inl (by rwa [List.append_nil]))
    | cons c more =>
        rw [hafter] at hend
        by_cases hslash : c = '/'
        · subst hslash
          by_cases hmore : Token more
          · exact .inl (.inr ⟨_, more, ht, hmore, rfl⟩)
          · exact .inr ⟨_, .expectedToken ht hmore⟩
        · exact .inr ⟨_, .expectedSlash ht (hend c rfl) hslash⟩

/-! ### The parameters -/

theorem WellFormed.readParameters {s : List Char} {entries : List (String × String)}
    (h : WellFormed s entries) :
    readParameters .empty .empty s = .ok (entries.foldl Read.add (.empty, .empty)) := by
  obtain ⟨run, tail, rfl, hrun, hnodup, htail⟩ := h
  have hread := readParameters_append hrun (.of_endsToken htail.endsToken) hnodup (.empty, .empty)
    (fun _ _ => Read.has_empty _)
  rw [hread, readParameters_of_none htail.readParameter, if_pos (ending_iff.mp htail)]

theorem ParameterFault.readParameters {s : List Char} {fault : Fault} (h : ParameterFault s fault) :
    readParameters .empty .empty s = .error fault := by
  cases h with
  | @duplicate run p more entries entry hrun hnodup hp hmem =>
      obtain ⟨long, behind, value, rfl, hlong, hapart⟩ := hp.extend more
      have hends : EndsToken (p ++ (long ++ behind)) := by
        obtain ⟨c, p, rfl, hc⟩ := hp.head
        exact .cons hc
      have hread := readParameters_append hrun (.of_endsToken hends) hnodup (.empty, .empty)
        (fun _ _ => Read.has_empty _)
      rw [hread, ← List.append_assoc,
        readParameters_of_some (readParameter_append hlong hapart), if_pos]
      rw [Read.has_foldl_add, decide_eq_true hmem]
      rfl
  | @invalid run more entries hrun hnodup hlongest hending =>
      -- were a token cut, or a parameter left, a longer run would stand in front
      have hapart : Apart run more := by
        obtain ⟨long, behind, others, rfl, hlong, hapart⟩ := hrun.extend more
        have hle := hlongest (run ++ long) behind others (List.append_assoc ..).symm hlong
        obtain rfl : long = [] := by
          rw [List.length_append] at hle
          exact List.eq_nil_of_length_eq_zero (by omega)
        rwa [List.append_nil] at hapart
      have hnone : readParameter more = none := by
        cases hread : readParameter more with
        | none => rfl
        | some found =>
            obtain ⟨⟨name, value⟩, behind⟩ := found
            have hlt := length_readParameter hread
            obtain ⟨p, rfl, hp, -⟩ := parameter_of_readParameter hread
            have hlong := hrun.append (.cons hp .nil)
            rw [List.append_nil] at hlong
            have hle := hlongest (run ++ p) behind _ (List.append_assoc ..).symm hlong
            rw [List.length_append] at hle hlt
            omega
      have hread := readParameters_append hrun hapart hnodup (.empty, .empty)
        (fun _ _ => Read.has_empty _)
      rw [hread, readParameters_of_none hnone, if_neg (mt ending_iff.mpr hending)]

theorem wellFormed_or_fault (s : List Char) :
    (∃ entries, WellFormed s entries) ∨ ∃ fault, ParameterFault s fault := by
  obtain ⟨run, rest, entries, rfl, hrun, hapart, hnodup, -, hstop⟩ := exists_run s []
  obtain hnone | ⟨p, more, entry, rfl, hp, -, hmem⟩ := hstop
  · by_cases hending : Ending rest
    · exact .inl ⟨entries, run, rest, rfl, hrun, hnodup, hending⟩
    · refine .inr ⟨_, .invalid hrun hnodup (fun other behind others heq hother => ?_) hending⟩
      exact hrun.length_le hapart hnone hother heq
  · exact .inr ⟨_, .duplicate hrun hnodup hp hmem⟩

/-! ### The whole value -/

/-- The parameters that a header value has in the end: a starred one that can be decoded takes the
place of the plain one. -/
def collect (entries : List (String × String)) : Parameters :=
  let read := entries.foldl Read.add (.empty, .empty)
  read.2.entries.foldl addStarred read.1

theorem parse_of_wellFormed {header : String} {entries : List (String × String)}
    (hkind : IsKind (kindPart header)) (h : WellFormed (parameterPart header) entries) :
    parse header = .ok ⟨String.ofList ((kindPart header).map Char.toLower), collect entries⟩ := by
  have hcheck := (checkKind_map_toLower (kindPart header)).trans hkind.checkKind
  have hread := h.readParameters
  simp only [kindPart, parameterPart] at hcheck hread ⊢
  simp [parse, hcheck, hread, bind, Except.bind, pure, Except.pure, collect]

theorem parse_of_kindFault {header : String} {fault : Fault}
    (h : KindFault (kindPart header) fault) : parse header = .error fault := by
  have hcheck := (checkKind_map_toLower (kindPart header)).trans h.checkKind
  simp only [kindPart] at hcheck
  simp [parse, hcheck, bind, Except.bind]

theorem parse_of_parameterFault {header : String} {fault : Fault}
    (hkind : IsKind (kindPart header)) (h : ParameterFault (parameterPart header) fault) :
    parse header = .error fault := by
  have hcheck := (checkKind_map_toLower (kindPart header)).trans hkind.checkKind
  have hread := h.readParameters
  simp only [kindPart, parameterPart] at hcheck hread
  simp [parse, hcheck, hread, bind, Except.bind]

/-- A header value is of one of three sorts, and each has its own outcome. -/
theorem parse_cases (header : String) :
    (IsKind (kindPart header) ∧ ∃ entries, WellFormed (parameterPart header) entries) ∨
    ∃ fault, KindFault (kindPart header) fault ∨
      IsKind (kindPart header) ∧ ParameterFault (parameterPart header) fault := by
  obtain hkind | ⟨fault, hfault⟩ := isKind_or_fault (kindPart header)
  · obtain hparams | ⟨fault, hfault⟩ := wellFormed_or_fault (parameterPart header)
    · exact .inl ⟨hkind, hparams⟩
    · exact .inr ⟨fault, .inr ⟨hkind, hfault⟩⟩
  · exact .inr ⟨fault, .inl hfault⟩

/-- Parsing accepts exactly the header values of the grammar that repeat no name, with the kind in
lower case; of any other value it names the first fault, where those of the kind come first. -/
theorem parse_outcome (header : String) :
    ((∃ d, parse header = .ok d) ↔
      IsKind (kindPart header) ∧ ∃ entries, WellFormed (parameterPart header) entries) ∧
    (∀ d, parse header = .ok d → d.kind = String.ofList ((kindPart header).map Char.toLower)) ∧
    ∀ fault, parse header = .error fault ↔ KindFault (kindPart header) fault ∨
      IsKind (kindPart header) ∧ ParameterFault (parameterPart header) fault := by
  have hfaulty : ∀ fault, (KindFault (kindPart header) fault ∨
      IsKind (kindPart header) ∧ ParameterFault (parameterPart header) fault) →
      parse header = .error fault := by
    rintro fault (h | ⟨hkind, h⟩)
    · exact parse_of_kindFault h
    · exact parse_of_parameterFault hkind h
  obtain ⟨hkind, entries, hparams⟩ | ⟨fault, hfault⟩ := parse_cases header
  · have hok := parse_of_wellFormed hkind hparams
    refine ⟨⟨fun _ => ⟨hkind, entries, hparams⟩, fun _ => ⟨_, hok⟩⟩, fun d hd => ?_,
      fun fault => ⟨fun herror => ?_, hfaulty fault⟩⟩
    · rw [hok] at hd
      cases hd
      rfl
    · rw [hok] at herror
      cases herror
  · have herror := hfaulty fault hfault
    refine ⟨⟨fun ⟨d, hd⟩ => ?_, fun ⟨hkind, entries, hparams⟩ => ?_⟩, fun d hd => ?_,
      fun other => ⟨fun hother => ?_, hfaulty other⟩⟩
    · rw [herror] at hd
      cases hd
    · exact ⟨_, parse_of_wellFormed hkind hparams⟩
    · rw [herror] at hd
      cases hd
    · rw [herror] at hother
      cases hother
      exact hfault

end AppAdmin.Disposition
