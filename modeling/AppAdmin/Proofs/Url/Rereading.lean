import AppAdmin.Proofs.Url.Shape

/-!
Reading a URL of the web again from its own text. Path, query and fragment are always read as they
were; only of the authority this has to be known, since a host may be a name that is read anew.
-/

namespace AppAdmin.Url

theorem pieces_of_unmarked {isMark : Char → Bool} {p : List Char}
    (hp : ∀ c ∈ p, isMark c = false) : pieces isMark p = [p] := by
  induction p with
  | nil => rfl
  | cons c p ih =>
      obtain ⟨hc, hp⟩ := List.forall_mem_cons.mp hp
      simp [pieces, hc, ih hp]

theorem pieces_append_mark {isMark : Char → Bool} {mark : Char} (hmark : isMark mark = true)
    (p s : List Char) : pieces isMark (p ++ mark :: s) = pieces isMark p ++ pieces isMark s := by
  induction p with
  | nil => simp [pieces, hmark]
  | cons c p ih =>
      rw [List.cons_append, pieces, pieces, ih]
      split
      · rfl
      · cases hpieces : pieces isMark p with
        | nil => exact absurd hpieces (pieces_ne_nil isMark p)
        | cons piece more => rfl

theorem pieces_append {isMark : Char → Bool} {p : List Char} {mark : Char}
    (hp : ∀ c ∈ p, isMark c = false) (hmark : isMark mark = true) (s : List Char) :
    pieces isMark (p ++ mark :: s) = p :: pieces isMark s := by
  rw [pieces_append_mark hmark, pieces_of_unmarked hp, List.singleton_append]

namespace Path

theorem pieces_of_settled {first : List Char} {rest : List (List Char)} (hfirst : Settled first)
    (hrest : ∀ s ∈ rest, Settled s) :
    pieces isAnySlash (first ++ rest.flatMap ('/' :: ·)) = first :: rest := by
  induction rest generalizing first with
  | nil => rw [List.flatMap_nil, List.append_nil, pieces_of_unmarked hfirst.unslashed]
  | cons second rest ih =>
      obtain ⟨hsecond, hrest⟩ := List.forall_mem_cons.mp hrest
      rw [List.flatMap_cons, List.cons_append, pieces_append hfirst.unslashed rfl,
        ih hsecond hrest]

theorem follow_of_settled {segments : List (List Char)} (h : ∀ s ∈ segments, Settled s)
    (done : List (List Char)) : follow done segments = done.reverse ++ segments := by
  induction segments generalizing done with
  | nil => simp [follow]
  | cons segment rest ih =>
      obtain ⟨hsegment, hrest⟩ := List.forall_mem_cons.mp h
      rw [follow, hsegment.move]
      dsimp only
      rw [ih hrest, List.reverse_cons, List.append_assoc, List.singleton_append]

theorem ofText_toText {segments : List (List Char)} (hne : segments ≠ [])
    (h : ∀ s ∈ segments, Settled s) :
    ofText isAnySlash (Path.segments segments).toText = .segments segments := by
  cases segments with
  | nil => exact absurd rfl hne
  | cons first rest =>
      obtain ⟨hfirst, hrest⟩ := List.forall_mem_cons.mp h
      have hslash : dropSlash isAnySlash ('/' :: (first ++ rest.flatMap ('/' :: ·))) =
          first ++ rest.flatMap ('/' :: ·) := rfl
      rw [toText, List.flatMap_cons, List.cons_append, ofText, hslash,
        pieces_of_settled hfirst hrest, follow_of_settled h]
      rfl

theorem toText_chars {segments : List (List Char)} (h : ∀ s ∈ segments, Settled s) {c : Char}
    (hc : c ∈ (Path.segments segments).toText) : 0x20 < c.toNat ∧ c ≠ '#' ∧ c ≠ '?' := by
  obtain ⟨segment, hsegment, hc⟩ := List.mem_flatMap.mp hc
  obtain rfl | hc := List.mem_cons.mp hc
  · decide
  · exact of_spared_path ((h segment hsegment).escaped c hc)

end Path

theorem mem_markedText {mark c : Char} {part : Option (List Char)} (hc : c ∈ markedText mark part) :
    c = mark ∨ ∃ s, part = some s ∧ c ∈ s := by
  cases part with
  | none => exact absurd hc List.not_mem_nil
  | some s =>
      obtain rfl | hc := List.mem_cons.mp hc
      · exact Or.inl rfl
      · exact Or.inr ⟨s, rfl, hc⟩

theorem map_percentEncode_of_spared {escaped : Char → Bool} {part : Option (List Char)}
    (h : ∀ s, part = some s → ∀ c ∈ s, escaped c = false) :
    part.map (percentEncode escaped) = part := by
  cases part with
  | none => rfl
  | some s => exact congrArg some (percentEncode_of_spared (h s rfl))

namespace WebShape

variable {u : Url} {a : Authority} {segments : List (List Char)}

theorem cleanEnd_tailText (h : WebShape u a segments) : cleanEnd u.tailText = u.tailText := by
  apply cleanEnd_of_kept
  intro c hc
  rw [tailText, h.path, List.mem_append, List.mem_append] at hc
  obtain (hc | hc) | hc := hc
  · exact (Path.toText_chars h.settled hc).1
  · obtain rfl | ⟨q, hq, hc⟩ := mem_markedText hc
    · decide
    · exact (of_spared_query (h.query q hq c hc)).1
  · obtain rfl | ⟨f, hf, hc⟩ := mem_markedText hc
    · decide
    · exact of_spared_fragment (h.fragment f hf c hc)

theorem hash_notMem (h : WebShape u a segments) :
    '#' ∉ u.path.toText ++ markedText '?' u.query := by
  intro hc
  rw [h.path, List.mem_append] at hc
  obtain hc | hc := hc
  · exact (Path.toText_chars h.settled hc).2.1 rfl
  · obtain hmark | ⟨q, hq, hc⟩ := mem_markedText hc
    · exact absurd hmark (by decide)
    · exact (of_spared_query (h.query q hq _ hc)).2 rfl

theorem question_notMem (h : WebShape u a segments) : '?' ∉ u.path.toText := by
  intro hc
  rw [h.path] at hc
  exact (Path.toText_chars h.settled hc).2.2 rfl

/-- Behind the authority a URL is read as it was written. -/
theorem withTail_tailText (h : WebShape u a segments) :
    withTail u.scheme (a, []) u.tailText = u := by
  have hfragment : cut '#' u.tailText = (u.path.toText ++ markedText '?' u.query, u.fragment) :=
    cut_markedText h.hash_notMem u.fragment
  have hquery := cut_markedText h.question_notMem u.query
  have hpath : Path.ofText isAnySlash u.path.toText = u.path := by
    rw [h.path, Path.ofText_toText h.segments_ne_nil h.settled]
  calc withTail u.scheme (a, []) u.tailText
      = ⟨u.scheme, some a, .ofText isAnySlash ([] ++ u.path.toText),
          u.query.map (percentEncode (escapedInQuery true)),
          u.fragment.map (percentEncode escapedInFragment)⟩ := by
        simp only [withTail, h.cleanEnd_tailText, hfragment, hquery]
    _ = ⟨u.scheme, u.authority, u.path, u.query, u.fragment⟩ := by
        rw [List.nil_append, hpath, map_percentEncode_of_spared h.query,
          map_percentEncode_of_spared h.fragment, h.authority]

/-- A URL is read again from its own text if its authority is. -/
theorem parse_text_iff (h : WebShape u a segments) :
    parse u.text = .ok u ↔ Authority.read u.scheme a.text false = .ok (a, []) := by
  refine ⟨h.read_authority, fun hread => ?_⟩
  obtain ⟨z, hz⟩ := h.exists_tailText
  rw [parse, Url.text, String.toList_ofList, h.chars_eq, hz,
    ofChars_of_authority h.scheme h.text h.text_ne_nil, hread, ← hz]
  exact congrArg Except.ok h.withTail_tailText

end WebShape

end AppAdmin.Url
