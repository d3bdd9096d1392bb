import AppAdmin.Proofs.Url.Rereading
import AppAdmin.Proofs.Url.Unescaping

/-!
How a path is read from a text that may hold anything. The path is what stands in front of all marks,
and no text adds more bytes to it than it has; it adds as many only if every piece of it is kept as
a segment that says that piece.
-/

namespace AppAdmin.Url

open Text.Utf8 (octets octets_cons)

/-! ### The text of a path -/

/-- Whether a character is left inside a URL. -/
def isKept (c : Char) : Bool := c != '\t' && c != '\n' && c != '\r'

/-- Whether a character belongs to the path if it stands in front of all marks. -/
def isPathChar (c : Char) : Bool := c != '?' && c != '#'

/-- The text of the path at the beginning of a text. -/
def pathPart (s : List Char) : List Char := (s.filter isKept).takeWhile isPathChar

theorem pathPart_cons (c : Char) (s : List Char) : pathPart (c :: s) =
    if isKept c then if isPathChar c then c :: pathPart s else [] else pathPart s := by
  rw [pathPart, List.filter_cons]
  split
  · rw [List.takeWhile_cons]
    split <;> rfl
  · rfl

theorem pathPart_append_of_kept {s : List Char} (h : ∀ c ∈ s, isKept c = true ∧ isPathChar c = true)
    (t : List Char) : pathPart (s ++ t) = s ++ pathPart t := by
  induction s with
  | nil => rfl
  | cons c s ih =>
      obtain ⟨⟨hkept, hpath⟩, hs⟩ := List.forall_mem_cons.mp h
      rw [List.cons_append, pathPart_cons, if_pos hkept, if_pos hpath, ih hs, List.cons_append]

theorem pathPart_of_kept {s : List Char} (h : ∀ c ∈ s, isKept c = true ∧ isPathChar c = true) :
    pathPart s = s := by
  have happend := pathPart_append_of_kept h []
  rwa [List.append_nil, show pathPart [] = [] from rfl, List.append_nil] at happend

/-- A query is no part of the path. -/
theorem pathPart_markedText (s : List Char) (query : Option (List Char)) :
    pathPart (s ++ markedText '?' query) = pathPart s := by
  induction s with
  | nil =>
      cases query with
      | none => rfl
      | some q =>
          rw [List.nil_append, markedText, pathPart_cons]
          rfl
  | cons c s ih => rw [List.cons_append, pathPart_cons, pathPart_cons, ih]

theorem cut_fst (mark : Char) (s : List Char) : (cut mark s).1 = s.takeWhile (· != mark) := by
  rw [cut]
  split <;> rfl

/-- Only the end of a text is trimmed. -/
theorem cleanEnd_eq_filter (s : List Char) {t : List Char} (hne : t ≠ [])
    (ht : ∀ c ∈ t, 0x20 < c.toNat) : cleanEnd (s ++ t) = (s ++ t).filter isKept := by
  obtain ⟨t, last, rfl⟩ := (List.eq_nil_or_concat t).resolve_left hne
  have hlast : isDropped last = false := by
    simpa [isDropped] using ht last (by simp)
  have htrim := rdropWhile_append hlast (s ++ t) []
  rw [List.concat_eq_append, ← List.append_assoc, cleanEnd, htrim]
  rfl

/-- The path of a URL is read from the text in front of all marks. -/
theorem withTail_path (scheme : List Char) (a : Authority) (s : List Char) {t : List Char}
    (hne : t ≠ []) (ht : ∀ c ∈ t, 0x20 < c.toNat) :
    (withTail scheme (a, []) (s ++ t)).path = .ofText isAnySlash (pathPart (s ++ t)) := by
  have hmarks : (fun c => decide ((c != '?') = true ∧ (c != '#') = true)) = isPathChar :=
    funext fun c => by rw [isPathChar, Bool.decide_and, Bool.decide_eq_true, Bool.decide_eq_true]
  have hcut : (cut '?' (cut '#' (cleanEnd (s ++ t))).1).1 = pathPart (s ++ t) := by
    rw [cut_fst, cut_fst, List.takeWhile_takeWhile, hmarks, cleanEnd_eq_filter s hne ht, pathPart]
  exact congrArg (Path.ofText isAnySlash) hcut

/-- A query is read as it was written if no mark stands in front of it. -/
theorem withTail_query (scheme : List Char) (a : Authority) {s t p : List Char}
    {query : Option (List Char)} (hne : t ≠ []) (ht : ∀ c ∈ t, 0x20 < c.toNat)
    (hsplit : s ++ t = p ++ markedText '?' query)
    (hp : ∀ c ∈ p, isKept c = true ∧ isPathChar c = true)
    (hquery : ∀ q, query = some q → ∀ c ∈ q, escapedInQuery true c = false) :
    (withTail scheme (a, []) (s ++ t)).query = query := by
  have hmarked : ∀ c ∈ markedText '?' query, isKept c = true ∧ c ≠ '#' := by
    intro c hc
    obtain rfl | ⟨q, hq, hc⟩ := mem_markedText hc
    · decide
    · obtain ⟨hlt, hhash⟩ := of_spared_query (hquery q hq c hc)
      exact ⟨keeps_of_not_dropped hlt, hhash⟩
  have hmarks {c : Char} (hc : c ∈ p) : c ≠ '?' ∧ c ≠ '#' := by
    simpa [isPathChar] using (hp c hc).2
  have hclean : cleanEnd (s ++ t) = p ++ markedText '?' query := by
    rw [cleanEnd_eq_filter s hne ht, hsplit, List.filter_eq_self, List.forall_mem_append]
    exact ⟨fun c hc => (hp c hc).1, fun c hc => (hmarked c hc).1⟩
  have hhash : '#' ∉ p ++ markedText '?' query := by
    rw [List.mem_append, not_or]
    exact ⟨fun hc => (hmarks hc).2 rfl, fun hc => (hmarked _ hc).2 rfl⟩
  have hfragment := cut_markedText hhash none
  rw [markedText, List.append_nil] at hfragment
  have hcut := cut_markedText (fun hc => (hmarks hc).1 rfl : '?' ∉ p) query
  simp only [withTail, hclean, hfragment, hcut]
  exact map_percentEncode_of_spared hquery

namespace Path

/-! ### Segments behind others -/

theorem Settled.percentEncode_eq {segment : List Char} (h : Settled segment) :
    percentEncode escapedInPath segment = segment :=
  (Move.of_eq_into_iff.mp h.move).2.2

theorem pieces_of_settled_append {first : List Char} {rest : List (List Char)}
    (hfirst : Settled first) (hrest : ∀ s ∈ rest, Settled s) (more : List Char) :
    pieces isAnySlash (first ++ rest.flatMap ('/' :: ·) ++ '/' :: more) =
      first :: rest ++ pieces isAnySlash more := by
  induction rest generalizing first with
  | nil =>
      rw [List.flatMap_nil, List.append_nil, pieces_append hfirst.unslashed rfl]
      rfl
  | cons second rest ih =>
      obtain ⟨hsecond, hrest⟩ := List.forall_mem_cons.mp hrest
      rw [List.flatMap_cons, List.append_assoc, List.cons_append, List.cons_append,
        pieces_append hfirst.unslashed rfl, ih hsecond hrest]
      rfl

theorem follow_settled_append {segments : List (List Char)} (h : ∀ s ∈ segments, Settled s)
    (done more : List (List Char)) :
    follow done (segments ++ more) = follow (segments.reverse ++ done) more := by
  induction segments generalizing done with
  | nil => rfl
  | cons segment rest ih =>
      obtain ⟨hsegment, hrest⟩ := List.forall_mem_cons.mp h
      rw [List.cons_append, follow, hsegment.move]
      dsimp only
      rw [ih hrest, List.reverse_cons, List.append_assoc, List.singleton_append]

/-- Behind settled segments a path goes on with the pieces of what follows. -/
theorem ofText_settled_append {segments : List (List Char)} (hne : segments ≠ [])
    (h : ∀ s ∈ segments, Settled s) (more : List Char) :
    ofText isAnySlash (segments.flatMap ('/' :: ·) ++ '/' :: more) =
      .segments (follow segments.reverse (pieces isAnySlash more)) := by
  cases segments with
  | nil => exact absurd rfl hne
  | cons first rest =>
      obtain ⟨hfirst, hrest⟩ := List.forall_mem_cons.mp h
      have hslash (s : List Char) : dropSlash isAnySlash ('/' :: s) = s := rfl
      rw [List.flatMap_cons, List.cons_append, List.cons_append, ofText, hslash,
        pieces_of_settled_append hfirst hrest, follow_settled_append h, List.append_nil]

theorem follow_of_into {segments : List (List Char)}
    (h : ∀ s ∈ segments, Move.of s = .into (percentEncode escapedInPath s))
    (done : List (List Char)) :
    follow done segments = done.reverse ++ segments.map (percentEncode escapedInPath) := by
  induction segments generalizing done with
  | nil => simp [follow]
  | cons segment rest ih =>
      obtain ⟨hsegment, hrest⟩ := List.forall_mem_cons.mp h
      rw [follow, hsegment]
      dsimp only
      rw [ih hrest, List.reverse_cons, List.append_assoc, List.singleton_append, List.map_cons]

/-! ### Counting bytes -/

/-- How many bytes segments say. -/
def weight (segments : List (List Char)) : Nat := (segments.flatMap unescape).length

/-- How many bytes a piece adds to what a path says. -/
def gain (piece : List Char) : Nat :=
  match Move.of piece with
  | .into segment => (unescape segment).length
  | _ => 0

/-- How many bytes pieces add at most. -/
def gains : List (List Char) → Nat
  | [] => 0
  | piece :: rest => gain piece + gains rest

theorem weight_cons (s : List Char) (segments : List (List Char)) :
    weight (s :: segments) = (unescape s).length + weight segments := by
  rw [weight, List.flatMap_cons, List.length_append, weight]

theorem weight_append (before after : List (List Char)) :
    weight (before ++ after) = weight before + weight after := by
  rw [weight, List.flatMap_append, List.length_append, weight, weight]

theorem weight_reverse (segments : List (List Char)) : weight segments.reverse = weight segments := by
  induction segments with
  | nil => rfl
  | cons s segments ih =>
      rw [List.reverse_cons, weight_append, ih, weight_cons, weight_cons, show weight [] = 0 from rfl]
      omega

theorem weight_leave_le (done : List (List Char)) : weight (leave done) ≤ weight done := by
  cases done with
  | nil => exact Nat.le_refl _
  | cons last before =>
      rw [leave]
      split
      · exact Nat.le_refl _
      · rw [weight_cons]
        omega

theorem weight_follow_le (done segments : List (List Char)) :
    weight (follow done segments) ≤ weight done + gains segments := by
  induction segments generalizing done with
  | nil => simp [follow, weight_reverse]
  | cons segment rest ih =>
      have hleave := weight_leave_le done
      rw [follow, gains]
      refine (ih _).trans ?_
      have hempty (segments : List (List Char)) : weight ([] :: segments) = weight segments :=
        rfl
      cases hmove : Move.of segment with
      | stay =>
          dsimp only
          split
          · rw [hempty]
            omega
          · omega
      | up =>
          dsimp only
          split
          · rw [hempty]
            omega
          · omega
      | into t =>
          simp only [weight_cons, gain, hmove]
          omega

theorem gain_le (piece : List Char) : gain piece ≤ (octets piece).length := by
  rw [gain]
  split
  next segment hmove =>
      obtain ⟨-, -, rfl⟩ := Move.of_eq_into_iff.mp hmove
      rw [unescape_percentEncode]
      exact length_unescape_le piece
  next => exact Nat.zero_le _

theorem gains_le (pieces : List (List Char)) : gains pieces ≤ (pieces.flatMap octets).length := by
  induction pieces with
  | nil => exact Nat.le_refl _
  | cons piece rest ih =>
      have hpiece := gain_le piece
      rw [gains, List.flatMap_cons, List.length_append]
      omega

/-- A piece that adds as many bytes as it has is kept as a segment that says it. -/
theorem of_gain_eq {piece : List Char} (h : gain piece = (octets piece).length) :
    Move.of piece = .into (percentEncode escapedInPath piece) ∧ unescape piece = octets piece := by
  rw [gain] at h
  split at h
  next segment hmove =>
      obtain ⟨-, -, rfl⟩ := Move.of_eq_into_iff.mp hmove
      rw [unescape_percentEncode, ← unescape_eq_octets_iff] at h
      exact ⟨hmove, h⟩
  next hno =>
      cases piece with
      | nil => exact absurd rfl (hno [])
      | cons c rest =>
          have hpos := Text.Utf8.encodeChar_pos c
          rw [octets_cons, List.length_append] at h
          omega

end Path

/-- How many bytes a text has besides its slashes. -/
def bulk (s : List Char) : Nat := (octets (s.filter (!isAnySlash ·))).length

theorem bulk_cons_slash {c : Char} (h : isAnySlash c = true) (s : List Char) :
    bulk (c :: s) = bulk s := by
  rw [bulk, List.filter_cons_of_neg (by simp [h]), bulk]

theorem bulk_cons {c : Char} (h : isAnySlash c = false) (s : List Char) :
    bulk (c :: s) = (Text.Utf8.encodeChar c).length + bulk s := by
  rw [bulk, List.filter_cons_of_pos (by simp [h]), octets_cons, List.length_append, bulk]

theorem bulk_append (s t : List Char) : bulk (s ++ t) = bulk s + bulk t := by
  rw [bulk, List.filter_append, Text.Utf8.octets_append, List.length_append, bulk, bulk]

theorem bulk_le (s : List Char) : bulk s ≤ (octets s).length := by
  induction s with
  | nil => exact Nat.le_refl _
  | cons c s ih =>
      rw [octets_cons, List.length_append]
      cases hc : isAnySlash c with
      | true =>
          rw [bulk_cons_slash hc]
          omega
      | false =>
          rw [bulk_cons hc]
          omega

theorem unslashed_of_bulk_eq {s : List Char} (h : bulk s = (octets s).length) :
    ∀ c ∈ s, isAnySlash c = false := by
  induction s with
  | nil => simp
  | cons c s ih =>
      have hle := bulk_le s
      have hpos := Text.Utf8.encodeChar_pos c
      rw [octets_cons, List.length_append] at h
      cases hc : isAnySlash c with
      | true =>
          rw [bulk_cons_slash hc] at h
          omega
      | false =>
          rw [bulk_cons hc] at h
          exact List.forall_mem_cons.mpr ⟨hc, ih (by omega)⟩

theorem bulk_pathPart_le (s : List Char) : bulk (pathPart s) ≤ bulk s := by
  induction s with
  | nil => exact Nat.le_refl _
  | cons c s ih =>
      have hcons : bulk s ≤ bulk (c :: s) := by
        cases hc : isAnySlash c with
        | true => rw [bulk_cons_slash hc]
        | false =>
            rw [bulk_cons hc]
            omega
      rw [pathPart_cons]
      split
      · split
        · cases hc : isAnySlash c with
          | true => rwa [bulk_cons_slash hc, bulk_cons_slash hc]
          | false =>
              rw [bulk_cons hc, bulk_cons hc]
              omega
        · exact Nat.zero_le _
      · exact ih.trans hcons

/-- A text that gives all its bytes to the path has no marks. -/
theorem kept_of_bulk_eq {s : List Char} (h : bulk (pathPart s) = bulk s) :
    ∀ c ∈ s, isKept c = true ∧ isPathChar c = true := by
  induction s with
  | nil => simp
  | cons c s ih =>
      have hle := bulk_pathPart_le s
      have hpos := Text.Utf8.encodeChar_pos c
      have hslash : isAnySlash c = true → isKept c = true ∧ isPathChar c = true := by
        intro hc
        rw [isAnySlash, Bool.or_eq_true, beq_iff_eq, beq_iff_eq] at hc
        obtain rfl | rfl := hc <;> decide
      rw [pathPart_cons] at h
      cases hc : isAnySlash c with
      | true =>
          obtain ⟨hkept, hpath⟩ := hslash hc
          rw [if_pos hkept, if_pos hpath, bulk_cons_slash hc, bulk_cons_slash hc] at h
          exact List.forall_mem_cons.mpr ⟨⟨hkept, hpath⟩, ih h⟩
      | false =>
          rw [bulk_cons hc] at h
          split at h
          next hkept =>
              split at h
              next hpath =>
                  rw [bulk_cons hc] at h
                  exact List.forall_mem_cons.mpr ⟨⟨hkept, hpath⟩, ih (by omega)⟩
              next =>
                  rw [show bulk [] = 0 from rfl] at h
                  omega
          next => omega

/-- The pieces of a text have all its bytes but the slashes. -/
theorem flatMap_octets_pieces (s : List Char) :
    (pieces isAnySlash s).flatMap octets = octets (s.filter (!isAnySlash ·)) := by
  induction s with
  | nil => rfl
  | cons c s ih =>
      rw [pieces]
      split
      next hc =>
          rw [List.flatMap_cons, ih, List.filter_cons_of_neg (by simp [hc])]
          rfl
      next hc =>
          rw [List.filter_cons_of_pos (by simp [hc]), octets_cons, ← ih]
          cases hpieces : pieces isAnySlash s with
          | nil => exact absurd hpieces (pieces_ne_nil isAnySlash s)
          | cons piece more =>
              rw [List.flatMap_cons, List.flatMap_cons, octets_cons, List.append_assoc]

theorem gains_pieces_le (s : List Char) : Path.gains (pieces isAnySlash s) ≤ bulk s := by
  have hle := Path.gains_le (pieces isAnySlash s)
  rwa [flatMap_octets_pieces] at hle

end AppAdmin.Url
