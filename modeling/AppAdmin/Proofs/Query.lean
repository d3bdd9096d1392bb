import AppAdmin.Proofs.Route
import AppAdmin.Proofs.Url.Unescaping

/-!
Queries in form encoding. A name or value that was encoded holds neither of the marks between pairs,
and it is read back as it was, whatever text it is.
-/

namespace AppAdmin

open Url

/-! ### Reading a query -/

/-- A plus stands for a blank. -/
def blankOfPlus (c : Char) : Char := if c = '+' then ' ' else c

/-- A name or value of a query, read. -/
def formText (s : List Char) : String :=
  Text.Utf8.decodeLossy (percentDecode (Text.Utf8.octets (s.map blankOfPlus)))

/-- A pair of a query. Without an equals sign all of it is the name. -/
def formPair (piece : List Char) : String × String :=
  let (name, value) := cut '=' piece
  (formText name, formText (value.getD []))

/-- The pairs of a query in form encoding. -/
def formPairs (query : List Char) : List (String × String) :=
  ((pieces (· == '&') query).filter (· ≠ [])).map formPair

/-! ### Encoded texts -/

theorem formByte_ne_mark (b : UInt8) : '&' ∉ formByte b := by
  have all : ∀ n ∈ List.range 256, '&' ∉ formByte (UInt8.ofNat n) := by
    decide +kernel
  have hb := all b.toNat (List.mem_range.mpr b.toNat_lt)
  rwa [UInt8.ofNat_toNat] at hb

theorem formEncode_no_mark (s : String) : '&' ∉ (formEncode s).toList := by
  rw [formEncode, String.toList_ofList, List.mem_flatMap]
  rintro ⟨b, -, hb⟩
  exact formByte_ne_mark b hb

theorem unescape_cons_of_ne {c : Char} (h : c ≠ '%') (rest : List Char) :
    unescape (c :: rest) = Text.Utf8.encodeChar c ++ unescape rest :=
  unescape_plain fun hescape => h hescape.1

theorem map_blankOfPlus_percentByte (b : UInt8) :
    (percentByte b).map blankOfPlus = percentByte b := by
  have hsigns : ∀ c ∈ escapeSigns, blankOfPlus c = c := Text.forall_of_all (by decide)
  calc (percentByte b).map blankOfPlus
      = (percentByte b).map id :=
        List.map_congr_left fun c hc => hsigns c (percentByte_subset b hc)
    _ = percentByte b := List.map_id _

theorem encodeChar_ofNat {b : UInt8} (h : b.toNat < 0x80) :
    Text.Utf8.encodeChar (Char.ofNat b.toNat) = [b] := by
  have all : ∀ n ∈ List.range 0x80, Text.Utf8.encodeChar (Char.ofNat n) = [UInt8.ofNat n] := by
    decide +kernel
  rw [all b.toNat (List.mem_range.mpr h), UInt8.ofNat_toNat]

theorem toNat_of_ofNat_eq_blank {b : UInt8} (h : Char.ofNat b.toNat = ' ') : b.toNat < 0x80 := by
  have all : ∀ n ∈ List.range 256, Char.ofNat n = ' ' → n < 0x80 := by decide +kernel
  exact all b.toNat (List.mem_range.mpr b.toNat_lt) h

/-- A character that form encoding leaves alone stands for itself. -/
theorem spared_of_formByte {c : Char}
    (h : (c.isAlphanum || c == '*' || c == '-' || c == '.' || c == '_') = true) :
    blankOfPlus c = c ∧ c ≠ '%' := by
  have hroute : isRouteChar c = true := by
    simp only [Bool.or_eq_true, beq_iff_eq] at h
    obtain (((h | rfl) | rfl) | rfl) | rfl := h
    · rw [isRouteChar, h, Bool.true_or]
    all_goals decide
  exact Text.forall_ascii (P := fun c =>
    (c.isAlphanum || c == '*' || c == '-' || c == '.' || c == '_') = true →
      blankOfPlus c = c ∧ c ≠ '%') (by decide +kernel) (toNat_lt_of_isRouteChar hroute) h

/-- The encoding of a byte is read as that byte. -/
theorem unescape_formByte_append (b : UInt8) (rest : List Char) :
    unescape ((formByte b).map blankOfPlus ++ rest) = b :: unescape rest := by
  unfold formByte
  dsimp only
  split
  next h =>
      rw [Bool.and_eq_true, decide_eq_true_eq] at h
      obtain ⟨hplus, hpercent⟩ := spared_of_formByte h.2
      rw [List.map_singleton, hplus, List.singleton_append, unescape_cons_of_ne hpercent,
        encodeChar_ofNat (UInt8.lt_iff_toNat_lt.mp h.1), List.singleton_append]
  split
  next hblank =>
      have hvalue : Text.Utf8.encodeChar ' ' = [b] := by
        rw [← hblank, encodeChar_ofNat (toNat_of_ofNat_eq_blank hblank)]
      rw [List.map_singleton, List.singleton_append, show blankOfPlus '+' = ' ' from rfl,
        unescape_cons_of_ne (by decide), hvalue, List.singleton_append]
  next =>
      exact (congrArg (fun s => unescape (s ++ rest)) (map_blankOfPlus_percentByte b)).trans
        (unescape_percentByte_append b rest)

theorem unescape_flatMap_formByte (bytes : Bytes) :
    unescape ((bytes.flatMap formByte).map blankOfPlus) = bytes := by
  induction bytes with
  | nil => rfl
  | cons b bytes ih => rw [List.flatMap_cons, List.map_append, unescape_formByte_append, ih]

/-- **A text is read from its encoding as it was.** -/
theorem formText_formEncode (s : String) : formText (formEncode s).toList = s := by
  rw [formText, percentDecode_octets, formEncode, String.toList_ofList, unescape_flatMap_formByte,
    Text.Utf8.decodeLossy_encode]

/-! ### The query of a route -/

theorem formPair_of_encoded (name value : String) (hname : '=' ∉ (formEncode name).toList) :
    formPair ((formEncode name).toList ++ '=' :: (formEncode value).toList) = (name, value) := by
  have hcut := cut_markedText hname (some (formEncode value).toList)
  rw [markedText] at hcut
  simp only [formPair, hcut, Option.getD_some, formText_formEncode]

theorem unmarked_of_notMem {mark : Char} {s : List Char} (h : mark ∉ s) :
    ∀ c ∈ s, (c == mark) = false := by
  intro c hc
  rw [beq_eq_false_iff_ne]
  rintro rfl
  exact h hc

theorem formPairs_of_unmarked {piece : List Char} (hne : piece ≠ []) (h : '&' ∉ piece) :
    formPairs piece = [formPair piece] := by
  have hpieces : pieces (· == '&') piece = [piece] :=
    pieces_of_unmarked (unmarked_of_notMem h)
  simp [formPairs, hpieces, hne]

theorem formPairs_cons {piece : List Char} (hne : piece ≠ []) (h : '&' ∉ piece)
    (rest : List Char) : formPairs (piece ++ '&' :: rest) = formPair piece :: formPairs rest := by
  have hpieces : pieces (· == '&') (piece ++ '&' :: rest) = piece :: pieces (· == '&') rest :=
    pieces_append (unmarked_of_notMem h) rfl rest
  simp [formPairs, hpieces, hne]

/-- The parameters of an import. -/
def importParameters (strategy : String) (dryRun : Bool) : List (String × String) :=
  ("strategy", strategy) :: if dryRun then [("diff", "true")] else []

theorem formPairs_importQuery (strategy : String) (dryRun : Bool) :
    formPairs ("strategy=" ++ formEncode strategy ++ if dryRun then "&diff=true" else "").toList =
      importParameters strategy dryRun := by
  have hpair : formPair ("strategy=".toList ++ (formEncode strategy).toList) =
      ("strategy", strategy) := formPair_of_encoded "strategy" strategy (by decide +kernel)
  have hdiff : formPair "diff=true".toList = ("diff", "true") :=
    formPair_of_encoded "diff" "true" (by decide +kernel)
  have hmark : '&' ∉ "strategy=".toList ++ (formEncode strategy).toList := by
    rw [List.mem_append, not_or]
    exact ⟨by decide, formEncode_no_mark strategy⟩
  rw [String.toList_append, String.toList_append, importParameters]
  cases dryRun with
  | false =>
      have hquery := formPairs_of_unmarked (by simp) hmark
      rw [hpair] at hquery
      simpa using hquery
  | true =>
      have hrest : formPairs "diff=true".toList = [("diff", "true")] := by
        rw [formPairs_of_unmarked (by decide) (by decide), hdiff]
      have hquery := formPairs_cons (by simp) hmark "diff=true".toList
      rwa [hpair, hrest] at hquery

end AppAdmin
