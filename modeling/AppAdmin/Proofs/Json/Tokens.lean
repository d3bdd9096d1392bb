import AppAdmin.Json.Reader
import AppAdmin.Json.Skip
import AppAdmin.Proofs.Except
import AppAdmin.Proofs.Json.Grammar
import AppAdmin.Proofs.Json.Texts
import AppAdmin.Proofs.Text.Chars

/-!
The smallest parts of a JSON text, taken from the front of what the grammar writes. A reader of
texts takes exactly the spellings that are well-formed; whoever passes over a text or a number takes
any spelling and any numeral.
-/

namespace AppAdmin.Json

open Text.Utf8 (encodeChar encodeChar_ne_nil octets octets_cons)

/-! ### Blanks and ends -/

theorem skipBlank_cons {x : UInt8} (hx : isBlank x = false) (s : Bytes) :
    skipBlank (x :: s) = x :: s :=
  List.dropWhile_cons_of_neg (by simp [hx])

theorem skipBlank_blanks (gap : Blanks) (s : Bytes) : skipBlank (gap.bytes ++ s) = skipBlank s :=
  List.dropWhile_append_of_pos gap.blank

/-- What may stand behind a value: blanks, a comma, a closing bracket, or nothing. -/
def Ended (rest : Bytes) : Prop :=
  ∀ b ∈ rest.head?, isBlank b = true ∨ b = 0x2C ∨ b = 0x5D ∨ b = 0x7D

theorem Ended.nil : Ended [] := nofun

theorem Ended.blanks {rest : Bytes} (gap : Blanks) (h : Ended rest) :
    Ended (gap.bytes ++ rest) := by
  intro b hb
  cases hgap : gap.bytes with
  | nil =>
      rw [hgap] at hb
      exact h b hb
  | cons c bytes =>
      have hmem : b ∈ gap.bytes := by
        rw [hgap] at hb ⊢
        cases hb
        exact List.mem_cons_self
      exact .inl (gap.blank b hmem)

theorem ended_cons {b : UInt8} (h : b = 0x2C ∨ b = 0x5D ∨ b = 0x7D) (rest : Bytes) :
    Ended (b :: rest) := by
  intro c hc
  cases hc
  exact .inr h

theorem Items.ended (items : Items) (rest : Bytes) : Ended (items.bytes false ++ rest) := by
  cases items with
  | close gap =>
      rw [Items.bytes, List.append_assoc]
      exact .blanks gap (ended_cons (by decide) rest)
  | item gap lead value items =>
      rw [Items.bytes, List.append_assoc]
      exact .blanks gap (ended_cons (by decide) _)

theorem Members.ended (members : Members) (rest : Bytes) :
    Ended (members.bytes false ++ rest) := by
  cases members with
  | close gap =>
      rw [Members.bytes, List.append_assoc]
      exact .blanks gap (ended_cons (by decide) rest)
  | member gap lead name colon space value members =>
      rw [Members.bytes, List.append_assoc]
      exact .blanks gap (ended_cons (by decide) _)

/-! ### Turns -/

namespace Blanks

variable (gap lead : Blanks) (first : Bool) (s : Bytes)

theorem nextItem_close : nextItem first (gap.bytes ++ 0x5D :: s) = .ok (.close s) := by
  rw [nextItem, skipBlank_blanks, skipBlank_cons rfl]
  rfl

theorem nextItem_item {b : UInt8} (hblank : isBlank b = false) (hclose : b ≠ 0x5D) :
    nextItem first (gap.bytes ++ (commaBytes first ++ (lead.bytes ++ b :: s))) =
      .ok (.item (b :: s)) := by
  have hskip : skipBlank (lead.bytes ++ b :: s) = b :: s := by
    rw [skipBlank_blanks, skipBlank_cons hblank]
  cases first with
  | true =>
      rw [commaBytes, if_pos rfl, List.nil_append, nextItem, skipBlank_blanks, hskip]
      simp [hclose]
  | false =>
      rw [commaBytes, if_neg Bool.false_ne_true, List.singleton_append, nextItem, skipBlank_blanks,
        skipBlank_cons rfl]
      simp [hskip, hclose]

theorem nextMember_close : nextMember first (gap.bytes ++ 0x7D :: s) = .ok (.close s) := by
  rw [nextMember, skipBlank_blanks, skipBlank_cons rfl]
  rfl

theorem nextMember_item :
    nextMember first (gap.bytes ++ (commaBytes first ++ (lead.bytes ++ 0x22 :: s))) =
      .ok (.item s) := by
  have hskip : skipBlank (lead.bytes ++ 0x22 :: s) = 0x22 :: s := by
    rw [skipBlank_blanks, skipBlank_cons rfl]
  cases first with
  | true =>
      rw [commaBytes, if_pos rfl, List.nil_append, nextMember, skipBlank_blanks, hskip]
      rfl
  | false =>
      rw [commaBytes, if_neg Bool.false_ne_true, List.singleton_append, nextMember, skipBlank_blanks,
        skipBlank_cons rfl]
      simp [hskip]

theorem readColon : readColon (gap.bytes ++ 0x3A :: s) = .ok s := by
  rw [Json.readColon, skipBlank_blanks, skipBlank_cons rfl]
  rfl

end Blanks

/-! ### Texts -/

theorem hexDigit?_sign (d : HexDigit) :
    Text.hexDigit? (Char.ofNat d.sign.toNat) = some d.value.val := by
  have all : ∀ value : Fin 16, ∀ capital : Bool,
      Text.hexDigit? (Char.ofNat (HexDigit.mk value capital).sign.toNat) = some value.val := by
    decide
  exact all d.value d.capital

theorem hexUnit?_sign (d₁ d₂ d₃ d₄ : HexDigit) :
    hexUnit? d₁.sign d₂.sign d₃.sign d₄.sign = some (unitOf d₁ d₂ d₃ d₄) := by
  simp only [hexUnit?, hexDigit?_sign]
  rfl

theorem Letter.simpleEscape?_sign (l : Letter) :
    l.sign ≠ 0x75 ∧ ∃ b, simpleEscape? l.sign = some b ∧ encodeChar l.char = [b] := by
  cases l <;> exact ⟨by decide, _, rfl, by decide⟩

theorem plain_bytes {c : Char} (h : Unescaped c) :
    ∀ b ∈ encodeChar c, b ≠ 0x22 ∧ b ≠ 0x5C ∧ 0x20 ≤ b.toNat :=
  plain_of_mem_encodeChar h.quote h.backslash h.control

/-- Whoever passes over a text finds its end, whatever is spelled. -/
theorem skipText_spelling (s : Spelling) (rest : Bytes) :
    skipText (Spelling.bytes s ++ 0x22 :: rest) = .ok rest := by
  induction s with
  | nil =>
      rw [Spelling.bytes, List.flatMap_nil, List.nil_append, skipText.eq_def]
      rfl
  | cons glyph s ih =>
      rw [Spelling.bytes, List.flatMap_cons, ← Spelling.bytes, List.append_assoc]
      cases glyph with
      | plain c unescaped =>
          have hplain := plain_bytes unescaped
          rw [Glyph.bytes]
          generalize encodeChar c = bytes at hplain
          induction bytes with
          | nil => exact ih
          | cons b bytes hbytes =>
              obtain ⟨⟨hquote, hslash, hcontrol⟩, hplain⟩ := List.forall_mem_cons.mp hplain
              have hlow : ¬b < 0x20 := by
                rw [UInt8.lt_iff_toNat_lt]
                exact Nat.not_lt.mpr hcontrol
              rw [List.cons_append, skipText.eq_def]
              dsimp only
              rw [if_neg hquote, if_neg hslash, if_neg hlow]
              exact hbytes hplain
      | letter l =>
          obtain ⟨hsign, b, hescape, -⟩ := l.simpleEscape?_sign
          simp only [Glyph.bytes, List.cons_append, List.nil_append]
          rw [skipText.eq_def]
          dsimp only
          rw [if_neg (by decide), if_pos rfl, if_neg hsign, hescape]
          exact ih
      | unit d₁ d₂ d₃ d₄ =>
          simp only [Glyph.bytes, List.cons_append, List.nil_append]
          rw [skipText.eq_def]
          dsimp only
          rw [if_neg (by decide), if_pos rfl, if_pos rfl, hexUnit?_sign]
          exact ih

theorem bytes_cons (glyph : Glyph) (s : Spelling) (rest : Bytes) :
    Spelling.bytes (glyph :: s) ++ rest = glyph.bytes ++ (s.bytes ++ rest) := by
  rw [Spelling.bytes, List.flatMap_cons, List.append_assoc, ← Spelling.bytes]

theorem isTrailing_of_isLeading {n : Nat} (h : isLeading n = true) : isTrailing n = false := by
  simp only [isLeading, Bool.and_eq_true, decide_eq_true_eq] at h
  simp only [isTrailing, Bool.and_eq_false_iff, decide_eq_false_iff_not]
  omega

section Units

variable {d₁ d₂ d₃ d₄ e₁ e₂ e₃ e₄ : HexDigit} (acc rest : Bytes)

theorem readTextFrom_trailing (h : isTrailing (unitOf d₁ d₂ d₃ d₄) = true) :
    (readTextFrom acc ((Glyph.unit d₁ d₂ d₃ d₄).bytes ++ rest)).toOption = none := by
  simp only [Glyph.bytes, List.cons_append, List.nil_append]
  rw [readTextFrom.eq_def]
  dsimp only
  rw [if_neg (by decide), if_pos rfl, if_pos rfl, hexUnit?_sign]
  simp only [h]
  rfl

theorem readTextFrom_unit (ht : isTrailing (unitOf d₁ d₂ d₃ d₄) = false)
    (hl : isLeading (unitOf d₁ d₂ d₃ d₄) = false) :
    readTextFrom acc ((Glyph.unit d₁ d₂ d₃ d₄).bytes ++ rest) =
      readTextFrom ((encodeChar (Char.ofNat (unitOf d₁ d₂ d₃ d₄))).reverse ++ acc) rest := by
  simp only [Glyph.bytes, List.cons_append, List.nil_append]
  rw [readTextFrom.eq_def]
  dsimp only
  rw [if_neg (by decide), if_pos rfl, if_pos rfl, hexUnit?_sign]
  simp only [ht, hl]
  rfl

/-- Behind the leading half of a pair there must be digits. -/
theorem readTextFrom_leading (h : isLeading (unitOf d₁ d₂ d₃ d₄) = true)
    (hrest : ∀ more, rest ≠ 0x5C :: 0x75 :: more) :
    (readTextFrom acc ((Glyph.unit d₁ d₂ d₃ d₄).bytes ++ rest)).toOption = none := by
  simp only [Glyph.bytes, List.cons_append, List.nil_append]
  rw [readTextFrom.eq_def]
  dsimp only
  rw [if_neg (by decide), if_pos rfl, if_pos rfl, hexUnit?_sign]
  simp only [isTrailing_of_isLeading h, h]
  cases rest with
  | nil => rfl
  | cons a rest =>
      by_cases ha : a = 0x5C
      · cases rest with
        | nil => simp [ha]
        | cons b more =>
            have hb : b ≠ 0x75 := fun hb => hrest more (by rw [ha, hb])
            simp [ha, hb]
      · simp [ha]

theorem readTextFrom_pair (h : isLeading (unitOf d₁ d₂ d₃ d₄) = true) :
    (readTextFrom acc ((Glyph.unit d₁ d₂ d₃ d₄).bytes ++
        ((Glyph.unit e₁ e₂ e₃ e₄).bytes ++ rest))).toOption =
      if isTrailing (unitOf e₁ e₂ e₃ e₄) then
        (readTextFrom
          ((encodeChar (pairOf (unitOf d₁ d₂ d₃ d₄) (unitOf e₁ e₂ e₃ e₄))).reverse ++ acc)
          rest).toOption
      else none := by
  simp only [Glyph.bytes, List.cons_append, List.nil_append]
  rw [readTextFrom.eq_def]
  dsimp only
  rw [if_neg (by decide), if_pos rfl, if_pos rfl, hexUnit?_sign]
  simp only [isTrailing_of_isLeading h, h, hexUnit?_sign]
  by_cases ht : isTrailing (unitOf e₁ e₂ e₃ e₄) = true
  · simp [ht, pushCodePoint, pairOf]
  · simp [ht, Except.toOption]

end Units

/-- A reader takes the characters of a spelling, or nothing if these are not well-formed. The second
part is about a spelling behind the leading half of a pair. -/
theorem readTextFrom_spelling (s : Spelling) (acc rest : Bytes) :
    (readTextFrom acc (Spelling.bytes s ++ 0x22 :: rest)).toOption =
        (Spelling.charsFrom none s).map (fun cs => (acc.reverse ++ octets cs, rest)) ∧
      ∀ d₁ d₂ d₃ d₄, isLeading (unitOf d₁ d₂ d₃ d₄) = true →
        (readTextFrom acc
            ((Glyph.unit d₁ d₂ d₃ d₄).bytes ++ (Spelling.bytes s ++ 0x22 :: rest))).toOption =
          (Spelling.charsFrom (some (unitOf d₁ d₂ d₃ d₄)) s).map
            fun cs => (acc.reverse ++ octets cs, rest) := by
  induction s generalizing acc with
  | nil =>
      constructor
      · rw [Spelling.bytes, List.flatMap_nil, List.nil_append, readTextFrom.eq_def]
        simp [Spelling.charsFrom, octets, Except.toOption]
      · intro d₁ d₂ d₃ d₄ h
        refine readTextFrom_leading acc _ h fun more heq => ?_
        cases (List.cons.inj heq).1
  | cons glyph s ih =>
      have hkeep (c : Char) :
          (readTextFrom ((encodeChar c).reverse ++ acc) (Spelling.bytes s ++ 0x22 :: rest)).toOption =
            ((Spelling.charsFrom none s).map (c :: ·)).map
              fun cs => (acc.reverse ++ octets cs, rest) := by
        rw [(ih _).1, Option.map_map]
        simp [Function.comp_def, octets_cons]
      simp only [bytes_cons]
      cases glyph with
      | plain c unescaped =>
          have hplain := plain_bytes unescaped
          constructor
          · rw [Glyph.bytes, readTextFrom_plain hplain]
            exact hkeep c
          · intro d₁ d₂ d₃ d₄ h
            refine readTextFrom_leading acc _ h fun more heq => ?_
            obtain ⟨b, bytes, hbytes⟩ := List.exists_cons_of_ne_nil (encodeChar_ne_nil c)
            rw [Glyph.bytes, hbytes] at heq
            exact (hplain b (by rw [hbytes]; exact List.mem_cons_self)).2.1 (List.cons.inj heq).1
      | letter l =>
          obtain ⟨hsign, b, hescape, hchar⟩ := l.simpleEscape?_sign
          constructor
          · have hletter := readTextFrom_letter hsign hescape acc (Spelling.bytes s ++ 0x22 :: rest)
            rw [Glyph.bytes, List.cons_append, List.singleton_append, hletter]
            have hl := hkeep l.char
            rw [hchar] at hl
            exact hl
          · intro d₁ d₂ d₃ d₄ h
            refine readTextFrom_leading acc _ h fun more heq => hsign ?_
            exact (List.cons.inj (List.cons.inj heq).2).1
      | unit e₁ e₂ e₃ e₄ =>
          constructor
          · simp only [Spelling.charsFrom]
            by_cases ht : isTrailing (unitOf e₁ e₂ e₃ e₄) = true
            · rw [if_pos ht]
              exact readTextFrom_trailing acc _ ht
            · rw [if_neg ht]
              by_cases hl : isLeading (unitOf e₁ e₂ e₃ e₄) = true
              · rw [if_pos hl]
                exact (ih acc).2 e₁ e₂ e₃ e₄ hl
              · rw [if_neg hl, readTextFrom_unit acc _ (by simpa using ht) (by simpa using hl)]
                exact hkeep _
          · intro d₁ d₂ d₃ d₄ h
            rw [readTextFrom_pair acc _ h]
            simp only [Spelling.charsFrom]
            by_cases ht : isTrailing (unitOf e₁ e₂ e₃ e₄) = true
            · rw [if_pos ht, if_pos ht]
              exact hkeep _
            · rw [if_neg ht, if_neg ht]
              rfl

/-- A text is read exactly if its spelling is well-formed. -/
theorem readText_spelling (s : Spelling) (rest : Bytes) :
    (readText (Spelling.bytes s ++ 0x22 :: rest)).toOption = s.text?.map fun text => (text, rest) := by
  have hread := (readTextFrom_spelling s [] rest).1
  rw [readText, Spelling.text?]
  cases hchars : Spelling.charsFrom none s with
  | none =>
      rw [hchars] at hread
      cases hbytes : readTextFrom [] (Spelling.bytes s ++ 0x22 :: rest) with
      | error fault => rfl
      | ok taken =>
          rw [hbytes] at hread
          cases hread
  | some cs =>
      rw [hchars] at hread
      have hdecode : Text.Utf8.decode? (octets cs) = some (String.ofList cs) := by
        have htext := Text.Utf8.decode?_encode (String.ofList cs)
        rwa [Text.Utf8.encode, String.toList_ofList] at htext
      rw [eq_ok_of_toOption hread]
      simp [hdecode, Except.toOption]

/-! ### Numbers -/

theorem isDigit_digitSign (d : Fin 10) : isDigit (digitSign d) = true := by
  have all : ∀ d : Fin 10, isDigit (digitSign d) = true := by decide
  exact all d

/-- Digits in front of the text go no further. -/
def EndsDigits (rest : Bytes) : Prop := ∀ b ∈ rest.head?, isDigit b = false

theorem endsDigits_cons {b : UInt8} (h : isDigit b = false) (rest : Bytes) :
    EndsDigits (b :: rest) := by
  intro c hc
  cases hc
  exact h

theorem Ended.head {rest : Bytes} (h : Ended rest) :
    ∀ b ∈ rest.head?, isDigit b = false ∧ b ≠ 0x2E ∧ isExponentMark b = false := by
  intro b hb
  rcases h b hb with hblank | rfl | rfl | rfl
  · simp only [isBlank, Bool.or_eq_true, beq_iff_eq] at hblank
    obtain ((rfl | rfl) | rfl) | rfl := hblank <;> decide
  all_goals decide

theorem Digits.bytes_cons (d : Digits) :
    d.bytes = digitSign d.first :: d.more.map digitSign :=
  rfl

section Ends

variable {rest : Bytes} (h : Ended rest) (n : Numeral)

include h

theorem Ended.endsDigits : EndsDigits rest := fun b hb => (h.head b hb).1

theorem Numeral.head_exponent :
    ∀ b ∈ (n.exponentBytes ++ rest).head?, isDigit b = false ∧ b ≠ 0x2E := by
  intro b hb
  rw [Numeral.exponentBytes] at hb
  split at hb
  · exact ⟨(h.head b hb).1, (h.head b hb).2.1⟩
  · next e _ =>
      rw [Exponent.bytes] at hb
      cases hb
      cases e.capital <;> decide

theorem Numeral.endsDigits_exponent : EndsDigits (n.exponentBytes ++ rest) :=
  fun b hb => (n.head_exponent h b hb).1

theorem Numeral.endsDigits_fraction :
    EndsDigits (n.fractionBytes ++ (n.exponentBytes ++ rest)) := by
  rw [Numeral.fractionBytes]
  split
  · exact n.endsDigits_exponent h
  · exact endsDigits_cons (by decide) _

end Ends

theorem isDigit_of_mem_signs {digits : List (Fin 10)} :
    ∀ b ∈ digits.map digitSign, isDigit b = true := by
  intro b hb
  obtain ⟨d, -, rfl⟩ := List.mem_map.mp hb
  exact isDigit_digitSign d

theorem takeWhile_digits {rest : Bytes} (h : EndsDigits rest) (digits : List (Fin 10)) :
    (digits.map digitSign ++ rest).takeWhile isDigit = digits.map digitSign :=
  Text.takeWhile_append_stop isDigit_of_mem_signs h

theorem dropWhile_digits {rest : Bytes} (h : EndsDigits rest) (digits : List (Fin 10)) :
    (digits.map digitSign ++ rest).dropWhile isDigit = rest :=
  Text.dropWhile_append_stop isDigit_of_mem_signs h

/-- Whether an exponent is positive. -/
def Exponent.positive (e : Exponent) : Bool := e.sign.getD true

theorem readExponentSign_tail (e : Exponent) (rest : Bytes) :
    readExponentSign (e.tail ++ rest) = (e.positive, e.digits.bytes ++ rest) := by
  have hfirst : digitSign e.digits.first ≠ 0x2B ∧ digitSign e.digits.first ≠ 0x2D := by
    have all : ∀ d : Fin 10, digitSign d ≠ 0x2B ∧ digitSign d ≠ 0x2D := by decide
    exact all e.digits.first
  rw [Exponent.tail, Exponent.positive]
  cases e.sign with
  | none =>
      rw [List.nil_append, Digits.bytes_cons, List.cons_append, readExponentSign,
        if_neg hfirst.1, if_neg hfirst.2]
      rfl
  | some plus => cases plus <;> rfl

theorem Exponent.isExponentMark_letter (e : Exponent) :
    isExponentMark (if e.capital then 0x45 else 0x65) = true := by
  cases e.capital <;> decide

theorem Numeral.more_eq_nil (n : Numeral) (h : digitSign n.whole.first = 0x30) :
    n.whole.more = [] := by
  have all : ∀ d : Fin 10, digitSign d = 0x30 → d = 0 := by decide
  exact n.unpadded (all _ h)

section Skip

variable {rest : Bytes} (h : Ended rest) (n : Numeral)

include h

theorem skipExponent_tail (e : Exponent) : skipExponent (e.tail ++ rest) = .ok rest := by
  rw [skipExponent, readExponentSign_tail, Digits.bytes_cons, List.cons_append]
  dsimp only
  rw [if_pos (isDigit_digitSign _), dropWhile_digits h.endsDigits]

theorem skipExponentIfAny_numeral : skipExponentIfAny (n.exponentBytes ++ rest) = .ok rest := by
  rw [Numeral.exponentBytes]
  split
  · rw [List.nil_append]
    cases rest with
    | nil => rfl
    | cons b rest =>
        have hmark : ¬isExponentMark b = true := by simp [(h.head b rfl).2.2]
        rw [skipExponentIfAny, if_neg hmark]
  · next e _ =>
      rw [Exponent.bytes, List.cons_append, skipExponentIfAny, if_pos e.isExponentMark_letter]
      exact skipExponent_tail h e

theorem skipFractionIfAny_numeral :
    skipFractionIfAny (n.fractionBytes ++ (n.exponentBytes ++ rest)) = .ok rest := by
  rw [Numeral.fractionBytes]
  split
  · have hskip := skipExponentIfAny_numeral h n
    rw [List.nil_append]
    cases hbytes : n.exponentBytes ++ rest with
    | nil =>
        rw [hbytes] at hskip
        exact hskip
    | cons b more =>
        have hpoint : b ≠ 0x2E := (n.head_exponent h b (by rw [hbytes]; rfl)).2
        rw [skipFractionIfAny, if_neg hpoint, ← hbytes]
        exact hskip
  · next digits _ =>
      rw [List.cons_append, skipFractionIfAny, if_pos rfl, Digits.bytes,
        takeWhile_digits (n.endsDigits_exponent h), dropWhile_digits (n.endsDigits_exponent h)]
      exact skipExponentIfAny_numeral h n

/-- Whoever passes over a number finds its end, whatever its magnitude. -/
theorem skipNumber_numeral : skipNumber (n.unsigned ++ rest) = .ok rest := by
  have hends := n.endsDigits_fraction h
  have hskip := skipFractionIfAny_numeral h n
  rw [Numeral.unsigned, List.append_assoc, List.append_assoc, Digits.bytes_cons, List.cons_append,
    skipNumber.eq_def]
  dsimp only
  by_cases hzero : digitSign n.whole.first = 0x30
  · rw [if_pos hzero, n.more_eq_nil hzero, List.map_nil, List.nil_append]
    cases hbytes : n.fractionBytes ++ (n.exponentBytes ++ rest) with
    | nil =>
        rw [hbytes] at hskip
        exact hskip
    | cons b more =>
        have hdigit : ¬isDigit b = true := by
          rw [hbytes] at hends
          simp [hends b rfl]
        dsimp only
        rw [if_neg hdigit, ← hbytes]
        exact hskip
  · rw [if_neg hzero, if_pos (isDigit_digitSign _), dropWhile_digits hends]
    exact hskip

end Skip

end AppAdmin.Json
