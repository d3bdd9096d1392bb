import AppAdmin.Number.Decimal
import AppAdmin.Proofs.Text.Chars

/-!
Numbers as they are spelled. A text is read as a whole number, or as a floating point number, exactly if
it is spelled like one. A whole number is written in one way only, so most of its spellings are not the
one that is written.
-/

namespace AppAdmin.Number

/-- One or more decimal digits. -/
structure Digits (s : List Char) : Prop where
  ne_nil : s ≠ []
  all : ∀ c ∈ s, c.isDigit = true

/-- A spelling behind a sign, which may be missing; `true` stands for a minus. -/
inductive Signed {α : Type} (Spells : Bool → List Char → α → Prop) : List Char → α → Prop
  | none {s : List Char} {a : α} (h : Spells false s a) : Signed Spells s a
  | plus {s : List Char} {a : α} (h : Spells false s a) : Signed Spells ('+' :: s) a
  | minus {s : List Char} {a : α} (h : Spells true s a) : Signed Spells ('-' :: s) a

/-- Digits as a whole number. -/
def Magnitude (negative : Bool) (s : List Char) (n : Int) : Prop :=
  Digits s ∧ (if negative then -(ofDigits s : Int) else ofDigits s) = n

/-- The spelling of a whole number. -/
def Whole : List Char → Int → Prop := Signed Magnitude

/-- The spelling of an exponent, which may be missing. -/
inductive Exponent : List Char → Int → Prop
  | none : Exponent [] 0
  | mark {c : Char} {s : List Char} {e : Int} (hc : c = 'e' ∨ c = 'E') (h : Whole s e) :
      Exponent (c :: s) e

/-- A point with the digits behind it, both of which may be missing. -/
inductive Fraction : List Char → List Char → Prop
  | none : Fraction [] []
  | point {digits : List Char} (h : ∀ c ∈ digits, c.isDigit = true) : Fraction ('.' :: digits) digits

/-- The spelling of a floating point number that is no word, without its sign. -/
inductive Decimal (negative : Bool) : List Char → Binary64 → Prop
  | digits {whole point fraction mark : List Char} {e : Int}
      (hwhole : ∀ c ∈ whole, c.isDigit = true) (hfraction : Fraction point fraction)
      (hsome : whole ++ fraction ≠ []) (hmark : Exponent mark e) :
      Decimal negative (whole ++ (point ++ mark))
        (.ofDecimal negative (ofDigits (whole ++ fraction)) (e - fraction.length))

/-- The spelling of a floating point number without its sign. -/
inductive Unsigned (negative : Bool) : List Char → Binary64 → Prop
  | infinite {s : List Char}
      (h : s.map Char.toLower = "inf".toList ∨ s.map Char.toLower = "infinity".toList) :
      Unsigned negative s (.infinite negative)
  | undefined {s : List Char} (h : s.map Char.toLower = "nan".toList) : Unsigned negative s .nan
  | decimal {s : List Char} {x : Binary64} (h : Decimal negative s x) : Unsigned negative s x

/-- The spelling of a floating point number. -/
def Floating : List Char → Binary64 → Prop := Signed Unsigned

/-- Digits of which the first one counts. -/
structure Significant (s : List Char) : Prop extends Digits s where
  first : s.head? ≠ some '0'

/-- The one spelling of a whole number in which it is written. -/
inductive Canonical : List Char → Prop
  | zero : Canonical ['0']
  | positive {s : List Char} (h : Significant s) : Canonical s
  | negative {s : List Char} (h : Significant s) : Canonical ('-' :: s)

variable {s : List Char} {n : Int} {x : Binary64} {negative : Bool}

/-! ### Signs -/

/-- A character that is no sign. -/
def NoSign (c : Char) : Prop := c ≠ '-' ∧ c ≠ '+'

theorem noSign_of_isDigit {c : Char} (h : c.isDigit = true) : NoSign c := by
  constructor <;> rintro rfl <;> cases h

theorem cutSign_of_noSign (h : ∀ c ∈ s.head?, NoSign c) : cutSign s = (false, s) := by
  rw [cutSign.eq_def]
  split
  next => exact absurd rfl (h '-' rfl).1
  next => exact absurd rfl (h '+' rfl).2
  next => rfl

/-- Where no spelling begins with a sign, the sign is what is cut off. -/
theorem signed_iff {α : Type} {Spells : Bool → List Char → α → Prop} {a : α}
    (hhead : ∀ {negative s a}, Spells negative s a → ∀ c ∈ s.head?, NoSign c) :
    Signed Spells s a ↔ Spells (cutSign s).1 (cutSign s).2 a := by
  constructor
  · intro h
    cases h with
    | none h =>
        rw [cutSign_of_noSign (hhead h)]
        exact h
    | plus h => exact h
    | minus h => exact h
  · intro h
    rw [cutSign.eq_def] at h
    split at h
    · exact .minus h
    · exact .plus h
    · exact .none h

/-! ### Whole numbers -/

theorem digits?_eq_some_iff {n : Nat} : digits? s = some n ↔ Digits s ∧ ofDigits s = n := by
  rw [digits?, Option.ite_none_right_eq_some, Option.some.injEq, List.all_eq_true]
  exact and_congr_left fun _ => ⟨fun h => ⟨h.1, h.2⟩, fun h => ⟨h.ne_nil, h.all⟩⟩

theorem Digits.noSign (h : Digits s) : ∀ c ∈ s.head?, NoSign c :=
  fun c hc => noSign_of_isDigit (h.all c (List.mem_of_mem_head? hc))

theorem whole_iff : Whole s n ↔ Magnitude (cutSign s).1 (cutSign s).2 n :=
  signed_iff fun h => h.1.noSign

/-- **A text is read as a whole number exactly if it is spelled like one.** -/
theorem integer?_eq_some_iff : integer? s = some n ↔ Whole s n := by
  rw [whole_iff, integer?, Magnitude, Option.map_eq_some_iff]
  constructor
  · rintro ⟨_, hread, hn⟩
    obtain ⟨m, hm, heq⟩ := Option.bind_eq_some_iff.mp hread
    cases heq
    obtain ⟨hdigits, rfl⟩ := digits?_eq_some_iff.mp hm
    exact ⟨hdigits, hn⟩
  · rintro ⟨hdigits, hn⟩
    have hread := digits?_eq_some_iff.mpr ⟨hdigits, rfl⟩
    exact ⟨_, Option.bind_eq_some_iff.mpr ⟨_, hread, rfl⟩, hn⟩

theorem integer64?_eq_some_iff : integer64? s = some n ↔ Whole s n ∧ isInteger64 n = true := by
  rw [integer64?, Option.filter_eq_some_iff, integer?_eq_some_iff]

theorem integer64?_eq_none_iff :
    integer64? s = none ↔ ∀ n, Whole s n → isInteger64 n = false := by
  simp only [Option.eq_none_iff_forall_ne_some, ne_eq, integer64?_eq_some_iff, not_and,
    Bool.not_eq_true]

/-! ### Floating point numbers -/

theorem exponent?_eq_some_iff {e : Int} : exponent? s = some e ↔ Exponent s e := by
  constructor
  · intro h
    cases s with
    | nil =>
        cases h
        exact .none
    | cons c s =>
        obtain ⟨hc, h⟩ := Option.ite_none_right_eq_some.mp h
        exact .mark hc (integer?_eq_some_iff.mp h)
  · intro h
    cases h with
    | none => rfl
    | mark hc h => rw [exponent?, if_pos hc, integer?_eq_some_iff.mpr h]

/-- A text that does not go on with a digit. -/
def EndsDigits (s : List Char) : Prop := ∀ c ∈ s.head?, c.isDigit = false

theorem isDigit_of_mem_takeWhile (s : List Char) :
    ∀ c ∈ s.takeWhile Char.isDigit, c.isDigit = true :=
  List.all_eq_true.mp List.all_takeWhile

/-- Takes the digits behind a point, if there is a point. -/
def cutFraction : List Char → List Char × List Char
  | '.' :: rest => (rest.takeWhile Char.isDigit, rest.dropWhile Char.isDigit)
  | rest => ([], rest)

theorem decimal?_eq (negative : Bool) (s : List Char) :
    decimal? negative s =
      let whole := s.takeWhile Char.isDigit
      let cut := cutFraction (s.dropWhile Char.isDigit)
      if whole = [] ∧ cut.1 = [] then none
      else (exponent? cut.2).bind fun e =>
        some (.ofDecimal negative (ofDigits (whole ++ cut.1)) (e - cut.1.length)) := rfl

theorem exists_fraction (s : List Char) :
    ∃ point, s = point ++ (cutFraction s).2 ∧ Fraction point (cutFraction s).1 := by
  rw [cutFraction.eq_def]
  split
  next rest =>
      refine ⟨'.' :: rest.takeWhile Char.isDigit, ?_, .point (isDigit_of_mem_takeWhile rest)⟩
      rw [List.cons_append, List.takeWhile_append_dropWhile]
  next => exact ⟨[], rfl, .none⟩

theorem Exponent.endsDigits {e : Int} (h : Exponent s e) : EndsDigits s := by
  cases h with
  | none => exact nofun
  | mark hc =>
      rintro _ ⟨⟩
      obtain rfl | rfl := hc <;> rfl

theorem Exponent.cutFraction_append {point fraction : List Char} {e : Int} (h : Exponent s e)
    (hpoint : Fraction point fraction) : cutFraction (point ++ s) = (fraction, s) := by
  cases hpoint with
  | none =>
      rw [List.nil_append, cutFraction.eq_def]
      split
      next rest =>
          -- A point is no mark of an exponent.
          cases h with
          | mark hc => simp at hc
      next => rfl
  | point hdigits =>
      rw [List.cons_append, cutFraction, Text.takeWhile_append_stop hdigits h.endsDigits,
        Text.dropWhile_append_stop hdigits h.endsDigits]

theorem Exponent.endsDigits_append {point fraction : List Char} {e : Int} (h : Exponent s e)
    (hpoint : Fraction point fraction) : EndsDigits (point ++ s) := by
  cases hpoint with
  | none => exact h.endsDigits
  | point =>
      rintro _ ⟨⟩
      rfl

theorem decimal?_eq_some_iff : decimal? negative s = some x ↔ Decimal negative s x := by
  constructor
  · intro h
    rw [decimal?_eq] at h
    obtain ⟨hsome, h⟩ := Option.ite_none_left_eq_some.mp h
    obtain ⟨e, hmark, h⟩ := Option.bind_eq_some_iff.mp h
    cases h
    obtain ⟨point, hcut, hfraction⟩ := exists_fraction (s.dropWhile Char.isDigit)
    have hdecimal : Decimal negative (s.takeWhile Char.isDigit ++ (point ++ _)) _ :=
      .digits (isDigit_of_mem_takeWhile s) hfraction
        (fun hnil => hsome (List.append_eq_nil_iff.mp hnil)) (exponent?_eq_some_iff.mp hmark)
    rwa [← hcut, List.takeWhile_append_dropWhile] at hdecimal
  · intro h
    cases h with
    | digits hwhole hfraction hsome hmark =>
        have hends := hmark.endsDigits_append hfraction
        have hcut := hmark.cutFraction_append hfraction
        rw [decimal?_eq]
        simp only [Text.takeWhile_append_stop hwhole hends,
          Text.dropWhile_append_stop hwhole hends, hcut]
        rw [if_neg fun hnil => hsome (List.append_eq_nil_iff.mpr hnil),
          exponent?_eq_some_iff.mpr hmark]
        rfl

/-! ### First characters -/

theorem toLower_of_isDigit {c : Char} (h : c.isDigit = true) : c.toLower = c := by
  obtain ⟨-, hnine⟩ := Char.isDigit_iff_toNat.mp h
  have hnine : c.toNat ≤ 57 := hnine
  have hsmall : ¬(0x41 ≤ c.toNat ∧ c.toNat ≤ 0x5A) := by omega
  exact dif_neg hsmall

theorem Decimal.first (h : Decimal negative s x) :
    ∃ c rest, s.map Char.toLower = c :: rest ∧ (c.isDigit = true ∨ c = '.') := by
  cases h with
  | @digits whole point fraction mark e hwhole hfraction hsome hmark =>
      cases whole with
      | cons c whole =>
          have hc := hwhole c List.mem_cons_self
          exact ⟨c, _, by rw [List.cons_append, List.map_cons, toLower_of_isDigit hc], .inl hc⟩
      | nil =>
          cases hfraction with
          | none => exact absurd rfl hsome
          | point => exact ⟨'.', _, rfl, .inr rfl⟩

theorem Unsigned.first (h : Unsigned negative s x) :
    ∃ c rest, s.map Char.toLower = c :: rest ∧ (c.isDigit = true ∨ c ∈ ['.', 'i', 'n']) := by
  cases h with
  | infinite h =>
      obtain h | h := h
      · exact ⟨'i', _, h, .inr (by decide)⟩
      · exact ⟨'i', _, h, .inr (by decide)⟩
  | undefined h => exact ⟨'n', _, h, .inr (by decide)⟩
  | decimal h =>
      obtain ⟨c, rest, hs, hdigit | rfl⟩ := h.first
      · exact ⟨c, rest, hs, .inl hdigit⟩
      · exact ⟨'.', rest, hs, .inr (by decide)⟩

theorem Unsigned.noSign (h : Unsigned negative s x) : ∀ c ∈ s.head?, NoSign c := by
  obtain ⟨c, rest, hs, hc⟩ := h.first
  intro first hfirst
  cases s with
  | nil => cases hfirst
  | cons _ s =>
      cases hfirst
      obtain ⟨rfl, -⟩ := List.cons.inj hs
      -- A sign has no lower case, and is neither a digit nor one of the others.
      constructor <;> rintro rfl <;> revert hc <;> decide

theorem floating_iff : Floating s x ↔ Unsigned (cutSign s).1 (cutSign s).2 x :=
  signed_iff fun h => h.noSign

theorem Floating.first (h : Floating s x) : ∃ c rest, s.map Char.toLower = c :: rest ∧
    (c.isDigit = true ∨ c ∈ ['.', 'i', 'n', '+', '-']) := by
  cases h with
  | none h =>
      obtain ⟨c, rest, hs, hc⟩ := h.first
      exact ⟨c, rest, hs, hc.imp_right fun hmem => List.mem_append_left ['+', '-'] hmem⟩
  | plus => exact ⟨'+', _, rfl, .inr (by decide)⟩
  | minus => exact ⟨'-', _, rfl, .inr (by decide)⟩

/-- A number does not begin like a truth value. -/
theorem Floating.map_toLower_ne (h : Floating s x) (word : List Char)
    (hword : word.head? = some 'f' ∨ word.head? = some 't') : s.map Char.toLower ≠ word := by
  rintro rfl
  obtain ⟨c, rest, hs, hc⟩ := h.first
  rw [hs, List.head?_cons, Option.some.injEq, Option.some.injEq] at hword
  obtain rfl | rfl := hword <;> revert hc <;> decide

/-- A spelling with digits is no word. -/
theorem Decimal.map_toLower_ne (h : Decimal negative s x) (word : List Char)
    (hword : word.head? = some 'i' ∨ word.head? = some 'n') : s.map Char.toLower ≠ word := by
  rintro rfl
  obtain ⟨c, rest, hs, hc⟩ := h.first
  rw [hs, List.head?_cons, Option.some.injEq, Option.some.injEq] at hword
  obtain rfl | rfl := hword <;> revert hc <;> decide

/-- **A text is read as a floating point number exactly if it is spelled like one.** -/
theorem real?_eq_some_iff : real? s = some x ↔ Floating s x := by
  rw [floating_iff, real?]
  dsimp only
  generalize (cutSign s).1 = negative
  generalize (cutSign s).2 = s
  simp only [← String.toList_inj, String.toList_ofList]
  constructor
  · intro h
    split at h
    next hword =>
        cases h
        exact .infinite hword
    · split at h
      next hword =>
          cases h
          exact .undefined hword
      next => exact .decimal (decimal?_eq_some_iff.mp h)
  · intro h
    cases h with
    | infinite h => rw [if_pos h]
    | undefined h =>
        rw [if_neg (by rw [h]; decide), if_pos h]
    | decimal h =>
        have hinf := h.map_toLower_ne "inf".toList (.inl rfl)
        have hinfinity := h.map_toLower_ne "infinity".toList (.inl rfl)
        have hnan := h.map_toLower_ne "nan".toList (.inr rfl)
        rw [if_neg fun hor => hor.elim hinf hinfinity, if_neg hnan, decimal?_eq_some_iff.mpr h]

theorem real?_eq_none_iff : real? s = none ↔ ∀ x, ¬Floating s x := by
  simp only [Option.eq_none_iff_forall_ne_some, ne_eq, real?_eq_some_iff]

/-- What is spelled like a whole number is spelled like a floating point number too. -/
theorem Whole.exists_floating (h : Whole s n) : ∃ x, Floating s x := by
  obtain ⟨hdigits, -⟩ := whole_iff.mp h
  have hdecimal : Decimal (cutSign s).1 ((cutSign s).2 ++ ([] ++ [])) _ :=
    .digits hdigits.all .none (by simpa using hdigits.ne_nil) .none
  rw [List.nil_append, List.append_nil] at hdecimal
  exact ⟨_, floating_iff.mpr (.decimal hdecimal)⟩

/-! ### Whole numbers as they are written -/

theorem digitChar_of_isDigit {c : Char} (h : c.isDigit = true) :
    c.toNat - 0x30 < 10 ∧ (c.toNat - 0x30).digitChar = c := by
  obtain ⟨hzero, hnine⟩ := Char.isDigit_iff_toNat.mp h
  have hzero : 48 ≤ c.toNat := hzero
  have hnine : c.toNat ≤ 57 := hnine
  have hlt : c.toNat - 0x30 < 10 := by omega
  refine ⟨hlt, Char.toNat_inj.mp ?_⟩
  rw [Nat.toNat_digitChar_of_lt_ten hlt]
  omega

/-- Digits behind a positive number stand behind it when it is written. -/
theorem toDigits_foldl (hs : ∀ c ∈ s, c.isDigit = true) {m : Nat} (hm : 0 < m) :
    Nat.toDigits 10 (s.foldl (fun n c => n * 10 + (c.toNat - 0x30)) m)
      = Nat.toDigits 10 m ++ s := by
  induction s generalizing m with
  | nil => rw [List.foldl_nil, List.append_nil]
  | cons c s ih =>
      obtain ⟨hc, hs⟩ := List.forall_mem_cons.mp hs
      obtain ⟨hlt, hchar⟩ := digitChar_of_isDigit hc
      have hnext : Nat.toDigits 10 (m * 10 + (c.toNat - 0x30)) = Nat.toDigits 10 m ++ [c] := by
        rw [Nat.mul_comm, ← Nat.toDigits_append_toDigits (by decide) hm hlt,
          Nat.toDigits_of_lt_base hlt, hchar]
      have hpos : 0 < m * 10 + (c.toNat - 0x30) := by omega
      calc
        Nat.toDigits 10 ((c :: s).foldl (fun n c => n * 10 + (c.toNat - 0x30)) m)
          = Nat.toDigits 10 (m * 10 + (c.toNat - 0x30)) ++ s := ih hs hpos
        _ = Nat.toDigits 10 m ++ (c :: s) := by rw [hnext, List.append_assoc, List.singleton_append]

/-- Digits of which the first one counts are written as they stand. -/
theorem Significant.toDigits_ofDigits (h : Significant s) : Nat.toDigits 10 (ofDigits s) = s := by
  cases s with
  | nil => exact absurd rfl h.ne_nil
  | cons c s =>
      obtain ⟨hc, hs⟩ := List.forall_mem_cons.mp h.all
      obtain ⟨hlt, hchar⟩ := digitChar_of_isDigit hc
      have hpos : 0 < c.toNat - 0x30 := by
        refine Nat.pos_of_ne_zero fun hzero => h.first ?_
        rw [hzero] at hchar
        rw [List.head?_cons, ← hchar]
        rfl
      have hfirst : ofDigits (c :: s)
          = s.foldl (fun n c => n * 10 + (c.toNat - 0x30)) (c.toNat - 0x30) := by
        rw [ofDigits, List.foldl_cons, Nat.zero_mul, Nat.zero_add]
      rw [hfirst, toDigits_foldl hs hpos, Nat.toDigits_of_lt_base hlt, hchar, List.singleton_append]

theorem Significant.ofDigits_pos (h : Significant s) : 0 < ofDigits s := by
  refine Nat.pos_of_ne_zero fun hzero => h.first ?_
  have hs := h.toDigits_ofDigits
  rw [hzero] at hs
  rw [← hs]
  rfl

theorem significant_toDigits (m : Nat) (hm : 0 < m) : Significant (Nat.toDigits 10 m) := by
  have hall : ∀ c ∈ Nat.toDigits 10 m, c.isDigit = true :=
    fun c hc => Nat.isDigit_of_mem_toDigits (by decide) (by decide) hc
  refine ⟨⟨Nat.toDigits_ne_nil, hall⟩, ?_⟩
  induction m using Nat.strongRecOn with
  | ind m ih =>
      rw [Nat.toDigits_eq_if (by decide)]
      split
      next hlt =>
          rw [List.head?_cons, ne_eq, Option.some.injEq, ← Char.toNat_inj,
            Nat.toNat_digitChar_of_lt_ten hlt]
          have hzero : '0'.toNat = 48 := rfl
          omega
      next hge =>
          -- The digits in front are those of a smaller number.
          have hfront := ih (m / 10) (by omega) (by omega)
            fun c hc => Nat.isDigit_of_mem_toDigits (by decide) (by decide) hc
          obtain ⟨c, rest, hdigits⟩ :=
            List.exists_cons_of_ne_nil (Nat.toDigits_ne_nil (b := 10) (n := m / 10))
          rw [hdigits] at hfront ⊢
          exact hfront

end AppAdmin.Number
