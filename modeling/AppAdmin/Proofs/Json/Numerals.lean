import AppAdmin.Proofs.Json.Tokens

/-!
Numbers. A numeral is read as a number, unless its magnitude is beyond the floating point format; then
the text that it stands in is refused. Digits that do not fit 64 bits count as powers of ten.
-/

namespace AppAdmin.Json

/-! ### Values of digits -/

/-- The whole number that digits spell behind a number read before them. -/
def valueFrom (n : Nat) (digits : List (Fin 10)) : Nat :=
  digits.foldl (fun n d => n * 10 + d.val) n

theorem le_valueFrom (n : Nat) (digits : List (Fin 10)) : n ≤ valueFrom n digits := by
  induction digits generalizing n with
  | nil => exact Nat.le_refl n
  | cons d digits ih =>
      calc
        n ≤ n * 10 + d.val := by omega
        _ ≤ valueFrom n (d :: digits) := ih (n * 10 + d.val)

def Digits.value (d : Digits) : Nat := valueFrom d.first.val d.more

theorem digitValue_digitSign (d : Fin 10) : digitValue (digitSign d) = d.val := by
  have all : ∀ d : Fin 10, digitValue (digitSign d) = d.val := by decide
  exact all d

/-! ### Numbers -/

/-- The number with a significand and a power of ten, if it is in the range of the format. -/
def real? (negative : Bool) (significand : Nat) (exponent : Int) : Option Number :=
  (scale (Binary64.ofNat false significand) exponent).map fun x =>
    .real (if negative then x.negate else x)

/-- The number with a significand and an exponent. Where the exponent is beyond all bounds only zero
and what vanishes are numbers. -/
def Exponent.real? (e : Exponent) (negative : Bool) (significand : Nat) (start : Int) :
    Option Number :=
  if maxExponent < e.digits.value then
    if significand ≠ 0 ∧ e.positive then none else some (.real (Binary64.zero negative))
  else
    Json.real? negative significand
      (if e.positive then start + e.digits.value else start - e.digits.value)

/-- A number without point and exponent whose digits fit. -/
def whole (negative : Bool) (n : Nat) : Number :=
  if !negative then .natural n
  else if n = 0 ∨ !Number.isInteger64 (-n) then .real (Binary64.ofNat true n)
  else .negative n

namespace Numeral

/-- The number with a significand and the exponent of a numeral, if it has one. -/
def scaled? (n : Numeral) (significand : Nat) (start : Int) : Option Number :=
  match n.exponent with
  | none => real? n.negative significand start
  | some e => e.real? n.negative significand start

/-- The number of a numeral with the significand of its whole digits; `left` of these did not
fit. -/
def finished? (n : Numeral) (significand left : Nat) : Option Number :=
  match n.fraction with
  | some digits =>
    let (more, dropped) := gather significand digits.bytes
    n.scaled? more (left - (digits.bytes.length - dropped : Nat))
  | none =>
    if n.exponent.isNone ∧ left = 0 then some (Json.whole n.negative significand)
    else n.scaled? significand left

/-- The number that a numeral spells. -/
def number? (n : Numeral) : Option Number :=
  let (significand, left) := gather n.whole.first.val (n.whole.more.map digitSign)
  n.finished? significand left

end Numeral

/-! ### Reading -/

theorem finishReal_eq (negative : Bool) (significand : Nat) (exponent : Int) (rest : Bytes) :
    (finishReal negative significand exponent rest).toOption =
      (real? negative significand exponent).map fun x => (x, rest) := by
  rw [finishReal, real?]
  cases scale (Binary64.ofNat false significand) exponent <;> rfl

section Read

variable {rest : Bytes} (h : Ended rest) (negative : Bool) (significand : Nat) (start : Int)

include h

/-- The digits of an exponent are counted until they are too many. -/
theorem readExponentDigits_digits (positive : Bool) (digits : List (Fin 10)) (n : Nat)
    (hn : n ≤ maxExponent) :
    (readExponentDigits negative significand start positive n
        (digits.map digitSign ++ rest)).toOption =
      (if maxExponent < valueFrom n digits then
          if significand ≠ 0 ∧ positive then none else some (.real (Binary64.zero negative))
        else
          real? negative significand
            (if positive then start + valueFrom n digits else start - valueFrom n digits)).map
        fun x => (x, rest) := by
  induction digits generalizing n with
  | nil =>
      rw [List.map_nil, List.nil_append, valueFrom, List.foldl_nil, if_neg (Nat.not_lt.mpr hn)]
      cases rest with
      | nil => exact finishReal_eq ..
      | cons b rest =>
          have hdigit : ¬isDigit b = true := by simp [(h.head b rfl).1]
          rw [readExponentDigits, if_neg hdigit]
          exact finishReal_eq ..
  | cons d digits ih =>
      have hvalue : valueFrom n (d :: digits) = valueFrom (n * 10 + d.val) digits := rfl
      rw [List.map_cons, List.cons_append, readExponentDigits, if_pos (isDigit_digitSign d),
        digitValue_digitSign, hvalue]
      by_cases hmax : maxExponent < n * 10 + d.val
      · have hlarge := Nat.lt_of_lt_of_le hmax (le_valueFrom _ digits)
        rw [if_pos hmax, if_pos hlarge, dropWhile_digits h.endsDigits]
        by_cases hzero : significand ≠ 0 ∧ positive = true
        · rw [if_pos hzero, if_pos hzero]
          rfl
        · rw [if_neg hzero, if_neg hzero]
          rfl
      · rw [if_neg hmax]
        exact ih _ (Nat.not_lt.mp hmax)

theorem readExponent_tail (e : Exponent) :
    (readExponent negative significand start (e.tail ++ rest)).toOption =
      (e.real? negative significand start).map fun x => (x, rest) := by
  have hfirst : e.digits.first.val ≤ maxExponent := by
    have hten := e.digits.first.isLt
    rw [maxExponent]
    omega
  rw [readExponent, readExponentSign_tail, Digits.bytes_cons, List.cons_append]
  dsimp only
  rw [if_pos (isDigit_digitSign _), digitValue_digitSign]
  exact readExponentDigits_digits h negative significand start e.positive e.digits.more _ hfirst

theorem readExponentIfAny_numeral (n : Numeral) :
    (readExponentIfAny n.negative significand start (n.exponentBytes ++ rest)).toOption =
      (n.scaled? significand start).map fun x => (x, rest) := by
  rw [Numeral.exponentBytes, Numeral.scaled?]
  cases n.exponent with
  | none =>
      dsimp only
      rw [List.nil_append]
      cases rest with
      | nil => exact finishReal_eq ..
      | cons b rest =>
          have hmark : ¬isExponentMark b = true := by simp [(h.head b rfl).2.2]
          rw [readExponentIfAny, if_neg hmark]
          exact finishReal_eq ..
  | some e =>
      dsimp only
      rw [Exponent.bytes, List.cons_append, readExponentIfAny, if_pos e.isExponentMark_letter]
      exact readExponent_tail h n.negative significand start e

theorem readFraction_numeral (n : Numeral) (digits : Digits) :
    (readFraction n.negative significand start
        (digits.bytes ++ (n.exponentBytes ++ rest))).toOption =
      (n.scaled? (gather significand digits.bytes).1
          (start - (digits.bytes.length - (gather significand digits.bytes).2 : Nat))).map
        fun x => (x, rest) := by
  have hends := n.endsDigits_exponent h
  rw [readFraction, Digits.bytes, takeWhile_digits hends, dropWhile_digits hends, ← Digits.bytes,
    Digits.bytes_cons]
  exact readExponentIfAny_numeral h _ _ n

omit h in
theorem finishWhole_eq (left : Nat) (s : Bytes) :
    (if left ≠ 0 then finishReal negative significand left s
      else if !negative then .ok (.natural significand, s)
      else if significand = 0 ∨ !Number.isInteger64 (-significand) then
        .ok (.real (Binary64.ofNat true significand), s)
      else .ok (.negative significand, s) : Except Fault (Number × Bytes)).toOption =
      (if left = 0 then some (whole negative significand)
        else real? negative significand left).map fun x => (x, s) := by
  by_cases hleft : left = 0
  · rw [if_neg fun hne => hne hleft, if_pos hleft, whole]
    split
    · rfl
    · split <;> rfl
  · rw [if_pos hleft, if_neg hleft]
    exact finishReal_eq ..

/-- The number of a numeral whose whole digits are known; `left` of them did not fit. -/
theorem finishNumber_numeral (n : Numeral) (left : Nat) :
    (finishNumber n.negative significand left
        (n.fractionBytes ++ (n.exponentBytes ++ rest))).toOption =
      (n.finished? significand left).map fun x => (x, rest) := by
  rw [Numeral.fractionBytes, Numeral.finished?]
  cases n.fraction with
  | some digits => exact readFraction_numeral h significand left n digits
  | none =>
      rw [Numeral.exponentBytes, Numeral.scaled?]
      cases n.exponent with
      | some e =>
          have hpoint : (if e.capital then 0x45 else 0x65 : UInt8) ≠ 0x2E := by
            cases e.capital <;> decide
          simp only [Exponent.bytes, List.nil_append, List.cons_append, Option.isNone_some,
            Bool.false_eq_true, false_and, if_false]
          rw [finishNumber, if_neg hpoint, if_pos e.isExponentMark_letter]
          exact readExponent_tail h n.negative significand left e
      | none =>
          have hfinish := finishWhole_eq n.negative significand left rest
          simp only [List.nil_append, Option.isNone_none, true_and]
          rw [← hfinish]
          cases rest with
          | nil => rfl
          | cons b rest =>
              have hhead := h.head b rfl
              have hmark : ¬isExponentMark b = true := by simp [hhead.2.2]
              rw [finishNumber, if_neg hhead.2.1, if_neg hmark]

/-- A numeral is read as the number that it spells. -/
theorem readNumber_numeral (n : Numeral) :
    (readNumber n.negative (n.unsigned ++ rest)).toOption =
      n.number?.map fun x => (x, rest) := by
  have hends := n.endsDigits_fraction h
  rw [Numeral.unsigned, List.append_assoc, List.append_assoc, Digits.bytes_cons, List.cons_append,
    readNumber.eq_def, Numeral.number?]
  dsimp only
  by_cases hzero : digitSign n.whole.first = 0x30
  · have hvalue : n.whole.first.val = 0 := by
      rw [← digitValue_digitSign, hzero]
      rfl
    have hfinish := finishNumber_numeral h 0 n 0
    rw [if_pos hzero, n.more_eq_nil hzero, hvalue, List.map_nil, List.nil_append, gather]
    cases hbytes : n.fractionBytes ++ (n.exponentBytes ++ rest) with
    | nil =>
        rw [hbytes] at hfinish
        exact hfinish
    | cons b more =>
        have hdigit : ¬isDigit b = true := by
          rw [hbytes] at hends
          simp [hends b rfl]
        dsimp only
        rw [if_neg hdigit, ← hbytes]
        exact hfinish
  · rw [if_neg hzero, if_pos (isDigit_digitSign _), takeWhile_digits hends, dropWhile_digits hends,
      digitValue_digitSign]
    exact finishNumber_numeral h _ n _

end Read

end AppAdmin.Json
