/-!
Punycode: a text as its ASCII characters, and behind a hyphen numbers that say where the others
belong. A number is written in digits whose weight depends on thresholds that adapt to the text.
-/

namespace AppAdmin.Url.Idna.Punycode

/-- The weight of a digit ends where it reaches the threshold of its place. -/
def threshold (place bias : Nat) : Nat := min 26 (max 1 (place - bias))

/-- How far apart the thresholds are from the start. -/
def initialBias : Nat := 72

/-- Shrinks a number until it fits the thresholds in the middle, counting the steps. -/
def settle (delta : Nat) : Nat × Nat :=
  if 455 < delta then
    let (delta, steps) := settle (delta / 35)
    (delta, steps + 1)
  else (delta, 0)
termination_by delta
decreasing_by exact Nat.div_lt_self (by omega) (by decide)

/-- The bias after a number, when `count` characters are placed. -/
def adapt (delta count : Nat) (first : Bool) : Nat :=
  let delta := if first then delta / 700 else delta / 2
  let (delta, steps) := settle (delta + delta / count)
  36 * steps + 36 * delta / (delta + 38)

/-- The digit of a value: letters, then numerals. -/
def digit (d : Nat) : Char :=
  if d < 26 then Char.ofNat (0x61 + d) else Char.ofNat (0x30 + (d - 26))

def digit? (c : Char) : Option Nat :=
  let n := c.toNat
  if 0x61 ≤ n ∧ n ≤ 0x7A then some (n - 0x61)
  else if 0x41 ≤ n ∧ n ≤ 0x5A then some (n - 0x41)
  else if 0x30 ≤ n ∧ n ≤ 0x39 then some (n - 0x30 + 26)
  else none

theorem threshold_pos (place bias : Nat) : 1 ≤ threshold place bias := by
  unfold threshold; omega

/-- A number in digits, from a place on. -/
def number (q place bias : Nat) : List Char :=
  let t := threshold place bias
  if q < t then [digit q]
  else digit (t + (q - t) % (36 - t)) :: number ((q - t) / (36 - t)) (place + 36) bias
termination_by q
decreasing_by
  have := threshold_pos place bias
  exact Nat.lt_of_le_of_lt (Nat.div_le_self ..) (by omega)

/-- How the writing of a text has come on: the characters placed, the number under way, the bias,
and the digits, latest first. -/
structure Writing where
  placed : Nat
  delta : Nat
  bias : Nat
  digits : List Char

/-- Writes all places of one character; smaller characters are placed already. -/
def Writing.place (n : Nat) (first : Nat) (w : Writing) (s : List Nat) : Writing :=
  s.foldl (fun w c =>
    if c < n then { w with delta := w.delta + 1 }
    else if c = n then
      ⟨w.placed + 1, 0, adapt w.delta (w.placed + 1) (w.placed == first),
        (number w.delta 36 w.bias).reverse ++ w.digits⟩
    else w) w

/-- Writes the characters from `n` on that are listed in `levels`, in rising order. -/
def Writing.levels (first : Nat) (s : List Nat) : Nat → List Nat → Writing → Writing
  | _, [], w => w
  | n, m :: rest, w =>
    let w := { w with delta := w.delta + (m - n) * (w.placed + 1) }
    let w := w.place m first s
    Writing.levels first s (m + 1) rest { w with delta := w.delta + 1 }

/-- The values of a sorted list, each once. -/
def distinct : List Nat → List Nat
  | a :: b :: rest => if a = b then distinct (b :: rest) else a :: distinct (b :: rest)
  | values => values

def encode (s : List Char) : List Char :=
  let plain := s.filter (·.toNat < 0x80)
  let codes := s.map Char.toNat
  let levels := distinct ((codes.filter (0x80 ≤ ·)).mergeSort)
  let start : Writing := ⟨plain.length, 0, initialBias, []⟩
  let done := start.levels plain.length codes 0x80 levels
  plain ++ (if plain = [] then [] else ['-']) ++ done.digits.reverse

/-- How the reading of a text has come on: the characters placed, the last code point, its place,
the bias, and the number under way with the weight and place of its next digit. -/
structure Reading where
  placed : List Nat
  code : Nat
  index : Nat
  bias : Nat
  delta : Nat
  weight : Nat
  place : Nat

/-- The bound of all numbers. -/
def bound : Nat := 4294967296

def isCharacter (n : Nat) : Bool := n < 0xD800 || 0xE000 ≤ n && n < 0x110000

/-- Reads a digit; at the end of a number a character is placed. -/
def Reading.step (r : Reading) (c : Char) : Option Reading := do
  let d ← digit? c
  let delta := r.delta + d * r.weight
  let t := threshold r.place r.bias
  if bound ≤ r.index + delta then none
  else if d < t then
    let count := r.placed.length + 1
    let total := r.index + delta
    let code := r.code + total / count
    let index := total % count
    if isCharacter code then
      some ⟨r.placed.take index ++ code :: r.placed.drop index, code, index + 1,
        adapt delta count (r.index == 0), 0, 1, 36⟩
    else none
  else if bound ≤ r.weight * (36 - t) then none
  else some { r with delta := delta, weight := r.weight * (36 - t), place := r.place + 36 }

/-- The text of an ASCII form. A hyphen in front parts nothing and is no digit. -/
def decode? (s : List Char) : Option (List Char) := do
  let behind := (s.reverse.takeWhile (· != '-')).reverse
  let plain := (s.reverse.dropWhile (· != '-')).reverse.dropLast
  if plain = [] ∧ s.contains '-' then none
  let start : Reading := ⟨plain.map Char.toNat, 0x80, 0, initialBias, 0, 1, 36⟩
  let done ← behind.foldlM Reading.step start
  if done.place = 36 then some (done.placed.map Char.ofNat) else none

end AppAdmin.Url.Idna.Punycode
