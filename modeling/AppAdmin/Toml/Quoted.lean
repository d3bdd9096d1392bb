import AppAdmin.Text.Hex
import AppAdmin.Toml.Layout

/-!
The texts of TOML: between double quotes with escapes, between single quotes without, and both also
over several lines between triple quotes.
-/

namespace AppAdmin.Toml

/-- The character that hexadecimal digits name. -/
def namedChar? (digits : List Char) : Option Char := do
  let n := (← digits.mapM Text.hexDigit?).foldl (fun n d => n * 16 + d) 0
  if h : n.isValidChar then some ⟨UInt32.ofNatLT n (by
    rcases h with h | h <;> simp only [UInt32.size] <;> omega), by
    simpa [UInt32.isValidChar, Nat.isValidChar] using h⟩ else none

/-- The character of an escape, and how many characters spell it behind the backslash. -/
def escape? : List Char → Option (Char × Nat)
  | 'b' :: _ => some ('\x08', 1)
  | 't' :: _ => some ('\t', 1)
  | 'n' :: _ => some ('\n', 1)
  | 'f' :: _ => some ('\x0c', 1)
  | 'r' :: _ => some ('\r', 1)
  | 'e' :: _ => some ('\x1b', 1)
  | '"' :: _ => some ('"', 1)
  | '\\' :: _ => some ('\\', 1)
  | 'x' :: rest => spelled 2 rest
  | 'u' :: rest => spelled 4 rest
  | 'U' :: rest => spelled 8 rest
  | _ => none
where
  spelled (count : Nat) (s : List Char) : Option (Char × Nat) :=
    if (s.take count).length = count then (namedChar? (s.take count)).map (·, count + 1) else none

/-- The rest behind a backslash that joins lines: blanks, a line end, and all blanks and line ends
behind it. -/
def joinLines? (s : List Char) : Option (List Char) :=
  (cutLineEnd? (skipBlanks s)).map (skipLines false)

theorem length_joinLines {s rest : List Char} (h : joinLines? s = some rest) :
    rest.length < s.length := by
  unfold joinLines? at h
  obtain ⟨t, ht, rfl⟩ := Option.map_eq_some_iff.mp h
  exact Nat.lt_of_le_of_lt (length_skipLines_le _ _)
    (Nat.lt_of_lt_of_le (length_cutLineEnd ht) (length_skipBlanks_le s))

/-- Reads a text on one line whose opening quote has been taken. -/
def readLine (escapes : Bool) (quote : Char) (acc : List Char) :
    List Char → Option (List Char × List Char)
  | [] => none
  | c :: rest =>
    if c = quote then some (acc.reverse, rest)
    else if isControl c then none
    else if escapes ∧ c = '\\' then
      match escape? rest with
      | some (c, n) => readLine escapes quote (c :: acc) (rest.drop n)
      | none => none
    else readLine escapes quote (c :: acc) rest
termination_by s => s.length
decreasing_by all_goals simp only [List.length_cons, List.length_drop]; omega

/-- Reads a text over several lines whose opening quotes have been taken. Of a row of quotes the
last three end it, and not more than two may stand before them. -/
def readLines (escapes : Bool) (quote : Char) (acc : List Char) :
    List Char → Option (List Char × List Char)
  | [] => none
  | c :: rest =>
    if c = quote then
      let more := rest.takeWhile (· == quote)
      if more.length < 2 then readLines escapes quote (quote :: acc) rest
      else if 4 < more.length then none
      else some (acc.reverse ++ more.drop 2, rest.dropWhile (· == quote))
    else match h : cutLineEnd? (c :: rest) with
    | some behind =>
      have := length_cutLineEnd h
      readLines escapes quote ('\n' :: acc) behind
    | none =>
      if isControl c then none
      else if escapes ∧ c = '\\' then
        match h : joinLines? rest with
        | some behind =>
          have := length_joinLines h
          readLines escapes quote acc behind
        | none => match escape? rest with
          | some (c, n) => readLines escapes quote (c :: acc) (rest.drop n)
          | none => none
      else readLines escapes quote (c :: acc) rest
termination_by s => s.length
decreasing_by all_goals simp only [List.length_cons, List.length_drop] at *; omega

/-- Reads a text on one line. -/
def readQuoted? : List Char → Option (List Char × List Char)
  | '"' :: rest => readLine true '"' [] rest
  | '\'' :: rest => readLine false '\'' [] rest
  | _ => none

/-- Reads a text. A line end right behind triple quotes does not count. -/
def readText? : List Char → Option (List Char × List Char)
  | '"' :: '"' :: '"' :: rest => readLines true '"' [] ((cutLineEnd? rest).getD rest)
  | '\'' :: '\'' :: '\'' :: rest => readLines false '\'' [] ((cutLineEnd? rest).getD rest)
  | s => readQuoted? s

end AppAdmin.Toml
