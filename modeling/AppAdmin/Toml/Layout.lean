/-!
What stands between the parts of a TOML document: blanks, comments and line ends.
-/

namespace AppAdmin.Toml

/-- The blanks within a line. -/
def isBlank (c : Char) : Bool := c == ' ' || c == '\t'

/-- Controls, which stand nowhere but for the tab and the line ends. -/
def isControl (c : Char) : Bool := c.toNat < 0x20 && c != '\t' || c.toNat == 0x7F

def skipBlanks (s : List Char) : List Char := s.dropWhile isBlank

/-- Takes a line end: a line feed, with a carriage return in front or without. -/
def cutLineEnd? : List Char → Option (List Char)
  | '\n' :: rest => some rest
  | '\r' :: '\n' :: rest => some rest
  | _ => none

/-- Drops a comment, if there is one, up to the end of its line. -/
def skipComment (s : List Char) : List Char :=
  match s with
  | '#' :: rest => rest.dropWhile fun c => !isControl c
  | s => s

/-- The rest behind the end of a line, where only a comment may stand. -/
def endLine? (s : List Char) : Option (List Char) :=
  match skipComment (skipBlanks s) with
  | [] => some []
  | rest => cutLineEnd? rest

theorem length_skipBlanks_le (s : List Char) : (skipBlanks s).length ≤ s.length :=
  (List.dropWhile_suffix isBlank).length_le

theorem length_skipComment_le (s : List Char) : (skipComment s).length ≤ s.length := by
  unfold skipComment
  split
  · exact Nat.le_succ_of_le (List.dropWhile_suffix _).length_le
  · exact Nat.le_refl _

theorem length_cutLineEnd {s rest : List Char} (h : cutLineEnd? s = some rest) :
    rest.length < s.length := by
  unfold cutLineEnd? at h
  split at h
  · rw [Option.some.inj h]
    exact Nat.lt_succ_self _
  · rw [Option.some.inj h]
    exact Nat.lt_succ_of_lt (Nat.lt_succ_self _)
  · contradiction

/-- Drops blanks, and a comment if one may stand here. -/
def skipInLine (comments : Bool) (s : List Char) : List Char :=
  if comments then skipComment (skipBlanks s) else skipBlanks s

theorem length_skipInLine_le (comments : Bool) (s : List Char) :
    (skipInLine comments s).length ≤ s.length := by
  unfold skipInLine
  split
  · exact Nat.le_trans (length_skipComment_le _) (length_skipBlanks_le s)
  · exact length_skipBlanks_le s

/-- Drops blanks and line ends, and comments if they may stand here. -/
def skipLines (comments : Bool) (s : List Char) : List Char :=
  match h : cutLineEnd? (skipInLine comments s) with
  | some behind =>
    have := Nat.lt_of_lt_of_le (length_cutLineEnd h) (length_skipInLine_le comments s)
    skipLines comments behind
  | none => skipInLine comments s
termination_by s.length

theorem length_skipLines_le (comments : Bool) (s : List Char) :
    (skipLines comments s).length ≤ s.length := by
  fun_induction skipLines comments s with
  | case1 s behind h hlt ih => exact Nat.le_trans ih (Nat.le_of_lt hlt)
  | case2 s h => exact length_skipInLine_le comments s

end AppAdmin.Toml
