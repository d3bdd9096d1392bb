/-!
Cutting a text at marks.
-/

namespace AppAdmin.Url

/-- The text before the first mark, and the text behind it if there is one. -/
def cut (mark : Char) (s : List Char) : List Char × Option (List Char) :=
  match s.dropWhile (· != mark) with
  | [] => (s.takeWhile (· != mark), none)
  | _ :: rest => (s.takeWhile (· != mark), some rest)

/-- The text before the last mark if there is one, and the text behind it. -/
def cutLast (mark : Char) (s : List Char) : Option (List Char) × List Char :=
  let behind := (s.reverse.takeWhile (· != mark)).reverse
  match s.reverse.dropWhile (· != mark) with
  | [] => (none, behind)
  | _ :: before => (some before.reverse, behind)

/-- The pieces between the characters of a class. A text without them is one piece. -/
def pieces (isMark : Char → Bool) : List Char → List (List Char)
  | [] => [[]]
  | c :: rest =>
    if isMark c then [] :: pieces isMark rest
    else match pieces isMark rest with
      | [] => [[c]]
      | piece :: more => (c :: piece) :: more

theorem pieces_ne_nil (isMark : Char → Bool) (s : List Char) : pieces isMark s ≠ [] := by
  cases s with
  | nil => simp [pieces]
  | cons c rest =>
    simp only [pieces]
    split
    · simp
    · split <;> simp

/-- Pieces with a mark between two of them. -/
def joinPieces (mark : Char) : List (List Char) → List Char
  | [] => []
  | [piece] => piece
  | piece :: rest => piece ++ mark :: joinPieces mark rest

theorem joinPieces_pieces (mark : Char) (s : List Char) :
    joinPieces mark (pieces (· == mark) s) = s := by
  induction s with
  | nil => rfl
  | cons c rest ih =>
    simp only [pieces]
    split
    · next h =>
      rw [beq_iff_eq] at h
      have := pieces_ne_nil (· == mark) rest
      cases hp : pieces (· == mark) rest with
      | nil => exact absurd hp this
      | cons p ps => rw [hp] at ih; simp [joinPieces, ih, h]
    · cases hp : pieces (· == mark) rest with
      | nil => exact absurd hp (pieces_ne_nil _ rest)
      | cons p ps =>
        rw [hp] at ih
        cases ps <;> simp_all [joinPieces]

end AppAdmin.Url
