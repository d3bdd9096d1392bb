import AppAdmin.Url.Idna.Classes
import AppAdmin.Url.Idna.Composition

/-!
The rules for one label of a host name: how it may begin, where invisible joiners may stand, and in
which direction it runs.
-/

namespace AppAdmin.Url.Idna

/-- Whether a character is a mark that silences a vowel. -/
def isVirama (c : Char) : Bool := markClass c.toNat == 9

/-- Whether letters join across a place: the first one on either side that does not let the other
side through must join with it. -/
def joinsAcross (before behind : List Char) : Bool :=
  let next (s : List Char) := (s.dropWhile fun c => joinsThrough.contains c.toNat).head?
  match next before, next behind with
  | some a, some b =>
    (joinsBoth.contains a.toNat || joinsBehind.contains a.toNat)
      && (joinsBoth.contains b.toNat || joinsBefore.contains b.toNat)
  | _, _ => false

/-- Whether each joiner stands where one may stand; `before` is reversed. A joiner may follow a
virama, and the one that keeps letters apart may also stand where they would join. -/
def joinersFit (before : List Char) : List Char → Bool
  | [] => true
  | c :: rest =>
    let afterVirama := (before.head?.map isVirama).getD false
    let fits :=
      if c.toNat = 0x200D then afterVirama
      else if c.toNat = 0x200C then afterVirama || joinsAcross before rest
      else true
    fits && joinersFit (c :: before) rest

/-- Whether a label begins with a letter and has its joiners where they may stand. -/
def isWellFormed (label : List Char) : Bool :=
  (label.head?.map fun c => !marks.contains c.toNat).getD true && joinersFit [] label

/-- Whether a label in escaped form stood for a label at all: it must need the escape, be composed
and have no character that stands for another. -/
def isEscapable (label : List Char) : Bool :=
  label.any (0x80 ≤ ·.toNat) && label.all (fun c => mapChar c == some [c])
    && compose label == label

/-- Whether a character is written from right to left, or makes its surroundings so. -/
def isRightToLeft (c : Char) : Bool :=
  match directionOf c with
  | .right | .arabicNumber => true
  | _ => false

/-- The direction of the last character that has one of its own. -/
def lastDirection (label : List Char) : Option Direction :=
  ((label.reverse.map directionOf).dropWhile (· == .nonspacing)).head?

/-- Whether a label keeps to one direction. -/
def keepsDirection (label : List Char) : Bool :=
  let directions := label.map directionOf
  match directions.head?, lastDirection label with
  | none, _ => true
  | some .right, some last =>
    !directions.contains .left
      && (last == .right || last == .europeanNumber || last == .arabicNumber)
      && !(directions.contains .europeanNumber && directions.contains .arabicNumber)
  | some .left, some last =>
    !directions.contains .right && !directions.contains .arabicNumber
      && (last == .left || last == .europeanNumber)
  | _, _ => false

end AppAdmin.Url.Idna
