import AppAdmin.Json.Reader
import AppAdmin.Proofs.Json.Texts

/-!
The two ways of writing a value differ in nothing but blanks. Both are layouts: they say what stands
in front of an item and behind a colon, and a reader passes over either.
-/

namespace AppAdmin.Json

open Text.Utf8 (octets octets_append octets_cons)

/-! ### Layouts -/

/-- A text of blanks. -/
def IsBlankText (s : List Char) : Prop := ∀ c ∈ s, c = ' ' ∨ c = '\n'

theorem isBlankText_nil : IsBlankText [] := by simp [IsBlankText]

theorem isBlankText_newLine (level : Nat) : IsBlankText (newLine level) := by
  intro c hc
  obtain rfl | hc := List.mem_cons.mp hc
  · exact Or.inr rfl
  · exact Or.inl (List.eq_of_mem_replicate hc)

/-- The blanks of a JSON text: in front of what stands inside some brackets, and behind a colon. -/
structure Layout where
  line : Nat → List Char
  gap : List Char
  line_blank : ∀ level, IsBlankText (line level)
  gap_blank : IsBlankText gap

namespace Layout

def compact : Layout := ⟨fun _ => [], [], fun _ => isBlankText_nil, isBlankText_nil⟩

def pretty : Layout := ⟨newLine, [' '], isBlankText_newLine, by simp [IsBlankText]⟩

/-- In front of the closing bracket, unless nothing stands inside. -/
def ending (l : Layout) (level : Nat) (empty : Bool) : List Char :=
  if empty then [] else l.line level

theorem ending_blank (l : Layout) (level : Nat) (empty : Bool) :
    IsBlankText (l.ending level empty) := by
  cases empty
  · exact l.line_blank level
  · exact isBlankText_nil

@[simp]
theorem compact_line (level : Nat) : compact.line level = [] := rfl

@[simp]
theorem compact_gap : compact.gap = [] := rfl

@[simp]
theorem compact_ending (level : Nat) (empty : Bool) : compact.ending level empty = [] := by
  cases empty <;> rfl

@[simp]
theorem pretty_line (level : Nat) : pretty.line level = newLine level := rfl

@[simp]
theorem pretty_gap : pretty.gap = [' '] := rfl

end Layout

/-- The comma in front of all items but the first. -/
def comma (first : Bool) : List Char := if first then [] else [',']

mutual

/-- A value inside `level` brackets. -/
def Value.layOut (l : Layout) (level : Nat) : Value → List Char
  | .null => Value.print .null
  | .bool b => Value.print (.bool b)
  | .number n => n.print
  | .text s => printText s
  | .list items =>
    '[' :: (layItems l (level + 1) true items ++ (l.ending level items.isEmpty ++ [']']))
  | .record members =>
    '\x7b' :: (layMembers l (level + 1) true members ++ (l.ending level members.isEmpty ++ ['\x7d']))

def layItems (l : Layout) (level : Nat) (first : Bool) : List Value → List Char
  | [] => []
  | value :: rest =>
    comma first ++ l.line level ++ (value.layOut l level ++ layItems l level false rest)

def layMembers (l : Layout) (level : Nat) (first : Bool) : List (String × Value) → List Char
  | [] => []
  | (name, value) :: rest =>
    comma first ++ l.line level ++ (printText name ++ (':' :: l.gap ++
      (value.layOut l level ++ layMembers l level false rest)))

end

mutual

theorem layOut_compact (level : Nat) : ∀ v : Value, v.layOut .compact level = v.print
  | .null => rfl
  | .bool _ => rfl
  | .number _ => rfl
  | .text _ => rfl
  | .list items => by simp [Value.layOut, Value.print, layItems_compact]
  | .record members => by simp [Value.layOut, Value.print, layMembers_compact]

theorem layItems_compact (level : Nat) : ∀ items : List Value,
    layItems .compact level true items = printItems items
  | [] => rfl
  | [value] => by simp [layItems, printItems, comma, layOut_compact]
  | value :: next :: rest => by
    have hrest := layItems_compact level (next :: rest)
    simp only [layItems, comma, Layout.compact_line] at hrest
    simp [layItems, printItems, comma, layOut_compact level value, ← hrest]

theorem layMembers_compact (level : Nat) : ∀ members : List (String × Value),
    layMembers .compact level true members = printMembers members
  | [] => rfl
  | [(name, value)] => by simp [layMembers, printMembers, comma, layOut_compact]
  | (name, value) :: next :: rest => by
    have hrest := layMembers_compact level (next :: rest)
    simp only [layMembers, comma, Layout.compact_line] at hrest
    simp [layMembers, printMembers, comma, layOut_compact level value, ← hrest]

end

mutual

theorem layOut_pretty (level : Nat) : ∀ v : Value, v.layOut .pretty level = v.printLines level
  | .null => rfl
  | .bool _ => rfl
  | .number _ => rfl
  | .text _ => rfl
  | .list [] => rfl
  | .list (value :: rest) => by
    have hitems := layItems_pretty (level + 1) (value :: rest) (List.cons_ne_nil value rest)
    simp [Value.layOut, Value.printLines, hitems, Layout.ending]
  | .record [] => rfl
  | .record (member :: rest) => by
    have hmembers := layMembers_pretty (level + 1) (member :: rest) (List.cons_ne_nil member rest)
    simp [Value.layOut, Value.printLines, hmembers, Layout.ending]

theorem layItems_pretty (level : Nat) : ∀ items : List Value, items ≠ [] →
    layItems .pretty level true items = newLine level ++ printItemLines level items
  | [], h => absurd rfl h
  | [value], _ => by simp [layItems, printItemLines, comma, layOut_pretty]
  | value :: next :: rest, _ => by
    have hrest := layItems_pretty level (next :: rest) (List.cons_ne_nil next rest)
    simp only [layItems, comma, Layout.pretty_line] at hrest
    simp [layItems, printItemLines, comma, layOut_pretty level value, ← hrest]

theorem layMembers_pretty (level : Nat) : ∀ members : List (String × Value), members ≠ [] →
    layMembers .pretty level true members = newLine level ++ printMemberLines level members
  | [], h => absurd rfl h
  | [(name, value)], _ => by simp [layMembers, printMemberLines, comma, layOut_pretty]
  | (name, value) :: next :: rest, _ => by
    have hrest := layMembers_pretty level (next :: rest) (List.cons_ne_nil next rest)
    simp only [layMembers, comma, Layout.pretty_line] at hrest
    simp [layMembers, printMemberLines, comma, layOut_pretty level value, ← hrest]

end

end AppAdmin.Json
