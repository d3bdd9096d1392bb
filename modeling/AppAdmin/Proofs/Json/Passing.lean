import AppAdmin.Proofs.Json.Tokens

/-!
Passing over a value. Whatever the grammar allows is passed over, to its last byte and not beyond:
any numeral, any spelling, any nesting. The open brackets are kept in a list, so the law of a value
says how the list goes on, and a value takes a number of steps that its bytes bound.
-/

namespace AppAdmin.Json

/-! ### First bytes -/

theorem Numeral.exists_unsigned (n : Numeral) :
    ∃ (d : Fin 10) (s : Bytes), n.unsigned = digitSign d :: s :=
  ⟨n.whole.first, _, rfl⟩

theorem digitSign_ne (d : Fin 10) : isBlank (digitSign d) = false ∧ digitSign d ≠ 0x6E ∧
    digitSign d ≠ 0x74 ∧ digitSign d ≠ 0x66 ∧ digitSign d ≠ 0x2D := by
  have all : ∀ d : Fin 10, isBlank (digitSign d) = false ∧ digitSign d ≠ 0x6E ∧
      digitSign d ≠ 0x74 ∧ digitSign d ≠ 0x66 ∧ digitSign d ≠ 0x2D := by
    decide
  exact all d

/-- What the first byte of a value shows of it. -/
structure Opens (t : Tree) (b : UInt8) : Prop where
  blank : isBlank b = false
  close : b ≠ 0x5D
  null : b = 0x6E → t = .null
  text : b = 0x22 → ∃ s, t = .text s
  list : b = 0x5B → ∃ items, t = .list items
  record : b = 0x7B → ∃ members, t = .record members

theorem Numeral.exists_opens (n : Numeral) : ∃ b s, n.bytes = b :: s ∧ Opens (.number n) b := by
  obtain ⟨d, s, hs⟩ := n.exists_unsigned
  have hsign : ∀ d : Fin 10, isBlank (digitSign d) = false ∧ digitSign d ≠ 0x5D ∧
      digitSign d ≠ 0x6E ∧ digitSign d ≠ 0x22 ∧ digitSign d ≠ 0x5B ∧ digitSign d ≠ 0x7B := by
    decide
  obtain ⟨hblank, hclose, hnull, htext, hlist, hrecord⟩ := hsign d
  rw [Numeral.bytes, hs]
  cases n.negative with
  | true => exact ⟨_, _, rfl, ⟨rfl, by decide, nofun, nofun, nofun, nofun⟩⟩
  | false =>
      refine ⟨_, _, rfl, ⟨hblank, hclose, ?_, ?_, ?_, ?_⟩⟩
      · exact fun h => absurd h hnull
      · exact fun h => absurd h htext
      · exact fun h => absurd h hlist
      · exact fun h => absurd h hrecord

theorem Tree.exists_opens (t : Tree) : ∃ b s, t.bytes = b :: s ∧ Opens t b := by
  cases t with
  | null => exact ⟨_, _, rfl, ⟨rfl, by decide, fun _ => rfl, nofun, nofun, nofun⟩⟩
  | bool b =>
      cases b <;> exact ⟨_, _, rfl, ⟨rfl, by decide, nofun, nofun, nofun, nofun⟩⟩
  | number n => exact n.exists_opens
  | text s => exact ⟨_, _, rfl, ⟨rfl, by decide, nofun, fun _ => ⟨s, rfl⟩, nofun, nofun⟩⟩
  | list items =>
      exact ⟨_, _, rfl, ⟨rfl, by decide, nofun, nofun, fun _ => ⟨items, rfl⟩, nofun⟩⟩
  | record members =>
      exact ⟨_, _, rfl, ⟨rfl, by decide, nofun, nofun, nofun, fun _ => ⟨members, rfl⟩⟩⟩

/-! ### Steps -/

mutual

/-- How many steps it takes to pass over a value. -/
def Tree.steps : Tree → Nat
  | .null | .bool _ | .number _ | .text _ => 1
  | .list items => items.steps + 1
  | .record members => members.steps + 1

def Items.steps : Items → Nat
  | .close _ => 1
  | .item _ _ value rest => value.steps + rest.steps + 1

def Members.steps : Members → Nat
  | .close _ => 1
  | .member _ _ _ _ _ value rest => value.steps + rest.steps + 2

end

theorem skipFrom_number (n : Numeral) (k : Nat) (outer : List Bracket) (gap : Blanks)
    {rest : Bytes} (h : Ended rest) :
    skipFrom (k + 1) .value outer (gap.bytes ++ (n.bytes ++ rest)) = skipFrom k .next outer rest := by
  have hskip := skipNumber_numeral h n
  obtain ⟨d, s, hs⟩ := n.exists_unsigned
  obtain ⟨hblank, hnull, htrue, hfalse, hminus⟩ := digitSign_ne d
  rw [skipFrom, skipBlank_blanks, Numeral.bytes]
  cases n.negative with
  | true =>
      rw [if_pos rfl, List.cons_append, skipBlank_cons rfl]
      dsimp only
      rw [hskip]
      rfl
  | false =>
      rw [hs, List.cons_append] at hskip
      rw [if_neg Bool.false_ne_true, hs, List.cons_append, skipBlank_cons hblank]
      dsimp only
      rw [if_neg hnull, if_neg htrue, if_neg hfalse, if_neg hminus, if_pos (isDigit_digitSign d),
        hskip]

section Brackets

variable (bracket : Bracket) (first : Bool) (k : Nat) (outer : List Bracket) (gap : Blanks)

/-- What comes next inside a bracket: the first item, or a comma and another one. -/
def turn (first : Bool) : SkipState := if first then .first else .next

theorem Bracket.closing_plain : isBlank bracket.closing = false ∧ bracket.closing ≠ 0x2C := by
  cases bracket <;> decide

theorem skipFrom_close (rest : Bytes) :
    skipFrom (k + 1) (turn first) (bracket :: outer) (gap.bytes ++ bracket.closing :: rest) =
      skipFrom k .next outer rest := by
  obtain ⟨hblank, hcomma⟩ := bracket.closing_plain
  cases first with
  | true =>
      rw [turn, if_pos rfl, skipFrom, skipBlank_blanks, skipBlank_cons hblank]
      dsimp only
      rw [if_pos rfl]
  | false =>
      rw [turn, if_neg Bool.false_ne_true, skipFrom, skipBlank_blanks, skipBlank_cons hblank]
      dsimp only
      rw [if_neg hcomma, if_pos rfl]

/-- Blanks and the comma are passed over, and perhaps the blanks behind it as well. -/
theorem skipFrom_item (lead : Blanks) {b : UInt8} (hblank : isBlank b = false)
    (hclose : b ≠ bracket.closing) (s : Bytes) : ∃ left : Blanks,
    skipFrom (k + 1) (turn first) (bracket :: outer)
        (gap.bytes ++ (commaBytes first ++ (lead.bytes ++ b :: s))) =
      skipFrom k bracket.inside (bracket :: outer) (left.bytes ++ b :: s) := by
  cases first with
  | true =>
      refine ⟨.none, ?_⟩
      rw [commaBytes, if_pos rfl, List.nil_append, turn, if_pos rfl, skipFrom, skipBlank_blanks,
        skipBlank_blanks, skipBlank_cons hblank]
      dsimp only
      rw [if_neg hclose]
      rfl
  | false =>
      refine ⟨lead, ?_⟩
      rw [commaBytes, if_neg Bool.false_ne_true, turn, if_neg Bool.false_ne_true, skipFrom, skipBlank_blanks,
        List.singleton_append, skipBlank_cons rfl]
      rfl

end Brackets

theorem skipName_spelling (lead colon : Blanks) (name : Spelling) (s : Bytes) :
    skipName (lead.bytes ++ 0x22 :: (name.bytes ++ 0x22 :: (colon.bytes ++ 0x3A :: s))) = .ok s := by
  have hskip := skipText_spelling name (colon.bytes ++ 0x3A :: s)
  rw [skipName, skipBlank_blanks, skipBlank_cons rfl]
  dsimp only
  rw [if_neg (fun h => h rfl), hskip]
  dsimp only
  rw [skipBlank_blanks, skipBlank_cons rfl]
  rfl

mutual

/-- A value is passed over. -/
theorem skipFrom_tree : ∀ (t : Tree) (k : Nat) (outer : List Bracket) (gap : Blanks)
    (rest : Bytes), Ended rest →
      skipFrom (k + t.steps) .value outer (gap.bytes ++ (t.bytes ++ rest)) =
        skipFrom k .next outer rest
  | .null, k, outer, gap, rest, _ => by
    rw [Tree.steps, skipFrom, skipBlank_blanks]
    rfl
  | .bool true, k, outer, gap, rest, _ => by
    rw [Tree.steps, skipFrom, skipBlank_blanks]
    rfl
  | .bool false, k, outer, gap, rest, _ => by
    rw [Tree.steps, skipFrom, skipBlank_blanks]
    rfl
  | .number n, k, outer, gap, rest, h => by
    rw [Tree.steps, Tree.bytes]
    exact skipFrom_number n k outer gap h
  | .text s, k, outer, gap, rest, _ => by
    have hskip := skipText_spelling s rest
    have hdigit : isDigit 0x22 = false := rfl
    rw [Tree.steps, skipFrom, skipBlank_blanks, Tree.bytes, List.cons_append,
      List.append_assoc, List.singleton_append, skipBlank_cons rfl]
    simp [hskip, hdigit]
  | .list items, k, outer, gap, rest, _ => by
    have hitems := skipFrom_items items k true outer rest
    have hdigit : isDigit 0x5B = false := rfl
    rw [Tree.steps, ← Nat.add_assoc, skipFrom, skipBlank_blanks, Tree.bytes, List.cons_append,
      skipBlank_cons rfl]
    simpa [hdigit, turn] using hitems
  | .record members, k, outer, gap, rest, _ => by
    have hmembers := skipFrom_members members k true outer rest
    have hdigit : isDigit 0x7B = false := rfl
    rw [Tree.steps, ← Nat.add_assoc, skipFrom, skipBlank_blanks, Tree.bytes, List.cons_append,
      skipBlank_cons rfl]
    simpa [hdigit, turn] using hmembers

theorem skipFrom_items : ∀ (items : Items) (k : Nat) (first : Bool) (outer : List Bracket)
    (rest : Bytes),
      skipFrom (k + items.steps) (turn first) (.list :: outer) (items.bytes first ++ rest) =
        skipFrom k .next outer rest
  | .close gap, k, first, outer, rest => by
    rw [Items.steps, Items.bytes, List.append_assoc, List.singleton_append]
    exact skipFrom_close .list first k outer gap rest
  | .item gap lead value items, k, first, outer, rest => by
    obtain ⟨b, s, hbytes, hopens⟩ := value.exists_opens
    obtain ⟨left, hitem⟩ := skipFrom_item .list first (k + items.steps + value.steps) outer gap lead
      hopens.blank hopens.close (s ++ (items.bytes false ++ rest))
    have hvalue := skipFrom_tree value (k + items.steps) (.list :: outer) left
      (items.bytes false ++ rest) (items.ended rest)
    rw [hbytes, List.cons_append] at hvalue
    rw [Items.steps, Items.bytes, hbytes]
    simp only [List.append_assoc, List.cons_append]
    rw [show k + (value.steps + items.steps + 1) = k + items.steps + value.steps + 1 by omega, hitem]
    exact hvalue.trans (skipFrom_items items k false outer rest)

theorem skipFrom_members : ∀ (members : Members) (k : Nat) (first : Bool)
    (outer : List Bracket) (rest : Bytes),
      skipFrom (k + members.steps) (turn first) (.record :: outer) (members.bytes first ++ rest) =
        skipFrom k .next outer rest
  | .close gap, k, first, outer, rest => by
    rw [Members.steps, Members.bytes, List.append_assoc, List.singleton_append]
    exact skipFrom_close .record first k outer gap rest
  | .member gap lead name colon space value members, k, first, outer, rest => by
    obtain ⟨left, hitem⟩ := skipFrom_item .record first (k + members.steps + value.steps + 1) outer
      gap lead (b := 0x22) rfl (by decide) (name.bytes ++ 0x22 :: (colon.bytes ++ 0x3A ::
        (space.bytes ++ (value.bytes ++ (members.bytes false ++ rest)))))
    have hname := skipName_spelling left colon name
      (space.bytes ++ (value.bytes ++ (members.bytes false ++ rest)))
    have hvalue := skipFrom_tree value (k + members.steps) (.record :: outer) space
      (members.bytes false ++ rest) (members.ended rest)
    rw [Members.steps, Members.bytes]
    simp only [List.append_assoc, List.cons_append]
    rw [show k + (value.steps + members.steps + 2) = k + members.steps + value.steps + 1 + 1 by omega,
      hitem, Bracket.inside, skipFrom, hname]
    exact hvalue.trans (skipFrom_members members k false outer rest)

end

/-! ### Fuel -/

mutual

theorem Tree.steps_lt : ∀ t : Tree, t.steps + 1 ≤ 2 * t.bytes.length
  | .null | .bool true | .bool false => by simp [Tree.steps, Tree.bytes]
  | .number n => by
    obtain ⟨d, s, hs⟩ := n.exists_unsigned
    rw [Tree.steps, Tree.bytes, Numeral.bytes, hs]
    split <;> simp only [List.length_cons] <;> omega
  | .text s => by
    simp only [Tree.steps, Tree.bytes, List.length_cons]
    omega
  | .list items => by
    have hitems := items.steps_le true
    simp only [Tree.steps, Tree.bytes, List.length_cons]
    omega
  | .record members => by
    have hmembers := members.steps_le true
    simp only [Tree.steps, Tree.bytes, List.length_cons]
    omega

theorem Items.steps_le : ∀ (items : Items) (first : Bool),
    items.steps ≤ 2 * (items.bytes first).length
  | .close gap, first => by
    simp only [Items.steps, Items.bytes, List.length_append, List.length_singleton]
    omega
  | .item gap lead value items, first => by
    have hvalue := value.steps_lt
    have hitems := items.steps_le false
    simp only [Items.steps, Items.bytes, List.length_append]
    omega

theorem Members.steps_le : ∀ (members : Members) (first : Bool),
    members.steps ≤ 2 * (members.bytes first).length
  | .close gap, first => by
    simp only [Members.steps, Members.bytes, List.length_append, List.length_singleton]
    omega
  | .member gap lead name colon space value members, first => by
    have hvalue := value.steps_lt
    have hmembers := members.steps_le false
    simp only [Members.steps, Members.bytes, List.length_append, List.length_cons]
    omega

end

theorem Items.length_lt : ∀ (items : Items) (first : Bool),
    items.toList.length < (items.bytes first).length
  | .close gap, first => by
    simp only [Items.toList, Items.bytes, List.length_append, List.length_nil, List.length_singleton]
    omega
  | .item gap lead value rest, first => by
    have hrest := rest.length_lt false
    obtain ⟨b, s, hbytes, -⟩ := value.exists_opens
    simp only [Items.toList, Items.bytes, hbytes, List.length_append, List.length_cons]
    omega

theorem Members.length_lt : ∀ (members : Members) (first : Bool),
    members.toList.length < (members.bytes first).length
  | .close gap, first => by
    simp only [Members.toList, Members.bytes, List.length_append, List.length_nil,
      List.length_singleton]
    omega
  | .member gap lead name colon space value rest, first => by
    have hrest := rest.length_lt false
    simp only [Members.toList, Members.bytes, List.length_append, List.length_cons]
    omega

/-- **Whatever the grammar allows is passed over.** -/
theorem skipValue_tree (t : Tree) (gap : Blanks) {rest : Bytes} (h : Ended rest) :
    skipValue (gap.bytes ++ (t.bytes ++ rest)) = .ok rest := by
  have hsteps := t.steps_lt
  obtain ⟨k, hk⟩ : ∃ k, 2 * (gap.bytes ++ (t.bytes ++ rest)).length + 2 = k + 1 + t.steps := by
    refine ⟨2 * (gap.bytes ++ (t.bytes ++ rest)).length + 1 - t.steps, ?_⟩
    simp only [List.length_append]
    omega
  rw [skipValue, hk, skipFrom_tree t (k + 1) [] gap rest h, skipFrom]

end AppAdmin.Json
