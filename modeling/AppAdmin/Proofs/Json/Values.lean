import AppAdmin.Proofs.Json.Numerals
import AppAdmin.Proofs.Json.Typed

/-!
Values of any type. Other than passing over a value, reading one asks for more than its grammar: each
number must be in range, each text well-formed, and the brackets must not be nested too deep. A tree has
a value exactly if that is so everywhere in it.
-/

namespace AppAdmin.Json

mutual

/-- The value that a tree says, inside fewer than `depth` brackets. -/
def Tree.value? (depth : Nat) : Tree → Option Value
  | .null => some .null
  | .bool b => some (.bool b)
  | .number n => n.number?.map .number
  | .text s => s.text?.map .text
  | .list items => if depth ≤ 1 then none else (items.values? (depth - 1)).map .list
  | .record members => if depth ≤ 1 then none else (members.values? (depth - 1)).map .record

def Items.values? (depth : Nat) : Items → Option (List Value)
  | .close _ => some []
  | .item _ _ value rest =>
    (value.value? depth).bind fun v => (rest.values? depth).map fun vs => v :: vs

def Members.values? (depth : Nat) : Members → Option (List (String × Value))
  | .close _ => some []
  | .member _ _ name _ _ value rest =>
    name.text?.bind fun key => (value.value? depth).bind fun v =>
      (rest.values? depth).map fun vs => (key, v) :: vs

end

mutual

/-- Every number is in range, every text is well-formed, and fewer than `depth` brackets are nested. -/
def Tree.HasValue (depth : Nat) : Tree → Prop
  | .null | .bool _ => True
  | .number n => n.number?.isSome = true
  | .text s => s.text?.isSome = true
  | .list items => 1 < depth ∧ items.HaveValues (depth - 1)
  | .record members => 1 < depth ∧ members.HaveValues (depth - 1)

def Items.HaveValues (depth : Nat) : Items → Prop
  | .close _ => True
  | .item _ _ value rest => value.HasValue depth ∧ rest.HaveValues depth

def Members.HaveValues (depth : Nat) : Members → Prop
  | .close _ => True
  | .member _ _ name _ _ value rest =>
    name.text?.isSome = true ∧ value.HasValue depth ∧ rest.HaveValues depth

end

mutual

theorem Tree.isSome_value?_iff : ∀ (t : Tree) (depth : Nat),
    (t.value? depth).isSome = true ↔ t.HasValue depth
  | .null, _ | .bool _, _ => by simp [Tree.value?, Tree.HasValue]
  | .number n, _ => by rw [Tree.value?, Tree.HasValue, Option.isSome_map]
  | .text s, _ => by rw [Tree.value?, Tree.HasValue, Option.isSome_map]
  | .list items, depth => by
    rw [Tree.value?, Tree.HasValue, ← items.isSome_values?_iff (depth - 1)]
    by_cases hdepth : depth ≤ 1
    · rw [if_pos hdepth]
      exact iff_of_false Bool.false_ne_true fun h => Nat.not_lt.mpr hdepth h.1
    · rw [if_neg hdepth, Option.isSome_map, and_iff_right (Nat.not_le.mp hdepth)]
  | .record members, depth => by
    rw [Tree.value?, Tree.HasValue, ← members.isSome_values?_iff (depth - 1)]
    by_cases hdepth : depth ≤ 1
    · rw [if_pos hdepth]
      exact iff_of_false Bool.false_ne_true fun h => Nat.not_lt.mpr hdepth h.1
    · rw [if_neg hdepth, Option.isSome_map, and_iff_right (Nat.not_le.mp hdepth)]

theorem Items.isSome_values?_iff : ∀ (items : Items) (depth : Nat),
    (items.values? depth).isSome = true ↔ items.HaveValues depth
  | .close _, _ => by simp [Items.values?, Items.HaveValues]
  | .item _ _ value rest, depth => by
    rw [Items.values?, Items.HaveValues, ← value.isSome_value?_iff depth,
      ← rest.isSome_values?_iff depth]
    cases value.value? depth <;> simp

theorem Members.isSome_values?_iff : ∀ (members : Members) (depth : Nat),
    (members.values? depth).isSome = true ↔ members.HaveValues depth
  | .close _, _ => by simp [Members.values?, Members.HaveValues]
  | .member _ _ name _ _ value rest, depth => by
    rw [Members.values?, Members.HaveValues, ← value.isSome_value?_iff depth,
      ← rest.isSome_values?_iff depth]
    cases name.text? <;> cases value.value? depth <;> simp

end

/-! ### Reading -/

theorem readValue_number (n : Numeral) (fuel depth : Nat) (gap : Blanks) {rest : Bytes}
    (h : Ended rest) :
    (readValue (fuel + 1) depth (gap.bytes ++ (n.bytes ++ rest))).toOption =
      (n.number?.map .number).map fun v => (v, rest) := by
  have hread := readNumber_numeral h n
  obtain ⟨d, s, hs⟩ := n.exists_unsigned
  obtain ⟨hblank, hnull, htrue, hfalse, hminus⟩ := digitSign_ne d
  rw [readValue, skipBlank_blanks, Numeral.bytes, Option.map_map]
  cases hsign : n.negative with
  | true =>
      rw [hsign] at hread
      rw [if_pos rfl, List.cons_append, skipBlank_cons rfl]
      dsimp only
      rw [if_neg (by decide), if_neg (by decide), if_neg (by decide), if_pos rfl, toOption_map, hread,
        Option.map_map]
      rfl
  | false =>
      rw [hsign, hs, List.cons_append] at hread
      rw [if_neg Bool.false_ne_true, hs, List.cons_append, skipBlank_cons hblank]
      dsimp only
      rw [if_neg hnull, if_neg htrue, if_neg hfalse, if_neg hminus, if_pos (isDigit_digitSign d),
        toOption_map, hread, Option.map_map]
      rfl

theorem Tree.length_bytes_pos (t : Tree) : 0 < t.bytes.length := by
  obtain ⟨b, s, hbytes, -⟩ := t.exists_opens
  rw [hbytes]
  exact Nat.succ_pos _

mutual

/-- A value is read as what its tree says. Every step uses a byte, so that as much fuel as there are
bytes is enough. -/
theorem readValue_tree : ∀ (t : Tree) (fuel depth : Nat) (gap : Blanks) (rest : Bytes),
    Ended rest → t.bytes.length ≤ fuel →
      (readValue fuel depth (gap.bytes ++ (t.bytes ++ rest))).toOption =
        (t.value? depth).map fun v => (v, rest)
  | t, 0, _, _, _, _, hfuel => absurd hfuel (Nat.not_le.mpr t.length_bytes_pos)
  | .null, fuel + 1, depth, gap, rest, _, _ => by
    rw [readValue, skipBlank_blanks]
    rfl
  | .bool true, fuel + 1, depth, gap, rest, _, _ => by
    rw [readValue, skipBlank_blanks]
    rfl
  | .bool false, fuel + 1, depth, gap, rest, _, _ => by
    rw [readValue, skipBlank_blanks]
    rfl
  | .number n, fuel + 1, depth, gap, rest, h, _ => by
    rw [Tree.value?, Tree.bytes]
    exact readValue_number n fuel depth gap h
  | .text s, fuel + 1, depth, gap, rest, _, _ => by
    have hread := readText_spelling s rest
    have hdigit : isDigit 0x22 = false := rfl
    rw [readValue, skipBlank_blanks, Tree.bytes, List.cons_append, List.append_assoc,
      List.singleton_append, skipBlank_cons rfl, Tree.value?]
    simp [hread, hdigit, toOption_map, Function.comp_def]
  | .list items, fuel + 1, depth, gap, rest, _, hfuel => by
    have hdigit : isDigit 0x5B = false := rfl
    rw [Tree.bytes, List.length_cons] at hfuel
    have hread := readItems_items items fuel (depth - 1) true rest (Nat.le_of_succ_le_succ hfuel)
    rw [readValue, skipBlank_blanks, Tree.bytes, List.cons_append, skipBlank_cons rfl, Tree.value?]
    by_cases hdepth : depth ≤ 1
    · simp [hdigit, hdepth]
    · simp [hread, hdigit, hdepth, toOption_map, Function.comp_def]
  | .record members, fuel + 1, depth, gap, rest, _, hfuel => by
    have hdigit : isDigit 0x7B = false := rfl
    rw [Tree.bytes, List.length_cons] at hfuel
    have hread := readMembers_members members fuel (depth - 1) true rest
      (Nat.le_of_succ_le_succ hfuel)
    rw [readValue, skipBlank_blanks, Tree.bytes, List.cons_append, skipBlank_cons rfl, Tree.value?]
    by_cases hdepth : depth ≤ 1
    · simp [hdigit, hdepth]
    · simp [hread, hdigit, hdepth, toOption_map, Function.comp_def]

theorem readItems_items : ∀ (items : Items) (fuel depth : Nat) (first : Bool) (rest : Bytes),
    (items.bytes first).length ≤ fuel →
      (readItems fuel depth first (items.bytes first ++ rest)).toOption =
        (items.values? depth).map fun vs => (vs, rest)
  | items, 0, _, first, _, hfuel => by
    have hlength := items.length_lt first
    omega
  | .close gap, fuel + 1, depth, first, rest, _ => by
    rw [Items.bytes, List.append_assoc, List.singleton_append, readItems, gap.nextItem_close,
      Items.values?]
    rfl
  | .item gap lead value items, fuel + 1, depth, first, rest, hfuel => by
    have hpos := value.length_bytes_pos
    have hlength := items.length_lt false
    simp only [Items.bytes, List.length_append] at hfuel
    have hvalue := readValue_tree value fuel depth .none _ (items.ended rest) (by omega)
    have hitems := readItems_items items fuel depth false rest (by omega)
    rw [Blanks.none, List.nil_append] at hvalue
    simp only [Items.bytes, List.append_assoc]
    rw [readItems, nextItem_tree, Items.values?]
    simp only [ok_bind, toOption_bind, toOption_pure, hvalue]
    cases value.value? depth with
    | none => rfl
    | some v =>
        simp only [Option.map_some, Option.bind_some, hitems]
        cases items.values? depth <;> rfl

theorem readMembers_members : ∀ (members : Members) (fuel depth : Nat) (first : Bool)
    (rest : Bytes), (members.bytes first).length ≤ fuel →
      (readMembers fuel depth first (members.bytes first ++ rest)).toOption =
        (members.values? depth).map fun vs => (vs, rest)
  | members, 0, _, first, _, hfuel => by
    have hlength := members.length_lt first
    omega
  | .close gap, fuel + 1, depth, first, rest, _ => by
    rw [Members.bytes, List.append_assoc, List.singleton_append, readMembers, gap.nextMember_close,
      Members.values?]
    rfl
  | .member gap lead name colon space value members, fuel + 1, depth, first, rest, hfuel => by
    have hpos := value.length_bytes_pos
    have hlength := members.length_lt false
    simp only [Members.bytes, List.length_append, List.length_cons] at hfuel
    have hname := readText_spelling name (colon.bytes ++ 0x3A :: (space.bytes ++
      (value.bytes ++ (members.bytes false ++ rest))))
    have hvalue := readValue_tree value fuel depth space _ (members.ended rest) (by omega)
    have hmembers := readMembers_members members fuel depth false rest (by omega)
    simp only [Members.bytes, List.append_assoc, List.cons_append]
    rw [readMembers, gap.nextMember_item, Members.values?]
    simp only [ok_bind, toOption_bind, toOption_pure, hname]
    cases name.text? with
    | none => rfl
    | some key =>
        simp only [Option.map_some, Option.bind_some, colon.readColon, toOption_ok, hvalue]
        cases value.value? depth with
        | none => rfl
        | some v =>
            simp only [Option.map_some, Option.bind_some, hmembers]
            cases members.values? depth <;> rfl

end

/-- **A text says a value exactly if its tree does.** -/
theorem decode_script (script : Script) :
    (Value.decode script.bytes).toOption = script.value.value? depthLimit := by
  apply decodeWith_script
  refine readValue_tree script.value _ depthLimit script.before _ script.ended_after ?_
  simp only [Script.bytes, List.length_append]
  omega

/-! ### Members -/

section Lookup

variable {name : String} {depth : Nat}

theorem rows_values_member (gap lead : Blanks) (spelling : Spelling) (colon space : Blanks)
    (value : Tree) (rest : Members) {key : String} (hkey : spelling.text? = some key) :
    (Members.member gap lead spelling colon space value rest).rows.values name =
      if key = name then value :: rest.rows.values name else rest.rows.values name := by
  have hrows : (Members.member gap lead spelling colon space value rest).rows =
      [(some key, value)] ++ rest.rows := by
    rw [← hkey]
    rfl
  rw [hrows, Rows.values_append]
  by_cases heq : key = name
  · rw [if_pos heq, heq, Rows.values_self]
    rfl
  · rw [if_neg heq, Rows.values_other heq]
    rfl

theorem lookup_eq_none : ∀ (members : Members) {vs : List (String × Value)},
    members.values? depth = some vs → members.rows.values name = [] →
      Value.lookup name vs = none
  | .close gap, vs, h, _ => by
    cases h
    rfl
  | .member gap lead spelling colon space value rest, vs, h, hnone => by
    rw [Members.values?] at h
    obtain ⟨key, hkey, h⟩ := Option.bind_eq_some_iff.mp h
    obtain ⟨v, -, h⟩ := Option.bind_eq_some_iff.mp h
    obtain ⟨ws, hws, rfl⟩ := Option.map_eq_some_iff.mp h
    rw [rows_values_member gap lead spelling colon space value rest hkey] at hnone
    by_cases heq : key = name
    · rw [if_pos heq] at hnone
      cases hnone
    · rw [if_neg heq] at hnone
      rw [Value.lookup, if_neg heq, lookup_eq_none rest hws hnone]
      rfl

/-- What is found under the name of a single member is its value. -/
theorem lookup_eq {t : Tree} : ∀ (members : Members) {vs : List (String × Value)},
    members.values? depth = some vs → members.rows.values name = [t] →
      Value.lookup name vs = t.value? depth
  | .close gap, vs, _, hone => by cases hone
  | .member gap lead spelling colon space value rest, vs, h, hone => by
    rw [Members.values?] at h
    obtain ⟨key, hkey, h⟩ := Option.bind_eq_some_iff.mp h
    obtain ⟨v, hv, h⟩ := Option.bind_eq_some_iff.mp h
    obtain ⟨ws, hws, rfl⟩ := Option.map_eq_some_iff.mp h
    rw [rows_values_member gap lead spelling colon space value rest hkey] at hone
    by_cases heq : key = name
    · rw [if_pos heq] at hone
      obtain ⟨rfl, hrest⟩ := List.cons.inj hone
      rw [Value.lookup, if_pos heq, lookup_eq_none rest hws hrest, hv]
      rfl
    · rw [if_neg heq] at hone
      rw [Value.lookup, if_neg heq, lookup_eq rest hws hone, Option.or_none]

end Lookup

end AppAdmin.Json
