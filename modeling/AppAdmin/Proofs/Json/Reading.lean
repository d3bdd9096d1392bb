import AppAdmin.Proofs.Json.Layout
import AppAdmin.Proofs.Json.Tokens

/-!
Values are read from what is written for them, in any layout and with anything behind it. Numbers
are left out, of which real ones are written in several ways, and so is what is nested too deep.
-/

namespace AppAdmin.Json

open Text.Utf8 (encodeChar octets octets_append octets_cons)

/-! ### Blanks and marks -/

theorem octets_nil : octets [] = [] := rfl

/-- The bytes of the marks that stand between values. -/
theorem encodeChar_marks : encodeChar '[' = [0x5B] ∧ encodeChar ']' = [0x5D] ∧
    encodeChar '\x7b' = [0x7B] ∧ encodeChar '\x7d' = [0x7D] ∧ encodeChar '"' = [0x22] ∧
    encodeChar ':' = [0x3A] ∧ encodeChar ',' = [0x2C] := by
  decide

/-- The bytes of a text of blanks. -/
def IsBlankText.blanks {b : List Char} (hb : IsBlankText b) : Blanks where
  bytes := octets b
  blank x hx := by
    obtain ⟨c, hc, hx⟩ := List.mem_flatMap.mp hx
    obtain rfl | rfl := hb c hc
    all_goals
      rw [List.mem_singleton.mp hx]
      rfl

theorem skipBlank_append {b : List Char} (hb : IsBlankText b) (s : Bytes) :
    skipBlank (octets b ++ s) = skipBlank s :=
  skipBlank_blanks hb.blanks s

theorem skipBlank_blank {b : List Char} (hb : IsBlankText b) : skipBlank (octets b) = [] := by
  have happend := skipBlank_append hb []
  rwa [List.append_nil] at happend

theorem octets_comma (first : Bool) (b : List Char) :
    octets (comma first ++ b) = commaBytes first ++ octets b := by
  cases first <;> rfl

section Marks

variable {b : List Char} (hb : IsBlankText b) (first : Bool) (s : Bytes)

include hb

theorem nextItem_close : nextItem first (octets b ++ 0x5D :: s) = .ok (.close s) :=
  hb.blanks.nextItem_close first s

theorem nextItem_item {x : UInt8} (hblank : isBlank x = false) (hend : x ≠ 0x5D) :
    nextItem first (octets (comma first ++ b) ++ x :: s) = .ok (.item (x :: s)) := by
  rw [octets_comma, List.append_assoc]
  exact Blanks.none.nextItem_item hb.blanks first s hblank hend

theorem nextMember_close : nextMember first (octets b ++ 0x7D :: s) = .ok (.close s) :=
  hb.blanks.nextMember_close first s

theorem nextMember_item :
    nextMember first (octets (comma first ++ b) ++ 0x22 :: s) = .ok (.item s) := by
  rw [octets_comma, List.append_assoc]
  exact Blanks.none.nextMember_item hb.blanks first s

end Marks

theorem readColon_cons (s : Bytes) : readColon (0x3A :: s) = .ok s := rfl

/-! ### First bytes -/

variable (l : Layout) (level : Nat)

/-- What a value that is no number begins with. -/
theorem exists_octets_layOut {v : Value} (hv : ∀ n, v ≠ .number n) :
    ∃ x s, octets (v.layOut l level) = x :: s ∧ isBlank x = false ∧ x ≠ 0x5D ∧
      (v ≠ .null → x ≠ 0x6E) := by
  cases v with
  | null => exact ⟨0x6E, _, rfl, rfl, by decide, fun h => absurd rfl h⟩
  | bool b =>
      cases b
      · exact ⟨0x66, _, rfl, rfl, by decide, fun _ => by decide⟩
      · exact ⟨0x74, _, rfl, rfl, by decide, fun _ => by decide⟩
  | number n => exact absurd rfl (hv n)
  | text s => exact ⟨0x22, _, rfl, rfl, by decide, fun _ => by decide⟩
  | list items => exact ⟨0x5B, _, rfl, rfl, by decide, fun _ => by decide⟩
  | record members => exact ⟨0x7B, _, rfl, rfl, by decide, fun _ => by decide⟩

theorem octets_layOut_pos {v : Value} (hv : ∀ n, v ≠ .number n) :
    0 < (octets (v.layOut l level)).length := by
  obtain ⟨x, s, hbytes, -⟩ := exists_octets_layOut l level hv
  rw [hbytes]
  exact Nat.succ_pos _

theorem nextItem_layOut {b : List Char} (hb : IsBlankText b) (first : Bool) {v : Value}
    (hv : ∀ n, v ≠ .number n) (s : Bytes) :
    nextItem first (octets (comma first ++ b) ++ (octets (v.layOut l level) ++ s)) =
      .ok (.item (octets (v.layOut l level) ++ s)) := by
  obtain ⟨x, t, hbytes, hblank, hend, -⟩ := exists_octets_layOut l level hv
  rw [hbytes]
  exact nextItem_item hb first _ hblank hend

omit l level in
theorem octets_printText (s : String) (rest : Bytes) : octets (printText s) ++ rest =
    0x22 :: (octets (s.toList.flatMap escape) ++ 0x22 :: rest) := by
  have hquote : octets ['"'] = [0x22] := rfl
  rw [printText, octets_append, octets_cons, hquote]
  simp [encodeChar_marks]

theorem octets_list (items : List Value) (rest : Bytes) :
    octets ((Value.list items).layOut l level) ++ rest =
      0x5B :: (octets (layItems l (level + 1) true items) ++
        (octets (l.ending level items.isEmpty) ++ 0x5D :: rest)) := by
  have hclose : octets [']'] = [0x5D] := rfl
  rw [Value.layOut, octets_cons, octets_append, octets_append, hclose]
  simp [encodeChar_marks]

theorem octets_record (members : List (String × Value)) (rest : Bytes) :
    octets ((Value.record members).layOut l level) ++ rest =
      0x7B :: (octets (layMembers l (level + 1) true members) ++
        (octets (l.ending level members.isEmpty) ++ 0x7D :: rest)) := by
  have hclose : octets ['\x7d'] = [0x7D] := rfl
  rw [Value.layOut, octets_cons, octets_append, octets_append, hclose]
  simp [encodeChar_marks]

theorem octets_items (first : Bool) (value : Value) (values : List Value) (rest : Bytes) :
    octets (layItems l level first (value :: values)) ++ rest =
      octets (comma first ++ l.line level) ++ (octets (value.layOut l level) ++
        (octets (layItems l level false values) ++ rest)) := by
  rw [layItems, octets_append, octets_append (value.layOut l level)]
  simp

theorem octets_members (first : Bool) (name : String) (value : Value)
    (members : List (String × Value)) (rest : Bytes) :
    octets (layMembers l level first ((name, value) :: members)) ++ rest =
      octets (comma first ++ l.line level) ++ 0x22 :: (octets (name.toList.flatMap escape) ++
        0x22 :: 0x3A :: (octets l.gap ++ (octets (value.layOut l level) ++
          (octets (layMembers l level false members) ++ rest)))) := by
  rw [layMembers, octets_append, octets_append (printText name), List.append_assoc,
    List.append_assoc, octets_printText, List.cons_append, octets_cons, octets_append l.gap,
    octets_append (value.layOut l level)]
  simp [encodeChar_marks]

/-! ### Values -/

mutual

/-- A value without numbers whose brackets are nested less than `depth` deep. -/
def Value.FitsIn (depth : Nat) : Value → Prop
  | .null | .bool _ | .text _ => True
  | .number _ => False
  | .list items => 1 < depth ∧ ItemsFitIn (depth - 1) items
  | .record members => 1 < depth ∧ MembersFitIn (depth - 1) members

def ItemsFitIn (depth : Nat) : List Value → Prop
  | [] => True
  | value :: rest => value.FitsIn depth ∧ ItemsFitIn depth rest

def MembersFitIn (depth : Nat) : List (String × Value) → Prop
  | [] => True
  | (_, value) :: rest => value.FitsIn depth ∧ MembersFitIn depth rest

end

theorem Value.FitsIn.ne_number {depth : Nat} {v : Value} (h : v.FitsIn depth) :
    ∀ n, v ≠ .number n := by
  rintro n rfl
  simp [Value.FitsIn] at h

mutual

/-- A value is read from what is written for it. Every step uses a byte, so that as much fuel as
there are bytes is enough. -/
theorem readValue_layOut : ∀ (v : Value) (level fuel depth : Nat) (b : List Char) (rest : Bytes),
    v.FitsIn depth → IsBlankText b → (octets (v.layOut l level)).length ≤ fuel →
      readValue fuel depth (octets b ++ (octets (v.layOut l level) ++ rest)) = .ok (v, rest)
  | _, level, 0, _, _, _, hv, _, hfuel => by
    have hpos := octets_layOut_pos l level hv.ne_number
    omega
  | .null, _, fuel + 1, _, _, rest, _, hb, _ => by
    rw [readValue, skipBlank_append hb]
    rfl
  | .bool true, _, fuel + 1, _, _, rest, _, hb, _ => by
    rw [readValue, skipBlank_append hb]
    rfl
  | .bool false, _, fuel + 1, _, _, rest, _, hb, _ => by
    rw [readValue, skipBlank_append hb]
    rfl
  | .number n, _, _, _, _, _, hv, _, _ => absurd rfl (hv.ne_number n)
  | .text s, _, fuel + 1, _, _, rest, _, hb, _ => by
    rw [Value.layOut, octets_printText, readValue, skipBlank_append hb, skipBlank_cons rfl]
    dsimp only
    rw [readText_escapes]
    rfl
  | .list items, level, fuel + 1, depth, b, rest, hv, hb, hfuel => by
    obtain ⟨hdepth, hitems⟩ := hv
    have hlength := congrArg List.length (octets_list l level items [])
    simp only [List.append_nil, List.length_append, List.length_cons, List.length_nil] at hlength
    have hread := readItems_layItems items (level + 1) fuel (depth - 1) true
      (l.ending level items.isEmpty) rest hitems (l.ending_blank level items.isEmpty) (by omega)
    have hdigit : isDigit 0x5B = false := rfl
    rw [octets_list, readValue, skipBlank_append hb, skipBlank_cons rfl]
    simp [hread, hdigit, Nat.not_le.mpr hdepth, Except.map]
  | .record members, level, fuel + 1, depth, b, rest, hv, hb, hfuel => by
    obtain ⟨hdepth, hmembers⟩ := hv
    have hlength := congrArg List.length (octets_record l level members [])
    simp only [List.append_nil, List.length_append, List.length_cons, List.length_nil] at hlength
    have hread := readMembers_layMembers members (level + 1) fuel (depth - 1) true
      (l.ending level members.isEmpty) rest hmembers (l.ending_blank level members.isEmpty)
      (by omega)
    have hdigit : isDigit 0x7B = false := rfl
    rw [octets_record, readValue, skipBlank_append hb, skipBlank_cons rfl]
    simp [hread, hdigit, Nat.not_le.mpr hdepth, Except.map]

theorem readItems_layItems : ∀ (items : List Value) (level fuel depth : Nat) (first : Bool)
    (b : List Char) (rest : Bytes), ItemsFitIn depth items → IsBlankText b →
      (octets (layItems l level first items)).length < fuel →
      readItems fuel depth first (octets (layItems l level first items) ++
        (octets b ++ 0x5D :: rest)) = .ok (items, rest)
  | _, _, 0, _, _, _, _, _, _, hfuel => absurd hfuel (Nat.not_lt_zero _)
  | [], _, fuel + 1, _, first, b, rest, _, hb, _ => by
    rw [layItems, octets_nil, List.nil_append, readItems, nextItem_close hb]
    rfl
  | value :: values, level, fuel + 1, depth, first, b, rest, hitems, hb, hfuel => by
    obtain ⟨hvalue, hvalues⟩ := hitems
    have hpos := octets_layOut_pos l level hvalue.ne_number
    have hlength := congrArg List.length (octets_items l level first value values [])
    simp only [List.append_nil, List.length_append] at hlength
    have hfirst := readValue_layOut value level fuel depth []
      (octets (layItems l level false values) ++ (octets b ++ 0x5D :: rest)) hvalue
      isBlankText_nil (by omega)
    have hmore := readItems_layItems values level fuel depth false b rest hvalues hb (by omega)
    rw [octets_nil, List.nil_append] at hfirst
    rw [octets_items, readItems, nextItem_layOut l level (l.line_blank level) first
      hvalue.ne_number]
    simp only [bind, Except.bind, hfirst, hmore]
    rfl

theorem readMembers_layMembers : ∀ (members : List (String × Value)) (level fuel depth : Nat)
    (first : Bool) (b : List Char) (rest : Bytes), MembersFitIn depth members → IsBlankText b →
      (octets (layMembers l level first members)).length < fuel →
      readMembers fuel depth first (octets (layMembers l level first members) ++
        (octets b ++ 0x7D :: rest)) = .ok (members, rest)
  | _, _, 0, _, _, _, _, _, _, hfuel => absurd hfuel (Nat.not_lt_zero _)
  | [], _, fuel + 1, _, first, b, rest, _, hb, _ => by
    rw [layMembers, octets_nil, List.nil_append, readMembers, nextMember_close hb]
    rfl
  | (name, value) :: members, level, fuel + 1, depth, first, b, rest, hfits, hb, hfuel => by
    obtain ⟨hvalue, hmembers⟩ := hfits
    have hlength := congrArg List.length (octets_members l level first name value members [])
    simp only [List.append_nil, List.length_append, List.length_cons] at hlength
    have hfirst := readValue_layOut value level fuel depth l.gap
      (octets (layMembers l level false members) ++ (octets b ++ 0x7D :: rest)) hvalue
      l.gap_blank (by omega)
    have hmore := readMembers_layMembers members level fuel depth false b rest hmembers hb
      (by omega)
    rw [octets_members, readMembers, nextMember_item (l.line_blank level) first]
    simp only [bind, Except.bind, readText_escapes, readColon_cons, hfirst, hmore]
    rfl

end

/-- A JSON text with blanks behind it says the value that it was written for. -/
theorem decodeWith_eq_ok {α : Type} {read : Bytes → Except Fault (α × Bytes)} {value : α}
    {input : Bytes} {b : List Char} (hb : IsBlankText b)
    (hread : read input = .ok (value, octets b)) : decodeWith read input = .ok value := by
  rw [decodeWith, hread]
  simp only [bind, Except.bind, expectEnd, skipBlank_blank hb]
  rfl

theorem decode_layOut {v : Value} (hv : v.FitsIn depthLimit) {b : List Char}
    (hb : IsBlankText b) :
    Value.decode (octets (v.layOut l 0) ++ octets b) = .ok v := by
  refine decodeWith_eq_ok hb ?_
  have hread := readValue_layOut l v 0 (2 * (octets (v.layOut l 0) ++ octets b).length + 2)
    depthLimit [] (octets b) hv isBlankText_nil (by rw [List.length_append]; omega)
  rwa [octets_nil, List.nil_append] at hread

theorem encode_compact (v : Value) :
    Text.Utf8.encode v.compact = octets (v.layOut .compact 0) ++ octets [] := by
  rw [layOut_compact, octets_nil, List.append_nil, Value.compact, Text.Utf8.encode,
    String.toList_ofList]
  rfl

/-- **What is written is read back.** -/
theorem decode_compact {v : Value} (hv : v.FitsIn depthLimit) :
    Value.decode (Text.Utf8.encode v.compact) = .ok v := by
  rw [encode_compact]
  exact decode_layOut _ hv isBlankText_nil

end AppAdmin.Json
