import AppAdmin.Json.Record
import AppAdmin.Proofs.Json.Reading

/-!
Readers of known types. A reader for a type reads back what is written for its values, whatever the
layout is; for a record this follows from its fields.
-/

namespace AppAdmin.Json

open Text.Utf8 (octets)

variable {α σ : Type}

/-- The reader takes what is written for a value, and nothing more, as `a`. -/
def ReadsBack (read : Reader α) (v : Value) (a : α) : Prop :=
  ∀ (l : Layout) (level : Nat) (b : List Char) (rest : Bytes), IsBlankText b →
    read (octets b ++ (octets (v.layOut l level) ++ rest)) = .ok (a, rest)

theorem readsBack_text (s : String) : ReadsBack text (.text s) s := by
  intro l level b rest hb
  rw [Value.layOut, octets_printText, text, skipBlank_append hb, skipBlank_cons rfl]
  exact readText_escapes s rest

theorem ReadsBack.orDefault {read : Reader α} {v : Value} {a : α} (h : ReadsBack read v a)
    (hnumber : ∀ n, v ≠ .number n) (hnull : v ≠ .null) (default : α) :
    ReadsBack (orDefault default read) v a := by
  intro l level b rest hb
  obtain ⟨x, s, hbytes, hblank, -, hx⟩ := exists_octets_layOut l level hnumber
  have hread := h l level [] rest isBlankText_nil
  rw [octets_nil, List.nil_append, hbytes, List.cons_append] at hread
  rw [Json.orDefault, skipBlank_append hb, hbytes, List.cons_append, skipBlank_cons hblank]
  dsimp only
  rw [if_neg (hx hnull), hread]

/-! ### Lists -/

section List

variable {item : Reader α} {toJson : α → Value} (h : ∀ a, ReadsBack item (toJson a) a)
  (hnumber : ∀ a n, toJson a ≠ .number n)

include h hnumber

theorem listFrom_layItems (l : Layout) (level : Nat) (as : List α) (fuel : Nat) (first : Bool)
    {b : List Char} (rest : Bytes) (hb : IsBlankText b)
    (hfuel : (octets (layItems l level first (as.map toJson))).length < fuel) :
    listFrom item fuel first (octets (layItems l level first (as.map toJson)) ++
      (octets b ++ 0x5D :: rest)) = .ok (as, rest) := by
  induction as generalizing fuel first with
  | nil =>
      obtain ⟨fuel, rfl⟩ := Nat.exists_eq_succ_of_ne_zero (Nat.ne_zero_of_lt hfuel)
      rw [List.map_nil, layItems, octets_nil, List.nil_append, listFrom, nextItem_close hb]
      rfl
  | cons a as ih =>
      obtain ⟨fuel, rfl⟩ := Nat.exists_eq_succ_of_ne_zero (Nat.ne_zero_of_lt hfuel)
      have hpos := octets_layOut_pos l level (hnumber a)
      have hlength := congrArg List.length
        (octets_items l level first (toJson a) (as.map toJson) [])
      simp only [List.append_nil, List.length_append] at hlength
      rw [List.map_cons] at hfuel
      have hfirst := h a l level [] (octets (layItems l level false (as.map toJson)) ++
        (octets b ++ 0x5D :: rest)) isBlankText_nil
      have hmore := ih fuel false (by omega)
      rw [octets_nil, List.nil_append] at hfirst
      rw [List.map_cons, octets_items, listFrom,
        nextItem_layOut l level (l.line_blank level) first (hnumber a)]
      simp only [bind, Except.bind, hfirst, hmore]
      rfl

theorem readsBack_list (as : List α) : ReadsBack (list item) (.list (as.map toJson)) as := by
  intro l level b rest hb
  rw [octets_list, list, skipBlank_append hb, skipBlank_cons rfl]
  refine listFrom_layItems h hnumber l (level + 1) as _ true rest (l.ending_blank level _) ?_
  simp only [List.length_append]
  omega

end List

/-! ### Records -/

/-- A field of a record with a value that it reads, and the change that it makes. -/
structure Entry (σ : Type) where
  field : Field σ
  value : Value
  change : σ → σ
  reads : ReadsBack field.read value change

namespace Entry

/-- The member that is written for the field. -/
def member (e : Entry σ) : String × Value := (e.field.name, e.value)

def name (e : Entry σ) : String := e.field.name

/-- What the changes of some entries make of a value, one after the other. -/
def apply (entries : List (Entry σ)) (value : σ) : σ :=
  entries.foldl (fun value e => e.change value) value

theorem reads_map {read : Reader α} {v : Value} {a : α} (h : ReadsBack read v a)
    (set : α → σ → σ) :
    ReadsBack (fun s => (read s).map fun (value, rest) => (set value, rest)) v (set a) := by
  intro l level b rest hb
  dsimp only
  rw [h l level b rest hb]
  rfl

def text (name : String) (set : String → σ → σ) (s : String) : Entry σ where
  field := .text name set
  value := .text s
  change := set s
  reads := reads_map ((readsBack_text s).orDefault nofun nofun "") set

def list (name : String) (item : Reader α) (set : List α → σ → σ) (toJson : α → Value)
    (h : ∀ a, ReadsBack item (toJson a) a) (hnumber : ∀ a n, toJson a ≠ .number n)
    (as : List α) : Entry σ where
  field := .list name item set
  value := .list (as.map toJson)
  change := set as
  reads := reads_map ((readsBack_list h hnumber as).orDefault nofun nofun []) set

end Entry

/-- Each entry of a record is found among its fields, and none is met twice. -/
theorem membersFrom_layMembers (l : Layout) (level : Nat) (fields : List (Field σ))
    (entries : List (Entry σ)) (fuel : Nat) (first : Bool) (seen : List String) (value : σ)
    {b : List Char} (rest : Bytes) (hb : IsBlankText b)
    (hfields : ∀ e ∈ entries, fields.find? (·.name == e.name) = some e.field)
    (hnodup : (entries.map Entry.name).Nodup) (hseen : ∀ e ∈ entries, e.name ∉ seen)
    (hfuel : (octets (layMembers l level first (entries.map Entry.member))).length < fuel) :
    membersFrom fields fuel first seen value
      (octets (layMembers l level first (entries.map Entry.member)) ++
        (octets b ++ 0x7D :: rest)) = .ok (Entry.apply entries value, rest) := by
  induction entries generalizing fuel first seen value with
  | nil =>
      obtain ⟨fuel, rfl⟩ := Nat.exists_eq_succ_of_ne_zero (Nat.ne_zero_of_lt hfuel)
      rw [List.map_nil, layMembers, octets_nil, List.nil_append, membersFrom, nextMember_close hb]
      rfl
  | cons e entries ih =>
      obtain ⟨fuel, rfl⟩ := Nat.exists_eq_succ_of_ne_zero (Nat.ne_zero_of_lt hfuel)
      obtain ⟨hfield, hfields⟩ := List.forall_mem_cons.mp hfields
      obtain ⟨hnew, hseen⟩ := List.forall_mem_cons.mp hseen
      rw [List.map_cons, List.nodup_cons] at hnodup
      obtain ⟨hother, hnodup⟩ := hnodup
      have hlength := congrArg List.length
        (octets_members l level first e.name e.value (entries.map Entry.member) [])
      simp only [List.append_nil, List.length_append, List.length_cons] at hlength
      have hmember : e.member = (e.name, e.value) := rfl
      rw [List.map_cons, hmember] at hfuel ⊢
      have hlater : ∀ e' ∈ entries, e'.name ∉ e.name :: seen := by
        intro e' he'
        rw [List.mem_cons, not_or]
        refine ⟨fun heq => hother ?_, hseen e' he'⟩
        rw [← heq]
        exact List.mem_map_of_mem he'
      have hread := e.reads l level l.gap (octets (layMembers l level false
        (entries.map Entry.member)) ++ (octets b ++ 0x7D :: rest)) l.gap_blank
      have hmore := ih fuel false (e.name :: seen) (e.change value) hfields hnodup hlater
        (by omega)
      have hcontains : seen.contains e.name = false := by simpa using hnew
      rw [octets_members, membersFrom, nextMember_item (l.line_blank level) first]
      simp only [bind, Except.bind, readText_escapes, hfield, hcontains, readColon_cons, hread,
        hmore]
      rfl

theorem find?_name {entries : List (Entry σ)} (hnodup : (entries.map Entry.name).Nodup) :
    ∀ e ∈ entries, (entries.map Entry.field).find? (·.name == e.name) = some e.field := by
  induction entries with
  | nil => simp
  | cons first entries ih =>
      rw [List.map_cons, List.nodup_cons] at hnodup
      obtain ⟨hother, hnodup⟩ := hnodup
      rw [List.forall_mem_cons]
      refine ⟨?_, fun e he => ?_⟩
      · simp [Entry.name]
      · have hne : (first.field.name == e.name) = false := by
          rw [beq_eq_false_iff_ne]
          intro heq
          refine hother ?_
          rw [Entry.name, heq]
          exact List.mem_map_of_mem he
        rw [List.map_cons, List.find?_cons, hne]
        exact ih hnodup e he

/-- A record is read back if its fields have different names. -/
theorem readsBack_record (title : String) (entries : List (Entry σ)) (blank : σ)
    (hnodup : (entries.map Entry.name).Nodup) :
    ReadsBack (record title (entries.map Entry.field) blank) (.record (entries.map Entry.member))
      (Entry.apply entries blank) := by
  intro l level b rest hb
  rw [octets_record, record, skipBlank_append hb, skipBlank_cons rfl]
  refine membersFrom_layMembers l (level + 1) _ entries _ true [] blank rest
    (l.ending_blank level _) (find?_name hnodup) hnodup (by simp) ?_
  simp only [List.length_append]
  omega

/-! ### Whole texts -/

theorem ReadsBack.decode_layOut {read : Reader α} {v : Value} {a : α} (h : ReadsBack read v a)
    (l : Layout) {b : List Char} (hb : IsBlankText b) :
    decodeWith read (octets (v.layOut l 0) ++ octets b) = .ok a := by
  have hread := h l 0 [] (octets b) isBlankText_nil
  rw [octets_nil, List.nil_append] at hread
  exact decodeWith_eq_ok hb hread

theorem ReadsBack.decode_compact {read : Reader α} {v : Value} {a : α} (h : ReadsBack read v a) :
    decodeWith read (Text.Utf8.encode v.compact) = .ok a := by
  rw [encode_compact]
  exact h.decode_layOut .compact isBlankText_nil

/-- The line end behind a printed value does no harm. -/
theorem ReadsBack.decode_pretty {read : Reader α} {v : Value} {a : α} (h : ReadsBack read v a) :
    decodeWith read (Text.Utf8.encode (v.pretty ++ "\n")) = .ok a := by
  have hbytes : Text.Utf8.encode (v.pretty ++ "\n") =
      octets (v.layOut .pretty 0) ++ octets ['\n'] := by
    rw [layOut_pretty, ← Text.Utf8.octets_append, Value.pretty, Text.Utf8.encode,
      String.toList_append, String.toList_ofList]
    rfl
  rw [hbytes]
  exact h.decode_layOut .pretty (by simp [IsBlankText])

end AppAdmin.Json
