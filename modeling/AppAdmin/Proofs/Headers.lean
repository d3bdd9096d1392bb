import AppAdmin.Exchange
import Mathlib.Data.List.Forall2

/-!
Header fields as they are built up, one edit after the other. A field stays until its name is inserted
again, and the fields stand in the order of the edits that made them; so under each name there are the
last value inserted and those appended since.
-/

namespace AppAdmin

namespace Text

/-- The same character, or a capital of ASCII and its small letter. -/
def SameLetter (c d : Char) : Prop :=
  c = d ∨ c.isUpper = true ∧ d.toNat = c.toNat + 32 ∨ d.isUpper = true ∧ c.toNat = d.toNat + 32

theorem isUpper_iff {c : Char} : c.isUpper = true ↔ 65 ≤ c.toNat ∧ c.toNat ≤ 90 :=
  decide_eq_true_iff

theorem toNat_toLower (c : Char) :
    c.toLower.toNat = if c.isUpper = true then c.toNat + 32 else c.toNat := by
  by_cases h : c.isUpper = true
  · have hrange := isUpper_iff.mp h
    have hbound : c.val.toNat ≤ 90 := hrange.2
    have hlower : c.toLower.toNat = (c.val + 32).toNat := congrArg Char.toNat (dif_pos hrange)
    have hsum : (c.val.toNat + 32) % 2 ^ 32 = c.val.toNat + 32 := Nat.mod_eq_of_lt (by omega)
    rw [if_pos h, hlower, UInt32.toNat_add]
    exact hsum
  · have hlower : c.toLower = c := dif_neg (mt isUpper_iff.mpr h)
    rw [if_neg h, hlower]

theorem toLower_eq_iff {c d : Char} : c.toLower = d.toLower ↔ SameLetter c d := by
  rw [← Char.toNat_inj, toNat_toLower, toNat_toLower, SameLetter, ← Char.toNat_inj]
  simp only [isUpper_iff]
  split <;> split <;> omega

/-- Names are the same exactly if they are so letter by letter. -/
theorem sameName_iff_forall₂ {a b : String} :
    sameName a b = true ↔ List.Forall₂ SameLetter a.toList b.toList := by
  have hlowered : lowered a = lowered b ↔ a.toList.map Char.toLower = b.toList.map Char.toLower :=
    String.ofList_inj
  rw [sameName_iff, hlowered, ← List.forall₂_eq_eq_eq, List.forall₂_map_left_iff,
    List.forall₂_map_right_iff]
  simp only [toLower_eq_iff]

end Text

/-- The content with some headers given to it, one after the other. -/
def Content.withHeaders (content : Content) (fields : List (String × String)) : Content :=
  fields.foldl (fun content field => content.withHeader field.1 field.2) content

/-- An edit of header fields. -/
inductive Headers.Edit
  | append (name value : String)
  | insert (name value : String)

namespace Headers

open Text (sameName)

namespace Edit

/-- The field that an edit makes. -/
def header : Edit → Header
  | .append name value | .insert name value => ⟨name, value⟩

/-- Whether an edit replaces the fields of a name. -/
def replaces : Edit → String → Bool
  | .append .., _ => false
  | .insert key _, name => sameName key name

def apply (hs : Headers) : Edit → Headers
  | .append name value => hs.append name value
  | .insert name value => hs.insert name value

theorem isNamed_of_replaces {e : Edit} {name : String} (h : e.replaces name = true) :
    e.header.isNamed name = true := by
  cases e with
  | append => cases h
  | insert => exact h

theorem replaces_congr {name name' : String} (h : sameName name name' = true) (e : Edit) :
    e.replaces name = e.replaces name' := by
  cases e with
  | append => rfl
  | insert key value =>
      change sameName key name = sameName key name'
      rw [sameName, sameName, Text.sameName_iff.mp h]

/-- **One edit.** The fields that it replaces go, the others keep their order, and its own stands last. -/
theorem items_apply (hs : Headers) (e : Edit) :
    (e.apply hs).items = hs.items.filter (fun h => !e.replaces h.name) ++ [e.header] := by
  cases e with
  | append name value =>
      have hall : hs.items.filter (fun _ => true) = hs.items :=
        List.filter_eq_self.mpr fun _ _ => rfl
      exact congrArg (· ++ [Header.mk name value]) hall.symm
  | insert name value =>
      have hname : ∀ h : Header, h.isNamed name = sameName name h.name :=
        fun h => Text.sameName_comm h.name name
      simp only [apply, Headers.insert, replaces, header, hname]

end Edit

/-- The fields after some edits. -/
def edited (edits : List Edit) : Headers := edits.foldl Edit.apply .empty

/-- The fields made by edits and replaced by no later one, in the order of the edits. -/
def lasting : List Edit → List Header
  | [] => []
  | e :: rest =>
    if rest.any (·.replaces e.header.name) then lasting rest else e.header :: lasting rest

theorem items_foldl_apply (edits : List Edit) (hs : Headers) :
    (edits.foldl Edit.apply hs).items
      = hs.items.filter (fun h => !edits.any (·.replaces h.name)) ++ lasting edits := by
  induction edits generalizing hs with
  | nil => simp [lasting]
  | cons e rest ih =>
      rw [List.foldl_cons, ih, Edit.items_apply, List.filter_append, List.filter_filter,
        List.append_assoc, lasting]
      congr 1
      · simp only [List.any_cons, Bool.not_or, Bool.and_comm]
      · by_cases h : rest.any (·.replaces e.header.name) = true
        · simp [h]
        · simp [h]

theorem items_edited (edits : List Edit) : (edited edits).items = lasting edits :=
  (items_foldl_apply edits .empty).trans (List.nil_append _)

theorem lasting_append (before after : List Edit) :
    lasting (before ++ after)
      = (lasting before).filter (fun h => !after.any (·.replaces h.name)) ++ lasting after := by
  rw [← items_edited, ← items_edited before, edited, List.foldl_append, items_foldl_apply]
  rfl

theorem exists_of_mem_lasting {edits : List Edit} {h : Header} (hmem : h ∈ lasting edits) :
    ∃ e ∈ edits, e.header = h := by
  induction edits with
  | nil => cases hmem
  | cons e rest ih =>
      rw [lasting] at hmem
      split at hmem
      · obtain ⟨other, hother, heq⟩ := ih hmem
        exact ⟨other, List.mem_cons_of_mem e hother, heq⟩
      · rcases List.mem_cons.mp hmem with heq | hrest
        · exact ⟨e, List.mem_cons_self, heq.symm⟩
        · obtain ⟨other, hother, heq⟩ := ih hrest
          exact ⟨other, List.mem_cons_of_mem e hother, heq⟩

/-- Edits of other names have no part in the fields of a name. -/
theorem filter_lasting (name : String) (edits : List Edit) :
    (lasting edits).filter (·.isNamed name) = lasting (edits.filter (·.header.isNamed name)) := by
  induction edits with
  | nil => rfl
  | cons e rest ih =>
      by_cases hname : e.header.isNamed name = true
      · have hany : (rest.filter (·.header.isNamed name)).any (·.replaces e.header.name)
            = rest.any (·.replaces e.header.name) := by
          rw [List.any_filter]
          congr 1
          funext other
          rw [Bool.and_eq_right_iff_imp]
          exact fun hother => Text.sameName_trans (Edit.isNamed_of_replaces hother) hname
        rw [List.filter_cons, if_pos hname, lasting, lasting, hany]
        split
        · exact ih
        · rw [List.filter_cons, if_pos hname, ih]
      · rw [List.filter_cons, if_neg hname, lasting]
        split
        · exact ih
        · rw [List.filter_cons, if_neg hname, ih]

/-- What is not replaced stays. -/
theorem filter_lasting_of_appended {name : String} {edits : List Edit}
    (h : ∀ e ∈ edits, e.replaces name = false) :
    (lasting edits).filter (·.isNamed name) = (edits.map Edit.header).filter (·.isNamed name) := by
  induction edits with
  | nil => rfl
  | cons e rest ih =>
      obtain ⟨-, hrest⟩ := List.forall_mem_cons.mp h
      rw [List.map_cons, lasting]
      by_cases hname : e.header.isNamed name = true
      · have hany : ¬rest.any (·.replaces e.header.name) = true := by
          rw [List.any_eq_true]
          rintro ⟨other, hother, hreplaces⟩
          rw [Edit.replaces_congr hname, hrest other hother] at hreplaces
          cases hreplaces
        rw [if_neg hany, List.filter_cons, List.filter_cons, if_pos hname, if_pos hname, ih hrest]
      · rw [List.filter_cons (x := e.header), if_neg hname, ← ih hrest]
        split
        · rfl
        · rw [List.filter_cons, if_neg hname]

/-- An insertion leaves nothing of what was there under its name before. -/
theorem filter_lasting_of_inserted {name key value : String} {after : List Edit}
    (hkey : sameName key name = true) (h : ∀ e ∈ after, e.replaces name = false)
    (before : List Edit) :
    (lasting (before ++ .insert key value :: after)).filter (·.isNamed name)
      = ⟨key, value⟩ :: (after.map Edit.header).filter (·.isNamed name) := by
  have hbefore : ((lasting before).filter fun old =>
      !(Edit.insert key value :: after).any (·.replaces old.name)).filter (·.isNamed name) = [] := by
    rw [List.filter_filter, List.filter_eq_nil_iff]
    intro old _ hold
    obtain ⟨hname, hkept⟩ := Bool.and_eq_true_iff.mp hold
    have hreplaced : sameName key old.name = true :=
      Text.sameName_trans hkey ((Text.sameName_comm name old.name).trans hname)
    rw [List.any_cons, Edit.replaces, hreplaced] at hkept
    cases hkept
  have hlast : ¬after.any (·.replaces key) = true := by
    rw [List.any_eq_true]
    rintro ⟨other, hother, hreplaces⟩
    rw [Edit.replaces_congr hkey, h other hother] at hreplaces
    cases hreplaces
  have hnamed : (Header.mk key value).isNamed name = true := hkey
  rw [lasting_append, List.filter_append, hbefore, List.nil_append, lasting, Edit.header,
    if_neg hlast, List.filter_cons, if_pos hnamed, filter_lasting_of_appended h]

/-- Fields that were all inserted have different names. -/
theorem pairwise_lasting {edits : List Edit} (h : ∀ e ∈ edits, e.replaces e.header.name = true) :
    (lasting edits).Pairwise fun a b => sameName a.name b.name = false := by
  induction edits with
  | nil => exact .nil
  | cons e rest ih =>
      obtain ⟨-, hrest⟩ := List.forall_mem_cons.mp h
      rw [lasting]
      split
      · exact ih hrest
      · rename_i hany
        refine List.pairwise_cons.mpr ⟨fun other hother => ?_, ih hrest⟩
        obtain ⟨later, hlater, rfl⟩ := exists_of_mem_lasting hother
        rw [Bool.eq_false_iff]
        intro hsame
        apply hany
        rw [List.any_eq_true]
        refine ⟨later, hlater, ?_⟩
        rw [Edit.replaces_congr hsame]
        exact hrest later hlater

/-- What header fields hold after some edits. -/
structure Holds (hs : Headers) (edits : List Edit) : Prop where
  /-- The fields stand in the order of the edits that made them. -/
  order : hs.items = lasting edits
  /-- Under a name there are what was inserted last and what was appended since. -/
  inserted : ∀ before key value after name, edits = before ++ .insert key value :: after →
    sameName key name = true → (∀ e ∈ after, e.replaces name = false) →
      hs.named name = ⟨key, value⟩ :: (after.map Edit.header).filter (·.isNamed name)
  /-- Under a name that was never inserted there is all that was appended. -/
  appended : ∀ name, (∀ e ∈ edits, e.replaces name = false) →
    hs.named name = (edits.map Edit.header).filter (·.isNamed name)
  /-- The edits of other names do not matter. -/
  others : ∀ name, hs.named name = (edited (edits.filter (·.header.isNamed name))).named name
  /-- The first value is found. -/
  first : ∀ name, hs.get? name = ((hs.named name).map (·.value)).head?

theorem named_edited (edits : List Edit) (name : String) :
    (edited edits).named name = (lasting edits).filter (·.isNamed name) := by
  rw [named, items_edited]

theorem edited_holds (edits : List Edit) : (edited edits).Holds edits where
  order := items_edited edits
  inserted := by
    rintro before key value after name rfl hkey h
    rw [named_edited, filter_lasting_of_inserted hkey h]
  appended := by
    intro name h
    rw [named_edited, filter_lasting_of_appended h]
  others := by
    intro name
    rw [named_edited, named_edited, ← filter_lasting, List.filter_filter]
    simp only [Bool.and_self]
  first := by
    intro name
    rw [get?_eq_head?_named, List.head?_map]

/-- The edits that give a request its headers. -/
def insertions (fields : List (String × String)) : List Edit :=
  fields.map fun field => .insert field.1 field.2

theorem headers_withHeaders (fields : List (String × String)) (content : Content) :
    (content.withHeaders fields).headers
      = (insertions fields).foldl Edit.apply content.headers := by
  induction fields generalizing content with
  | nil => rfl
  | cons field rest ih => exact ih (content.withHeader field.1 field.2)

theorem replaces_insertions {fields : List (String × String)} {name : String}
    (h : ∀ field ∈ fields, sameName field.1 name = false) :
    ∀ e ∈ insertions fields, e.replaces name = false :=
  List.forall_mem_map.mpr h

theorem filter_insertions {fields : List (String × String)} {name : String}
    (h : ∀ field ∈ fields, sameName field.1 name = false) :
    ((insertions fields).map Edit.header).filter (·.isNamed name) = [] := by
  rw [List.filter_eq_nil_iff, insertions, List.map_map]
  refine List.forall_mem_map.mpr fun field hfield hname => ?_
  exact absurd hname (Bool.eq_false_iff.mp (h field hfield))

/-- What headers hold that were given to a request one after the other. -/
structure HoldsLast (hs : Headers) (fields : List (String × String)) : Prop where
  /-- No name comes twice. -/
  different : hs.items.Pairwise fun a b => sameName a.name b.name = false
  /-- Of the values given to a name the last counts. -/
  given : ∀ before key value after name, fields = before ++ (key, value) :: after →
    sameName key name = true → (∀ field ∈ after, sameName field.1 name = false) →
      hs.named name = [⟨key, value⟩] ∧ hs.get? name = some value
  /-- Other names are not there. -/
  missing : ∀ name, (∀ field ∈ fields, sameName field.1 name = false) → hs.get? name = none

theorem withHeaders_holdsLast (body : Option Bytes) (fields : List (String × String)) :
    ((Content.mk body .empty).withHeaders fields).headers.HoldsLast fields := by
  have hedited : ((Content.mk body .empty).withHeaders fields).headers
      = edited (insertions fields) := headers_withHeaders fields _
  rw [hedited]
  refine ⟨?different, ?given, ?missing⟩
  case different =>
    rw [items_edited]
    apply pairwise_lasting
    exact List.forall_mem_map.mpr fun field _ => Text.sameName_refl field.1
  case given =>
    rintro before key value after name rfl hkey hafter
    have hsplit : insertions (before ++ (key, value) :: after)
        = insertions before ++ .insert key value :: insertions after := List.map_append
    have hnamed : (edited (insertions (before ++ (key, value) :: after))).named name
        = [⟨key, value⟩] := by
      rw [named_edited, hsplit, filter_lasting_of_inserted hkey (replaces_insertions hafter),
        filter_insertions hafter]
    refine ⟨hnamed, ?_⟩
    rw [get?_eq_head?_named, hnamed]
    rfl
  case missing =>
    intro name hname
    rw [get?_eq_head?_named, named_edited, filter_lasting_of_appended (replaces_insertions hname),
      filter_insertions hname]
    rfl

/-- **Header fields are a multimap with names of any case.** What they hold after some edits is said by
`Holds`; one more edit takes away the fields that it replaces and puts its own last. The headers of a
request have different names, each with the value that it was given last. Names are the same up to the
case of the letters of ASCII, and of no others. -/
theorem edited_refines_multimap :
    (∀ edits, (edited edits).Holds edits ∧ ∀ e, (edited (edits ++ [e])).items
      = (edited edits).items.filter (fun h => !e.replaces h.name) ++ [e.header]) ∧
    (∀ body fields, ((Content.mk body .empty).withHeaders fields).headers.HoldsLast fields) ∧
    ∀ a b, sameName a b = true ↔ List.Forall₂ Text.SameLetter a.toList b.toList := by
  refine ⟨fun edits => ⟨edited_holds edits, fun e => ?_⟩, withHeaders_holdsLast,
    fun a b => Text.sameName_iff_forall₂⟩
  rw [edited, List.foldl_append, ← edited]
  exact Edit.items_apply (edited edits) e

end Headers

end AppAdmin
