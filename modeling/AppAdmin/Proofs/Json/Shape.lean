import AppAdmin.Proofs.Json.Grammar
import Mathlib.Logic.Function.Basic

/-!
Records whose members are known by their names. The members that a record gives are found by
looking through all of them; a reader takes one after the other and remembers the names it has met.
The two agree, and both refuse the same records.
-/

namespace AppAdmin.Json

/-- Members by their names; the name is `none` if it is no well-formed text. -/
abbrev Rows := List (Option String × Tree)

/-- The values of the members with a name. -/
def Rows.values (rows : Rows) (name : String) : List Tree :=
  (rows.filter (·.1 == some name)).map Prod.snd

def Members.rows (members : Members) : Rows :=
  members.toList.map fun (name, value) => (name.text?, value)

def Tree.isNull : Tree → Bool
  | .null => true
  | _ => false

/-- What a value says where `null` stands for the default. -/
def Tree.orNull {β : Type} (default : β) (means : Tree → Option β) (t : Tree) : Option β :=
  if t.isNull then some default else means t

/-- The text that a value says. -/
def Tree.text? : Tree → Option String
  | .text s => s.text?
  | _ => none

/-- The list that a value says, if each of its items says something. -/
def Tree.list? {α : Type} (means : Tree → Option α) : Tree → Option (List α)
  | .list items => items.toList.mapM means
  | _ => none

/-- A type of records: the names of the known members, what the value of one says, and what is built
from the values. -/
structure Shape (σ β : Type) where
  names : List String
  means : Tree → Option β
  default : β
  build : (String → β) → σ
  nodup : names.Nodup
  means_null : means .null = none
  build_congr : ∀ {g g' : String → β}, (∀ name ∈ names, g name = g' name) → build g = build g'

namespace Shape

variable {σ β : Type} (shape : Shape σ β)

/-- A record that can be read. Whatever is not known must have a well-formed name, and is free
otherwise. -/
structure Regular (rows : Rows) : Prop where
  /-- Every name is well-formed. -/
  spelled : ∀ row ∈ rows, row.1 ≠ none
  /-- No known member occurs twice. -/
  once : ∀ name ∈ shape.names, (rows.values name).length ≤ 1
  /-- The value of a known member is `null` or of its type. -/
  typed : ∀ name ∈ shape.names, ∀ t ∈ rows.values name,
    t.isNull = true ∨ (shape.means t).isSome = true

instance (rows : Rows) : Decidable (shape.Regular rows) :=
  decidable_of_iff
    ((∀ row ∈ rows, row.1 ≠ none) ∧ (∀ name ∈ shape.names, (rows.values name).length ≤ 1) ∧
      ∀ name ∈ shape.names, ∀ t ∈ rows.values name,
        t.isNull = true ∨ (shape.means t).isSome = true)
    ⟨fun ⟨spelled, once, typed⟩ => ⟨spelled, once, typed⟩,
      fun ⟨spelled, once, typed⟩ => ⟨spelled, once, typed⟩⟩

/-- The value given for a known member. It is the default if there is none, or only `null`. -/
def given (rows : Rows) (name : String) : β :=
  ((rows.values name).filterMap shape.means).headD shape.default

/-- What the members of a record say. -/
def ofRows? (rows : Rows) : Option σ :=
  if shape.Regular rows then some (shape.build (shape.given rows)) else none

/-- What a value says: a record by its members, and a list by the values of all known members, or the
first of them, in order. -/
def tree? : Tree → Option σ
  | .record members => shape.ofRows? members.rows
  | .list items =>
    if items.toList.length ≤ shape.names.length then
      shape.ofRows? ((shape.names.map some).zip items.toList)
    else none
  | _ => none

/-- Takes the members one after the other. `seen` holds the names of the known ones met so far, and
`g` their values. -/
def gather : List String → (String → β) → Rows → Option (String → β)
  | _, g, [] => some g
  | _, _, (none, _) :: _ => none
  | seen, g, (some name, t) :: rows =>
    if name ∈ shape.names then
      if name ∈ seen then none
      else (t.orNull shape.default shape.means).bind fun v =>
        gather (name :: seen) (Function.update g name v) rows
    else gather seen g rows

end Shape

/-! ### One member more -/

theorem Tree.isSome_orNull_iff {β : Type} {default : β} {means : Tree → Option β} {t : Tree} :
    (t.orNull default means).isSome = true ↔ t.isNull = true ∨ (means t).isSome = true := by
  rw [orNull]
  by_cases hnull : t.isNull = true
  · simp [hnull]
  · simp [hnull]

theorem Rows.values_append (rows rows' : Rows) (name : String) :
    Rows.values (rows ++ rows') name = rows.values name ++ rows'.values name := by
  rw [Rows.values, List.filter_append, List.map_append]
  rfl

theorem Rows.values_self (name : String) (t : Tree) : Rows.values [(some name, t)] name = [t] := by
  simp [Rows.values]

theorem Rows.values_other {key name : String} (h : key ≠ name) (t : Tree) :
    Rows.values [(some key, t)] name = [] := by
  simp [Rows.values, h]

namespace Shape

variable {σ β : Type} {shape : Shape σ β}

theorem Regular.nil : shape.Regular [] where
  spelled := nofun
  once _ _ := Nat.zero_le 1
  typed := nofun

theorem Regular.left {rows rows' : Rows} (h : shape.Regular (rows ++ rows')) :
    shape.Regular rows where
  spelled row hrow := h.spelled row (List.mem_append_left _ hrow)
  once name hname := by
    have hall := h.once name hname
    rw [Rows.values_append, List.length_append] at hall
    omega
  typed name hname t ht := h.typed name hname t (by
    rw [Rows.values_append]
    exact List.mem_append_left _ ht)

theorem values_unknown {key name : String} (hkey : key ∉ shape.names) (hname : name ∈ shape.names)
    (rows : Rows) (t : Tree) :
    Rows.values (rows ++ [(some key, t)]) name = rows.values name := by
  have hne : key ≠ name := fun heq => hkey (heq ▸ hname)
  rw [Rows.values_append, Rows.values_other hne, List.append_nil]

theorem Regular.spelled_concat {rows : Rows} (h : shape.Regular rows) (key : String) (t : Tree) :
    ∀ row ∈ rows ++ [(some key, t)], row.1 ≠ none := by
  intro row hrow
  rcases List.mem_append.mp hrow with hrow | hrow
  · exact h.spelled row hrow
  · rw [List.mem_singleton.mp hrow]
    exact nofun

theorem Regular.unknown {rows : Rows} (h : shape.Regular rows) {key : String}
    (hkey : key ∉ shape.names) (t : Tree) : shape.Regular (rows ++ [(some key, t)]) where
  spelled := h.spelled_concat key t
  once name hname := by
    rw [values_unknown hkey hname]
    exact h.once name hname
  typed name hname := by
    rw [values_unknown hkey hname]
    exact h.typed name hname

theorem Regular.known {rows : Rows} (h : shape.Regular rows) {key : String}
    (hnew : rows.values key = []) {t : Tree}
    (ht : t.isNull = true ∨ (shape.means t).isSome = true) :
    shape.Regular (rows ++ [(some key, t)]) where
  spelled := h.spelled_concat key t
  once name hname := by
    rw [Rows.values_append]
    by_cases heq : key = name
    · rw [← heq, hnew, Rows.values_self]
      exact Nat.le_refl 1
    · rw [Rows.values_other heq, List.append_nil]
      exact h.once name hname
  typed name hname t' ht' := by
    rw [Rows.values_append] at ht'
    by_cases heq : key = name
    · rw [← heq, hnew, Rows.values_self] at ht'
      rwa [List.mem_singleton.mp ht']
    · rw [Rows.values_other heq, List.append_nil] at ht'
      exact h.typed name hname t' ht'

/-- What is known once some members have been taken. -/
structure Taken (shape : Shape σ β) (before : Rows) (seen : List String) (g : String → β) :
    Prop where
  regular : shape.Regular before
  seen : ∀ name ∈ shape.names, name ∈ seen ↔ before.values name ≠ []
  values : ∀ name ∈ shape.names, g name = shape.given before name

theorem Taken.nil (shape : Shape σ β) : shape.Taken [] [] fun _ => shape.default where
  regular := .nil
  seen _ _ := ⟨nofun, fun h => absurd rfl h⟩
  values _ _ := rfl

variable {before : Rows} {seen : List String} {g : String → β}

theorem Taken.unknown (h : shape.Taken before seen g) {key : String} (hkey : key ∉ shape.names)
    (t : Tree) : shape.Taken (before ++ [(some key, t)]) seen g where
  regular := h.regular.unknown hkey t
  seen name hname := by
    rw [values_unknown hkey hname]
    exact h.seen name hname
  values name hname := by
    rw [given, values_unknown hkey hname]
    exact h.values name hname

/-- A single value, which may be `null`, is given as it is read. -/
theorem given_of_orNull {t : Tree} {v : β} (h : t.orNull shape.default shape.means = some v) :
    ([t].filterMap shape.means).headD shape.default = v := by
  rw [Tree.orNull] at h
  by_cases hnull : t.isNull = true
  · have heq : t = .null := by
      cases t with
      | null => rfl
      | _ => cases hnull
    rw [if_pos hnull] at h
    rw [heq, List.filterMap_cons, shape.means_null]
    exact Option.some.inj h
  · rw [if_neg hnull] at h
    rw [List.filterMap_cons, h]
    rfl

theorem Taken.known (h : shape.Taken before seen g) {key : String} (hkey : key ∈ shape.names)
    (hnew : key ∉ seen) {t : Tree} {v : β}
    (hv : t.orNull shape.default shape.means = some v) :
    shape.Taken (before ++ [(some key, t)]) (key :: seen) (Function.update g key v) := by
  have htyped := Tree.isSome_orNull_iff.mp (Option.isSome_of_eq_some hv)
  have hnone : before.values key = [] := by
    by_contra hne
    exact hnew ((h.seen key hkey).mpr hne)
  refine ⟨h.regular.known hnone htyped, fun name hname => ?_, fun name hname => ?_⟩
  · rw [Rows.values_append, List.mem_cons]
    by_cases heq : key = name
    · simp [heq, Rows.values_self]
    · rw [Rows.values_other heq, List.append_nil, ← h.seen name hname]
      exact or_iff_right fun hname => heq hname.symm
  · rw [given, Rows.values_append]
    by_cases heq : key = name
    · rw [← heq, hnone, Rows.values_self, Function.update_self]
      exact (given_of_orNull hv).symm
    · rw [Rows.values_other heq, List.append_nil, Function.update_of_ne fun hname => heq hname.symm]
      exact h.values name hname

theorem not_regular_of_unspelled (before rows : Rows) (t : Tree) :
    ¬shape.Regular (before ++ (none, t) :: rows) :=
  fun h => h.spelled (none, t) (by simp) rfl

theorem not_regular_of_untyped {key : String} (hkey : key ∈ shape.names) {t : Tree}
    (hnone : t.orNull shape.default shape.means = none) (before rows : Rows) :
    ¬shape.Regular (before ++ (some key, t) :: rows) := by
  intro h
  have hmem : t ∈ Rows.values (before ++ (some key, t) :: rows) key := by
    rw [List.append_cons, Rows.values_append, Rows.values_append, Rows.values_self]
    simp
  have htyped : (t.orNull shape.default shape.means).isSome = true :=
    Tree.isSome_orNull_iff.mpr (h.typed key hkey t hmem)
  rw [hnone] at htyped
  cases htyped

theorem Taken.not_regular_of_seen (h : shape.Taken before seen g) {key : String}
    (hkey : key ∈ shape.names) (hseen : key ∈ seen) (t : Tree) (rows : Rows) :
    ¬shape.Regular (before ++ (some key, t) :: rows) := by
  intro hregular
  have hpos := List.length_pos_iff.mpr ((h.seen key hkey).mp hseen)
  rw [List.append_cons] at hregular
  have honce := hregular.left.once key hkey
  rw [Rows.values_append, Rows.values_self, List.length_append, List.length_singleton] at honce
  omega

/-- Taking the members one after the other finds what they give, or that they cannot be read. -/
theorem gather_spec (rows : Rows) (h : shape.Taken before seen g) :
    match shape.gather seen g rows with
    | some g' => shape.Regular (before ++ rows) ∧
        ∀ name ∈ shape.names, g' name = shape.given (before ++ rows) name
    | none => ¬shape.Regular (before ++ rows) := by
  induction rows generalizing before seen g with
  | nil =>
      rw [gather, List.append_nil]
      exact ⟨h.regular, h.values⟩
  | cons row rows ih =>
      obtain ⟨_ | key, t⟩ := row
      · exact not_regular_of_unspelled before rows t
      · rw [gather]
        by_cases hkey : key ∈ shape.names
        · rw [if_pos hkey]
          by_cases hseen : key ∈ seen
          · rw [if_pos hseen]
            exact h.not_regular_of_seen hkey hseen t rows
          · rw [if_neg hseen]
            cases hv : t.orNull shape.default shape.means with
            | none => exact not_regular_of_untyped hkey hv before rows
            | some v =>
                rw [Option.bind_some, List.append_cons]
                exact ih (h.known hkey hseen hv)
        · rw [if_neg hkey, List.append_cons]
          exact ih (h.unknown hkey t)

theorem gather_build (rows : Rows) :
    (shape.gather [] (fun _ => shape.default) rows).map shape.build = shape.ofRows? rows := by
  have hspec := gather_spec rows (.nil shape)
  rw [List.nil_append] at hspec
  rw [ofRows?]
  split at hspec
  · next g' hgather =>
      rw [hgather, if_pos hspec.1]
      exact congrArg some (shape.build_congr hspec.2)
  · next hgather =>
      rw [hgather, if_neg hspec]
      rfl

end Shape

end AppAdmin.Json
