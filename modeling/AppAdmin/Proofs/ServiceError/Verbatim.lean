import AppAdmin.Proofs.Json.Beginnings
import AppAdmin.ServiceError

/-!
Nothing that the service says is lost. A message is empty only if the body says nothing: it is empty
itself, or `null`, or a record without a text under `error`. The text under `error` is the message of a
record, and every other body is its own message.
-/

namespace AppAdmin

/-! ### The last member of a name -/

namespace Json.Value

variable {name : String} {members : List (String × Value)} {v : Value}

/-- The value of the last member of a name. -/
inductive Last (name : String) : List (String × Value) → Value → Prop
  | mk {front back : List (String × Value)} {v : Value} : (∀ row ∈ back, row.1 ≠ name) →
      Last name (front ++ (name, v) :: back) v

theorem lookup_eq_none_iff : lookup name members = none ↔ ∀ row ∈ members, row.1 ≠ name := by
  induction members with
  | nil => exact ⟨fun _ => nofun, fun _ => rfl⟩
  | cons row rest ih =>
      rw [lookup, Option.or_eq_none_iff, ih, List.forall_mem_cons, ite_eq_right_iff]
      constructor
      · rintro ⟨hrest, hrow⟩
        exact ⟨fun heq => Option.some_ne_none _ (hrow heq), hrest⟩
      · rintro ⟨hrow, hrest⟩
        exact ⟨hrest, fun heq => absurd heq hrow⟩

theorem Last.lookup_eq (h : Last name members v) : lookup name members = some v := by
  obtain @⟨front, back, v, hback⟩ := h
  induction front with
  | nil => rw [List.nil_append, lookup, lookup_eq_none_iff.mpr hback, if_pos rfl, Option.none_or]
  | cons row front ih => rw [List.cons_append, lookup, ih, Option.some_or]

theorem last_of_lookup (h : lookup name members = some v) : Last name members v := by
  induction members with
  | nil => cases h
  | cons row rest ih =>
      obtain ⟨key, value⟩ := row
      rw [lookup] at h
      cases hrest : lookup name rest with
      | some w =>
          rw [hrest, Option.some_or] at h
          obtain @⟨front, back, v, hback⟩ := ih (hrest.trans h)
          exact @Last.mk _ ((key, value) :: front) back v hback
      | none =>
          rw [hrest, Option.none_or] at h
          by_cases hkey : key = name
          · rw [if_pos hkey] at h
            cases h
            rw [hkey]
            exact @Last.mk _ [] rest v (lookup_eq_none_iff.mp hrest)
          · rw [if_neg hkey] at h
            cases h

/-- The last member of a name is the one that counts. -/
theorem lookup_eq_some_iff : lookup name members = some v ↔ Last name members v :=
  ⟨last_of_lookup, Last.lookup_eq⟩

end Json.Value

namespace ServiceError

open Json (Value isSpace strip)
open Json.Value (Last)
open Text.Utf8 (decodeLossy encode)

/-! ### What a body says -/

/-- A body that holds a record with a text under `error`. -/
inductive Tells (body : Bytes) (message : String) : Prop
  | mk {members : List (String × Value)} : Value.decode body = .ok (.record members) →
      Last "error" members (.text message) → Tells body message

/-- A body that says nothing. -/
inductive Silent (body : Bytes) : Prop
  | empty : body = [] → Silent body
  | null : Value.decode body = .ok .null → Silent body
  | without {members : List (String × Value)} : Value.decode body = .ok (.record members) →
      (∀ row ∈ members, row.1 ≠ "error") → Silent body
  | nothing {members : List (String × Value)} : Value.decode body = .ok (.record members) →
      Last "error" members .null → Silent body
  | blank : Tells body "" → Silent body

variable {body : Bytes}

theorem message_of_tells {message : String} (h : Tells body message) :
    (ofBytes body).message = message := by
  obtain ⟨hdecode, hlast⟩ := h
  rw [ofBytes, hdecode]
  simp only [messageIn?, hlast.lookup_eq, Option.getD_some]

theorem message_of_silent (h : Silent body) : (ofBytes body).message = "" := by
  cases h with
  | empty hbody =>
      rw [hbody]
      rfl
  | null hdecode =>
      rw [ofBytes, hdecode]
      rfl
  | without hdecode hnone =>
      rw [ofBytes, hdecode]
      simp only [messageIn?, Json.Value.lookup_eq_none_iff.mpr hnone, Option.getD_some]
  | nothing hdecode hlast =>
      rw [ofBytes, hdecode]
      simp only [messageIn?, hlast.lookup_eq, Option.getD_some]
  | blank htells => exact message_of_tells htells

/-- A body that holds neither a record nor `null` is its own message. -/
theorem message_of_other (hnull : Value.decode body ≠ .ok .null)
    (hrecord : ∀ members, Value.decode body ≠ .ok (.record members)) :
    (ofBytes body).message = decodeLossy body := by
  rw [ofBytes]
  cases hdecode : Value.decode body with
  | error fault => rfl
  | ok value =>
      cases value with
      | null => exact absurd hdecode hnull
      | record members => exact absurd hdecode (hrecord members)
      | _ => rfl

theorem message_cases (body : Bytes) :
    Silent body ∨ (∃ message, Tells body message) ∨ (ofBytes body).message = decodeLossy body := by
  by_cases hnull : Value.decode body = .ok .null
  · exact Or.inl (.null hnull)
  by_cases hrecord : ∃ members, Value.decode body = .ok (.record members)
  · obtain ⟨members, hdecode⟩ := hrecord
    cases hlookup : Value.lookup "error" members with
    | none => exact Or.inl (.without hdecode (Json.Value.lookup_eq_none_iff.mp hlookup))
    | some v =>
        have hlast : Last "error" members v := Json.Value.lookup_eq_some_iff.mp hlookup
        cases v with
        | null => exact Or.inl (.nothing hdecode hlast)
        | text message => exact Or.inr (Or.inl ⟨message, hdecode, hlast⟩)
        | _ =>
            refine Or.inr (Or.inr ?_)
            rw [ofBytes, hdecode]
            simp only [messageIn?, hlookup, Option.getD_none]
  · have hother : ∀ members, Value.decode body ≠ .ok (.record members) :=
      fun members hdecode => hrecord ⟨members, hdecode⟩
    exact Or.inr (Or.inr (message_of_other hnull hother))

theorem silent_of_message (h : (ofBytes body).message = "") : Silent body := by
  rcases message_cases body with hsilent | ⟨message, htells⟩ | hlossy
  · exact hsilent
  · rw [message_of_tells htells] at h
    rw [h] at htells
    exact .blank htells
  · rw [h] at hlossy
    exact .empty (Text.Utf8.decodeLossy_eq_empty_iff.mp hlossy.symm)

/-- A text that begins with no bracket and is not `null` is its own message. -/
theorem message_of_text {s : String} (hrecord : (s.toList.dropWhile isSpace).head? ≠ some '\x7b')
    (hnull : strip s.toList ≠ "null".toList) : (ofBytes (encode s)).message = s := by
  rw [message_of_other]
  · exact Text.Utf8.decodeLossy_encode s
  · intro hdecode
    exact hnull (Json.strip_of_decode_null hdecode)
  · intro members hdecode
    exact hrecord (Json.head?_of_decode_record hdecode)

/-- **Nothing that the service says is lost.** The message is empty exactly if the body says nothing;
otherwise it is the text under `error`, or else the whole body. In particular a text that begins with
something else than a bracket, and is not `null`, is shown as it is. -/
theorem message_verbatim (body : Bytes) :
    ((ofBytes body).message = "" ↔ Silent body) ∧
    (∀ message, Tells body message → (ofBytes body).message = message) ∧
    (¬Silent body → (∀ message, ¬Tells body message) →
      (ofBytes body).message = decodeLossy body) ∧
    ∀ s : String, body = encode s → (s.toList.dropWhile isSpace).head? ≠ some '\x7b' →
      strip s.toList ≠ "null".toList →
      (ofBytes body).message = s ∧ (ofBytes body).describe = "error: " ++ s := by
  refine ⟨⟨silent_of_message, message_of_silent⟩, fun _ => message_of_tells, ?_, ?_⟩
  · intro hsilent htells
    rcases message_cases body with h | ⟨message, h⟩ | h
    · exact absurd h hsilent
    · exact absurd h (htells message)
    · exact h
  · rintro s rfl hrecord hnull
    have hmessage := message_of_text hrecord hnull
    exact ⟨hmessage, congrArg ("error: " ++ ·) hmessage⟩

/-- The answer of a proxy. -/
theorem message_verbatim_page :
    (ofBytes (encode "<html>502 Bad Gateway</html>")).message = "<html>502 Bad Gateway</html>" :=
  ((message_verbatim (encode "<html>502 Bad Gateway</html>")).2.2.2 _ rfl (by decide) (by decide)).1

end ServiceError

end AppAdmin
