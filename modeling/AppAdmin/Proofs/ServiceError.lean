import AppAdmin.Proofs.Json.Values
import AppAdmin.ServiceError

/-!
The message of a refusal. It is the text under `error` only if the whole body has a value. A member that
nobody asks for can therefore hide the message: with a number beyond the floating point format, half of
a surrogate pair or deep nesting in it, the body is shown as it came.
-/

namespace AppAdmin.ServiceError

open Json (Blanks Members Numeral Script Spelling Tree Value depthLimit)

/-- A refusal is what the value of its body says, or else the body itself. -/
theorem ofBytes_script (script : Script) : ofBytes script.bytes =
    match script.value.value? depthLimit with
    | some value => ⟨(messageIn? value).getD (Text.Utf8.decodeLossy script.bytes)⟩
    | none => ⟨Text.Utf8.decodeLossy script.bytes⟩ := by
  have hdecode := Json.decode_script script
  rw [ofBytes, ← hdecode]
  cases Value.decode script.bytes <;> rfl

/-- **The message behind other members.** A single text under `error` is the message if all that the
body holds has a value, wherever it stands; otherwise the message is the whole body. -/
theorem message_of_record (script : Script) {members : Members} {t : Tree} {s : String}
    (hrecord : script.value = .record members) (hone : members.rows.values "error" = [t])
    (htext : t.text? = some s) :
    (script.value.HasValue depthLimit → (ofBytes script.bytes).message = s)
      ∧ (¬script.value.HasValue depthLimit →
        (ofBytes script.bytes).message = Text.Utf8.decodeLossy script.bytes) := by
  rw [← Tree.isSome_value?_iff, ofBytes_script]
  cases hvalue : script.value.value? depthLimit with
  | none => exact ⟨fun hsome => absurd hsome Bool.false_ne_true, fun _ => rfl⟩
  | some value =>
      refine ⟨fun _ => ?_, fun hnone => absurd rfl hnone⟩
      have hmessage : t.value? (depthLimit - 1) = some (.text s) := by
        cases t with
        | text spelling =>
            rw [Tree.value?, show spelling.text? = some s from htext]
            rfl
        | _ => cases htext
      rw [hrecord, Tree.value?, if_neg (by decide)] at hvalue
      obtain ⟨vs, hvs, rfl⟩ := Option.map_eq_some_iff.mp hvalue
      simp only [messageIn?, Json.lookup_eq members hvs hone, hmessage, Option.getD_some]

/-- The spelling of `error`, without escapes. -/
def errorSpelling : Spelling :=
  [.plain 'e' (by decide), .plain 'r' (by decide), .plain 'r' (by decide), .plain 'o' (by decide),
    .plain 'r' (by decide)]

/-- A message in front of some members. -/
def saying (rest : Members) : Members :=
  .member .none .none errorSpelling .none .none (.text [.plain 'x' (by decide)]) rest

theorem message_of_record_alone :
    let members := saying (.close .none)
    members.rows.values "error" = [.text [.plain 'x' (by decide)]]
      ∧ (Tree.record members).HasValue depthLimit
      ∧ (ofBytes (Script.bytes ⟨.none, .record members, .none⟩)).message = "x" := by
  intro members
  have hone : members.rows.values "error" = [.text [.plain 'x' (by decide)]] := rfl
  have hvalue : (Tree.record members).HasValue depthLimit := ⟨by decide, rfl, rfl, trivial⟩
  exact ⟨hone, hvalue, (message_of_record ⟨.none, .record members, .none⟩ rfl hone rfl).1 hvalue⟩

/-! ### A number beyond the format -/

/-- `1e999` -/
def beyond : Numeral where
  negative := false
  whole := ⟨1, []⟩
  unpadded := by decide
  fraction := none
  exponent := some ⟨false, none, ⟨9, [9, 9]⟩⟩

theorem beyond_number? : beyond.number? = none := by
  have hscale : Json.scale (Binary64.ofNat false 1) 999 = none := by
    rw [Json.scale, if_neg (by decide), if_neg (by decide), if_pos (by decide)]
  change Json.real? false 1 999 = none
  rw [Json.real?, hscale]
  rfl

/-- A message in front of a number that is out of range. -/
def hidden : Members :=
  saying (.member .none .none [.plain 'd' (by decide)] .none .none (.number beyond) (.close .none))

/-- The number hides the message, although nobody asks for it. -/
theorem message_hidden_by_number :
    let script : Script := ⟨.none, .record hidden, .none⟩
    let body := "\x7b\"error\":\"x\",\"d\":1e999\x7d"
    (∀ row ∈ hidden.rows, row.1 ≠ none)
      ∧ hidden.rows.values "error" = [.text [.plain 'x' (by decide)]]
      ∧ (Tree.text [.plain 'x' (by decide)]).text? = some "x"
      ∧ script.bytes = Text.Utf8.encode body
      ∧ (ofBytes script.bytes).message = body ∧ body ≠ "x" := by
  intro script body
  have hbytes : script.bytes = Text.Utf8.encode body := by
    decide
  have hnone : script.value.value? depthLimit = none := by
    rw [← Option.not_isSome_iff_eq_none, Tree.isSome_value?_iff]
    rintro ⟨-, -, -, -, hnumber, -⟩
    rw [Tree.HasValue, beyond_number?] at hnumber
    cases hnumber
  refine ⟨by decide, rfl, rfl, hbytes, ?_, by decide⟩
  rw [ofBytes_script, hnone, hbytes, Text.Utf8.decodeLossy_encode]

end AppAdmin.ServiceError
