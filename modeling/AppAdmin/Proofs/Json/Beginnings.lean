import AppAdmin.Proofs.Json.Tokens
import AppAdmin.Proofs.Text.Chars
import Mathlib.Data.List.DropRight
import Mathlib.Data.List.TakeWhile

/-!
How the text of a value begins. The first byte behind the blanks says what sort of value it is, and only
one word is read as nothing.
-/

namespace AppAdmin.Json

open Text.Utf8 (encodeChar_ne_nil encodeChar_of_lt exists_encodeChar_eq_cons exists_of_octets_eq_append
  exists_of_octets_eq_cons octets octets_cons)

/-! ### Bytes -/

/-- The bytes that a value of some sort begins with. -/
def Value.StartsWith : Value → UInt8 → Prop
  | .null, b => b = 0x6E
  | .bool value, b => b = if value then 0x74 else 0x66
  | .number _, b => b = 0x2D ∨ isDigit b = true
  | .text _, b => b = 0x22
  | .list _, b => b = 0x5B
  | .record _, b => b = 0x7B

theorem exists_of_map_eq_ok {ε α β : Type} {x : Except ε α} {f : α → β} {b : β}
    (h : x.map f = .ok b) : ∃ a, x = .ok a ∧ f a = b := by
  cases x with
  | error e => cases h
  | ok a => exact ⟨a, rfl, Except.ok.inj h⟩

theorem eq_append_of_readWord {word s rest : Bytes} (h : readWord word s = .ok rest) :
    s = word ++ rest := by
  induction word generalizing s with
  | nil => exact Except.ok.inj h
  | cons w word ih =>
      cases s with
      | nil => cases h
      | cons b s =>
          rw [readWord] at h
          split at h
          · rename_i hb
            rw [hb, ih h]
            rfl
          · cases h

variable {fuel depth : Nat} {s rest : Bytes} {v : Value}

theorem startsWith_of_map {α : Type} {b : UInt8} {x : Except Fault α} {f : α → Value × Bytes}
    (h : x.map f = .ok (v, rest)) (hf : ∀ a, (f a).1.StartsWith b) : v.StartsWith b := by
  obtain ⟨a, -, heq⟩ := exists_of_map_eq_ok h
  have hv := hf a
  rwa [heq] at hv

theorem startsWith_of_deeper {α : Type} {b : UInt8} {fault : Fault} {x : Except Fault α}
    {f : α → Value × Bytes} (h : (if depth ≤ 1 then .error fault else x.map f) = .ok (v, rest))
    (hf : ∀ a, (f a).1.StartsWith b) : v.StartsWith b := by
  by_cases hdepth : depth ≤ 1
  · rw [if_pos hdepth] at h
    cases h
  · rw [if_neg hdepth] at h
    exact startsWith_of_map h hf

/-- A value is read only if its first byte stands behind the blanks. -/
theorem startsWith_of_readValue (h : readValue fuel depth s = .ok (v, rest)) :
    ∃ b more, skipBlank s = b :: more ∧ v.StartsWith b := by
  cases fuel with
  | zero => cases h
  | succ fuel =>
      rw [readValue] at h
      cases hskip : skipBlank s with
      | nil =>
          rw [hskip] at h
          cases h
      | cons b more =>
          rw [hskip] at h
          dsimp only at h
          refine ⟨b, more, rfl, ?_⟩
          -- the branches of the reader, in their order: each makes one sort of value
          by_cases hnull : b = 0x6E
          · rw [if_pos hnull] at h
            exact startsWith_of_map h fun _ => hnull
          rw [if_neg hnull] at h
          by_cases htrue : b = 0x74
          · rw [if_pos htrue] at h
            exact startsWith_of_map h fun _ => htrue
          rw [if_neg htrue] at h
          by_cases hfalse : b = 0x66
          · rw [if_pos hfalse] at h
            exact startsWith_of_map h fun _ => hfalse
          rw [if_neg hfalse] at h
          by_cases hminus : b = 0x2D
          · rw [if_pos hminus] at h
            exact startsWith_of_map h fun _ => Or.inl hminus
          rw [if_neg hminus] at h
          by_cases hdigit : isDigit b = true
          · rw [if_pos hdigit] at h
            exact startsWith_of_map h fun _ => Or.inr hdigit
          rw [if_neg hdigit] at h
          by_cases hquote : b = 0x22
          · rw [if_pos hquote] at h
            exact startsWith_of_map h fun _ => hquote
          rw [if_neg hquote] at h
          by_cases hlist : b = 0x5B
          · rw [if_pos hlist] at h
            exact startsWith_of_deeper h fun _ => hlist
          rw [if_neg hlist] at h
          by_cases hrecord : b = 0x7B
          · rw [if_pos hrecord] at h
            exact startsWith_of_deeper h fun _ => hrecord
          rw [if_neg hrecord] at h
          cases h

theorem null_of_readValue (h : readValue fuel depth s = .ok (.null, rest)) :
    skipBlank s = [0x6E, 0x75, 0x6C, 0x6C] ++ rest := by
  obtain ⟨b, more, hskip, hb⟩ := startsWith_of_readValue h
  cases fuel with
  | zero => cases h
  | succ fuel =>
      rw [readValue, hskip] at h
      dsimp only at h
      rw [if_pos (show b = 0x6E from hb)] at h
      obtain ⟨rest', hword, heq⟩ := exists_of_map_eq_ok h
      cases heq
      rw [hskip, eq_append_of_readWord hword, show b = 0x6E from hb]
      rfl

theorem exists_of_decode_eq_ok (h : Value.decode s = .ok v) :
    ∃ fuel rest, readValue fuel depthLimit s = .ok (v, rest) ∧ skipBlank rest = [] := by
  refine ⟨2 * s.length + 2, ?_⟩
  rw [Value.decode, decodeWith] at h
  cases hread : readValue (2 * s.length + 2) depthLimit s with
  | error fault =>
      rw [hread] at h
      cases h
  | ok found =>
      obtain ⟨v', rest⟩ := found
      rw [hread, ok_bind] at h
      dsimp only at h
      rw [expectEnd] at h
      split at h
      · rename_i hend
        cases h
        exact ⟨rest, rfl, hend⟩
      · cases h

/-! ### Characters -/

/-- The white space of JSON. -/
def isSpace (c : Char) : Bool := c == ' ' || c == '\n' || c == '\t' || c == '\r'

/-- A text without the white space around it. -/
def strip (s : List Char) : List Char := (s.dropWhile isSpace).rdropWhile isSpace

theorem toNat_lt_of_isSpace {c : Char} (h : isSpace c = true) : c.toNat < 128 := by
  simp only [isSpace, Bool.or_eq_true, beq_iff_eq] at h
  rcases h with ((rfl | rfl) | rfl) | rfl <;> decide

theorem toNat_lt_of_isBlank {b : UInt8} (h : isBlank b = true) : b.toNat < 128 := by
  simp only [isBlank, Bool.or_eq_true, beq_iff_eq] at h
  rcases h with ((rfl | rfl) | rfl) | rfl <;> decide

theorem isBlank_ofNat {c : Char} (h : c.toNat < 128) :
    isBlank (UInt8.ofNat c.toNat) = isSpace c :=
  Text.forall_ascii (P := fun c => isBlank (UInt8.ofNat c.toNat) = isSpace c)
    (by decide +kernel) h

/-- The blanks in front of a text are its white space. -/
theorem skipBlank_octets (s : List Char) : skipBlank (octets s) = octets (s.dropWhile isSpace) := by
  induction s with
  | nil => rfl
  | cons c s ih =>
      rw [octets_cons]
      by_cases hascii : c.toNat < 128
      · rw [encodeChar_of_lt hascii, List.singleton_append, skipBlank, List.dropWhile_cons,
          isBlank_ofNat hascii, List.dropWhile_cons]
        split
        · exact ih
        · rw [octets_cons, encodeChar_of_lt hascii]
          rfl
      · obtain ⟨b, bytes, hbytes, hb⟩ := exists_encodeChar_eq_cons hascii
        have hspace : isSpace c ≠ true := mt toNat_lt_of_isSpace hascii
        have hblank : isBlank b = false := Bool.eq_false_iff.mpr (mt toNat_lt_of_isBlank hb)
        rw [List.dropWhile_cons_of_neg hspace, octets_cons, hbytes, List.cons_append,
          skipBlank_cons hblank]

/-! ### Whole texts -/

/-- A text that says a record begins with its bracket. -/
theorem head?_of_decode_record {s : List Char} {members : List (String × Value)}
    (h : Value.decode (octets s) = .ok (.record members)) :
    (s.dropWhile isSpace).head? = some '\x7b' := by
  obtain ⟨fuel, rest, hread, -⟩ := exists_of_decode_eq_ok h
  obtain ⟨b, more, hskip, rfl⟩ := startsWith_of_readValue hread
  rw [skipBlank_octets] at hskip
  obtain ⟨rest', hdrop, -⟩ := exists_of_octets_eq_cons (by decide) hskip
  rw [hdrop]
  rfl

/-- A text that says nothing is one word between white space. -/
theorem strip_of_decode_null {s : List Char} (h : Value.decode (octets s) = .ok .null) :
    strip s = "null".toList := by
  obtain ⟨fuel, rest, hread, hend⟩ := exists_of_decode_eq_ok h
  have hskip := null_of_readValue hread
  rw [skipBlank_octets] at hskip
  obtain ⟨behind, hdrop, rfl⟩ := exists_of_octets_eq_append
    (Text.forall_of_all (by decide)) hskip
  rw [skipBlank_octets] at hend
  have hbehind : behind.dropWhile isSpace = [] := by
    cases hcons : behind.dropWhile isSpace with
    | nil => rfl
    | cons c more =>
        rw [hcons, octets_cons] at hend
        exact absurd (List.append_eq_nil_iff.mp hend).1 (encodeChar_ne_nil c)
  have hspaces : ∀ c ∈ behind.reverse, isSpace c = true := fun c hc =>
    List.dropWhile_eq_nil_iff.mp hbehind c (List.mem_reverse.mp hc)
  rw [strip, hdrop, List.rdropWhile, List.reverse_append, List.dropWhile_append_of_pos hspaces]
  rfl

end AppAdmin.Json
