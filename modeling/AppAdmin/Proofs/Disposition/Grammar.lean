import AppAdmin.Disposition
import AppAdmin.Proofs.Text.Chars

/-!
The grammar of a `Content-Disposition` value, said without the readers, and the readers held to it:
each takes exactly one phrase from the front of a text, provided that no token runs across the cut.
A phrase is a text together with what it stands for.
-/

namespace AppAdmin.Disposition

open Text (Blank)

/-- A token: one or more token characters. -/
def Token (s : List Char) : Prop := s ≠ [] ∧ ∀ c ∈ s, isTokenChar c = true

instance (s : List Char) : Decidable (Token s) :=
  decidable_of_iff ((!s.isEmpty && s.all isTokenChar) = true) (by simp [Token])

/-- The kind of a disposition: a token, or two with a slash between them. -/
def IsKind (s : List Char) : Prop :=
  Token s ∨ ∃ type subtype, Token type ∧ Token subtype ∧ s = type ++ '/' :: subtype

/-- What stands between two quotes, and the text it means. A backslash before a special character
is not part of that text; before any other character it stands for itself. -/
inductive Quoted : List Char → List Char → Prop
  | nil : Quoted [] []
  | plain {c : Char} {s v : List Char} : c ≠ '"' → c ≠ '\\' → c ≠ '\r' → c ≠ '\n' →
      Quoted s v → Quoted (c :: s) (c :: v)
  | escaped {c : Char} {s v : List Char} : isSpecial c = true → Quoted s v →
      Quoted ('\\' :: c :: s) (c :: v)
  | backslash {c : Char} {s v : List Char} : isSpecial c = false → Quoted (c :: s) v →
      Quoted ('\\' :: c :: s) ('\\' :: v)

/-- A value as it is written, and the text it means. -/
inductive Value : List Char → List Char → Prop
  | token {s : List Char} : Token s → Value s s
  | quoted {s v : List Char} : Quoted s v → Value ('"' :: s ++ ['"']) v

/-- A parameter as it is written, with its name in lower case and its value. -/
inductive Parameter : List Char → String × String → Prop
  | mk {w₁ w₂ w₃ w₄ name s v : List Char} : Blank w₁ → Blank w₂ → Token name → Blank w₃ →
      Blank w₄ → Value s v →
      Parameter (w₁ ++ ';' :: (w₂ ++ (name ++ (w₃ ++ '=' :: (w₄ ++ s)))))
        (String.ofList (name.map Char.toLower), String.ofList v)

/-- Parameters as they are written one after the other. -/
inductive Run : List Char → List (String × String) → Prop
  | nil : Run [] []
  | cons {s rest : List Char} {entry : String × String} {entries : List (String × String)} :
      Parameter s entry → Run rest entries → Run (s ++ rest) (entry :: entries)

/-- What may stand behind the last parameter: white space with at most one semicolon in it. -/
inductive Ending : List Char → Prop
  | blank {w : List Char} : Blank w → Ending w
  | semicolon {w₁ w₂ : List Char} : Blank w₁ → Blank w₂ → Ending (w₁ ++ ';' :: w₂)

/-! ### Where tokens end -/

/-- A token in front of the text goes no further. -/
def EndsToken (s : List Char) : Prop := ∀ c ∈ s.head?, isTokenChar c = false

/-- No token runs from one text into the other. -/
def Apart (s rest : List Char) : Prop :=
  ∀ c ∈ s.getLast?, isTokenChar c = true → EndsToken rest

theorem isTokenChar_eq_false_of_isBlank {c : Char} (h : Text.isBlank c = true) :
    isTokenChar c = false := by
  simp only [Text.isBlank, Bool.or_eq_true, Bool.and_eq_true, decide_eq_true_eq, beq_iff_eq] at h
  simp only [isTokenChar, Bool.and_eq_false_iff, decide_eq_false_iff_not]
  omega

theorem isBlank_eq_false_of_isTokenChar {c : Char} (h : isTokenChar c = true) :
    Text.isBlank c = false := by
  cases hb : Text.isBlank c with
  | false => rfl
  | true => rw [isTokenChar_eq_false_of_isBlank hb] at h; cases h

theorem EndsToken.nil : EndsToken [] := by
  intro c hc
  cases hc

theorem EndsToken.cons {c : Char} {s : List Char} (h : isTokenChar c = false) :
    EndsToken (c :: s) := by
  intro d hd
  cases hd
  exact h

/-- White space with a mark behind it ends a token. -/
theorem EndsToken.mark {w : List Char} {c : Char} (hw : Blank w) (hc : isTokenChar c = false)
    (s : List Char) : EndsToken (w ++ c :: s) := by
  cases w with
  | nil => exact .cons hc
  | cons b w => exact .cons (isTokenChar_eq_false_of_isBlank (hw b List.mem_cons_self))

theorem endsToken_afterToken (s : List Char) : EndsToken (afterToken s) := by
  intro c hc
  have h := List.head?_dropWhile_not isTokenChar s
  rwa [show (s.dropWhile isTokenChar).head? = some c from hc] at h

theorem tokenOf_append_afterToken (s : List Char) : tokenOf s ++ afterToken s = s :=
  List.takeWhile_append_dropWhile

theorem isTokenChar_of_mem_tokenOf {c : Char} {s : List Char} (h : c ∈ tokenOf s) :
    isTokenChar c = true :=
  List.all_eq_true.mp List.all_takeWhile c h

theorem token_tokenOf {s : List Char} (h : tokenOf s ≠ []) : Token (tokenOf s) :=
  ⟨h, fun _ hc => isTokenChar_of_mem_tokenOf hc⟩

theorem tokenOf_of_endsToken {rest : List Char} (h : EndsToken rest) : tokenOf rest = [] := by
  cases rest with
  | nil => rfl
  | cons c rest => simp [tokenOf, h c rfl]

theorem tokenOf_append {s rest : List Char} (hs : ∀ c ∈ s, isTokenChar c = true)
    (hr : EndsToken rest) : tokenOf (s ++ rest) = s :=
  Text.takeWhile_append_stop hs hr

theorem afterToken_append {s rest : List Char} (hs : ∀ c ∈ s, isTokenChar c = true)
    (hr : EndsToken rest) : afterToken (s ++ rest) = rest :=
  Text.dropWhile_append_stop hs hr

theorem Token.head {s : List Char} (h : Token s) :
    ∃ c rest, s = c :: rest ∧ isTokenChar c = true := by
  obtain ⟨c, rest, rfl⟩ := List.exists_cons_of_ne_nil h.1
  exact ⟨c, rest, rfl, h.2 c List.mem_cons_self⟩

theorem Token.trimStart_append {s : List Char} (h : Token s) (rest : List Char) :
    Text.trimStart (s ++ rest) = s ++ rest := by
  obtain ⟨c, s, rfl, hc⟩ := h.head
  exact Text.trimStart_of_head (isBlank_eq_false_of_isTokenChar hc)

/-! ### Values -/

theorem readQuoted_backslash {acc s : List Char} {c : Char} (h : isSpecial c = false) :
    readQuoted acc true (c :: s) = readQuoted ('\\' :: acc) false (c :: s) := by
  simp [readQuoted, h]

theorem readQuoted_append {s v : List Char} (h : Quoted s v) (acc rest : List Char) :
    readQuoted acc false (s ++ '"' :: rest) = some (acc.reverse ++ v, rest) := by
  induction h generalizing acc with
  | nil => simp [readQuoted]
  | @plain c s v h₁ h₂ h₃ h₄ _ ih =>
      rw [List.cons_append, readQuoted]
      simp [h₁, h₂, h₃, h₄, ih]
  | @escaped c s v hc _ ih =>
      rw [List.cons_append, readQuoted, List.cons_append]
      simp [readQuoted, hc, ih]
  | @backslash c s v hc _ ih =>
      have hstep : readQuoted acc false ('\\' :: (c :: s ++ '"' :: rest)) =
          readQuoted acc true (c :: s ++ '"' :: rest) := by
        simp [readQuoted]
      rw [List.cons_append, hstep, List.cons_append, readQuoted_backslash hc]
      simpa using ih ('\\' :: acc)

/-- A backslash that came last is put back in front: then what was read is a quoted text. -/
theorem quoted_of_readQuoted {acc s value rest : List Char} {escaped : Bool}
    (h : readQuoted acc escaped s = some (value, rest)) :
    ∃ text v, (if escaped then '\\' :: s else s) = text ++ '"' :: rest ∧ Quoted text v ∧
      value = acc.reverse ++ v := by
  fun_induction readQuoted acc escaped s with
  | case1 => cases h
  | case2 acc escaped c s hc ih =>
      obtain ⟨rfl, hc⟩ := Bool.and_eq_true_iff.mp hc
      obtain ⟨text, v, hs, hq, rfl⟩ := ih h
      refine ⟨'\\' :: c :: text, c :: v, ?_, .escaped hc hq, by simp⟩
      rw [if_neg (by decide)] at hs
      rw [if_pos rfl, hs]
      rfl
  | case3 acc escaped s acc' hc =>
      cases escaped with
      | true => exact absurd rfl hc
      | false =>
          cases h
          exact ⟨[], [], rfl, .nil, (List.append_nil _).symm⟩
  | case4 acc escaped s acc' hc hne ih =>
      cases escaped with
      | true => exact absurd rfl hc
      | false => exact ih h
  | case5 => cases h
  | case6 acc escaped c s hc acc' h₁ h₂ h₃ ih =>
      obtain ⟨text, v, hs, hq, rfl⟩ := ih h
      rw [if_neg (by decide)] at hs
      have hp : Quoted (c :: text) (c :: v) :=
        .plain h₁ h₂ (fun h => h₃ (.inl h)) (fun h => h₃ (.inr h)) hq
      cases escaped with
      | false => exact ⟨c :: text, c :: v, by rw [hs]; rfl, hp, by simp [acc']⟩
      | true =>
          have hc : isSpecial c = false := by simpa using hc
          exact ⟨'\\' :: c :: text, '\\' :: c :: v, by rw [hs]; rfl, .backslash hc hp,
            by simp [acc']⟩

theorem Value.head {s v : List Char} (h : Value s v) :
    ∃ c rest, s = c :: rest ∧ Text.isBlank c = false := by
  cases h with
  | token ht =>
      obtain ⟨c, rest, rfl, hc⟩ := ht.head
      exact ⟨c, rest, rfl, isBlank_eq_false_of_isTokenChar hc⟩
  | quoted => exact ⟨'"', _, rfl, by decide⟩

theorem readValue_of_ne_quote {c : Char} {s : List Char} (h : c ≠ '"') :
    readValue (c :: s) =
      if tokenOf (c :: s) = [] then none else some (tokenOf (c :: s), afterToken (c :: s)) := by
  unfold readValue
  split
  · rename_i heq
    cases heq
    exact absurd rfl h
  · rfl

theorem readValue_append {s v rest : List Char} (h : Value s v) (hr : Apart s rest) :
    readValue (s ++ rest) = some (v, rest) := by
  cases h with
  | token ht =>
      have hend : EndsToken rest := by
        obtain ⟨c, hc⟩ := Option.ne_none_iff_exists'.mp (mt List.getLast?_eq_none_iff.mp ht.1)
        exact hr c hc (ht.2 c (List.mem_of_getLast? hc))
      have htoken := tokenOf_append ht.2 hend
      have hafter := afterToken_append ht.2 hend
      obtain ⟨c, s, rfl, hc⟩ := ht.head
      have hq : c ≠ '"' := by
        rintro rfl
        exact absurd hc (by decide)
      rw [List.cons_append] at htoken hafter ⊢
      rw [readValue_of_ne_quote hq, htoken, hafter]
      rfl
  | @quoted s v hq =>
      have h := readQuoted_append hq [] rest
      simpa [readValue] using h

theorem value_of_readValue {s v rest : List Char} (h : readValue s = some (v, rest)) :
    ∃ text, s = text ++ rest ∧ Value text v ∧ Apart text rest := by
  unfold readValue at h
  split at h
  · rename_i s
    obtain ⟨text, v, hs, hq, rfl⟩ := quoted_of_readQuoted h
    rw [if_neg (by decide)] at hs
    refine ⟨'"' :: text ++ ['"'], by rw [hs]; simp, .quoted hq, ?_⟩
    intro c hc ht
    rw [List.getLast?_concat] at hc
    cases hc
    exact absurd ht (by decide)
  · split at h
    · cases h
    · rename_i hne
      cases h
      exact ⟨tokenOf s, (tokenOf_append_afterToken s).symm, .token (token_tokenOf hne),
        fun _ _ _ => endsToken_afterToken s⟩

/-! ### Parameters -/

theorem readMark_append {mark : Char} (hm : Text.isBlank mark = false) {w₁ w₂ : List Char}
    (h₁ : Blank w₁) (h₂ : Blank w₂) (rest : List Char) :
    readMark mark (w₁ ++ mark :: (w₂ ++ rest)) = some (Text.trimStart rest) := by
  rw [readMark, Text.trimStart_append h₁, Text.trimStart_of_head hm]
  simp [Text.trimStart_append h₂]

theorem exists_of_readMark {mark : Char} {s rest : List Char} (h : readMark mark s = some rest) :
    ∃ w₁ w₂, Blank w₁ ∧ Blank w₂ ∧ s = w₁ ++ mark :: (w₂ ++ rest) := by
  unfold readMark at h
  split at h
  · cases h
  · rename_i c after htrim
    split at h
    · rename_i hc
      cases h
      obtain ⟨w₁, h₁, hs⟩ := Text.exists_eq_append_trimStart s
      obtain ⟨w₂, h₂, ha⟩ := Text.exists_eq_append_trimStart after
      exact ⟨w₁, w₂, h₁, h₂, by rw [hs, htrim, hc, ← ha]⟩
    · cases h

theorem readParameter_trimStart (s : List Char) :
    readParameter (Text.trimStart s) = readParameter s := by
  rw [readParameter, readParameter, readMark, readMark, Text.trimStart_trimStart]

theorem Parameter.head {s : List Char} {entry : String × String} (h : Parameter s entry) :
    ∃ c rest, s = c :: rest ∧ isTokenChar c = false := by
  obtain @⟨w₁, _, _, _, _, _, _, h₁⟩ := h
  cases w₁ with
  | nil => exact ⟨';', _, rfl, by decide⟩
  | cons c w => exact ⟨c, _, rfl, isTokenChar_eq_false_of_isBlank (h₁ c List.mem_cons_self)⟩

/-- A parameter is read off the front of any text that does not go on with its last token. -/
theorem readParameter_append {s rest : List Char} {entry : String × String}
    (h : Parameter s entry) (hr : Apart s rest) :
    readParameter (s ++ rest) = some ((entry.1.toList, entry.2.toList), rest) := by
  obtain @⟨w₁, w₂, w₃, w₄, name, s, v, h₁, h₂, hn, h₃, h₄, hv⟩ := h
  have hvalue : readValue (s ++ rest) = some (v, rest) := by
    apply readValue_append hv
    intro c hc
    apply hr c
    rw [Option.mem_def] at hc ⊢
    simp [List.getLast?_append, List.getLast?_cons, hc]
  have hmark : readMark ';' (w₁ ++ ';' :: (w₂ ++ (name ++ (w₃ ++ '=' :: (w₄ ++ (s ++ rest)))))) =
      some (name ++ (w₃ ++ '=' :: (w₄ ++ (s ++ rest)))) := by
    rw [readMark_append (by decide) h₁ h₂, hn.trimStart_append]
  have hend : EndsToken (w₃ ++ '=' :: (w₄ ++ (s ++ rest))) := .mark h₃ (by decide) _
  have hequals : readMark '=' (w₃ ++ '=' :: (w₄ ++ (s ++ rest))) = some (s ++ rest) := by
    obtain ⟨c, tail, rfl, hc⟩ := hv.head
    rw [readMark_append (by decide) h₃ h₄, List.cons_append, Text.trimStart_of_head hc]
  simp only [List.append_assoc, List.cons_append, readParameter, hmark, tokenOf_append hn.2 hend,
    afterToken_append hn.2 hend, hequals, hvalue, hn.1, if_false, String.toList_ofList]

theorem parameter_of_readParameter {s rest name value : List Char}
    (h : readParameter s = some ((name, value), rest)) :
    ∃ text, s = text ++ rest ∧ Parameter text (String.ofList name, String.ofList value) ∧
      Apart text rest := by
  unfold readParameter at h
  split at h
  · cases h
  · rename_i s₁ hmark
    split at h
    · cases h
    · rename_i hne
      split at h
      · cases h
      · rename_i s₂ hequals
        split at h
        · cases h
        · rename_i v s₃ hvalue
          cases h
          obtain ⟨w₁, w₂, h₁, h₂, rfl⟩ := exists_of_readMark hmark
          obtain ⟨w₃, w₄, h₃, h₄, hafter⟩ := exists_of_readMark hequals
          obtain ⟨text, rfl, hv, hapart⟩ := value_of_readValue hvalue
          refine ⟨w₁ ++ ';' :: (w₂ ++ (tokenOf s₁ ++ (w₃ ++ '=' :: (w₄ ++ text)))), ?_,
            .mk h₁ h₂ (token_tokenOf hne) h₃ h₄ hv, ?_⟩
          · have hs := tokenOf_append_afterToken s₁
            rw [hafter] at hs
            simp only [List.append_assoc, List.cons_append, hs]
          · intro c hc
            apply hapart c
            obtain ⟨d, tail, rfl, -⟩ := hv.head
            rw [Option.mem_def] at hc ⊢
            simpa [List.getLast?_append, List.getLast?_cons] using hc

end AppAdmin.Disposition
