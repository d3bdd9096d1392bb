import AppAdmin.Proofs.Disposition.Decoding
import AppAdmin.Proofs.Disposition.Listing

/-!
The ways in which a header value may be written for a kind and parameters that are given: a value
as a token, between quotes or in percent escapes, the parameters in any order, names in any case and
white space around the marks. Main statement: parsing gives back what was written, and nothing else.
-/

namespace AppAdmin.Disposition

open Text (Blank)

/-! ### Ways to write a value -/

/-- A character between quotes: the quote and the backslash have a backslash in front. -/
def quotedChar (c : Char) : List Char :=
  if c = '"' ∨ c = '\\' then ['\\', c] else [c]

/-- No line ends in the text. -/
def OneLine (s : List Char) : Prop := ∀ c ∈ s, c ≠ '\r' ∧ c ≠ '\n'

instance (s : List Char) : Decidable (OneLine s) :=
  decidable_of_iff (s.all (fun c => c != '\r' && c != '\n') = true) (by simp [OneLine])

/-- The ways to write a value as it is: as a token, or between quotes if no line ends in it. -/
inductive Plain (value : String) : List Char → Prop
  | token : Token value.toList → Plain value value.toList
  | quoted : OneLine value.toList → Plain value ('"' :: value.toList.flatMap quotedChar ++ ['"'])

/-- The ways to spell bytes with percent escapes: a token character other than the percent sign may
stand for its byte, and two hexadecimal digits of any case may stand for any byte. -/
inductive Escaped : Bytes → List Char → Prop
  | nil : Escaped [] []
  | raw {c : Char} {bytes : Bytes} {s : List Char} : isTokenChar c = true → c ≠ '%' →
      Escaped bytes s → Escaped (UInt8.ofNat c.toNat :: bytes) (c :: s)
  | escape {b : UInt8} {high low : Char} {bytes : Bytes} {s : List Char} :
      Text.hexDigit? high = some (b.toNat / 16) → Text.hexDigit? low = some (b.toNat % 16) →
      Escaped bytes s → Escaped (b :: bytes) ('%' :: high :: low :: s)

/-- What stands in front of the escapes. -/
def charsetMark : List Char := "UTF-8''".toList

/-- The ways to write a parameter: names, still in lower case, with the texts behind them. The
plain parameter beside a starred one may have any value. -/
inductive Spelling (name value : String) : List (String × List Char) → Prop
  | plain {s : List Char} : Plain value s → Spelling name value [(name, s)]
  | starred {s : List Char} : Escaped (Text.Utf8.encode value) s →
      Spelling name value [(name ++ "*", charsetMark ++ s)]
  | both {s t : List Char} {fallback : String} : Escaped (Text.Utf8.encode value) s →
      Plain fallback t → Spelling name value [(name ++ "*", charsetMark ++ s), (name, t)]

/-- The ways to write parameters, one behind the other. -/
inductive Spellings : List (String × String) → List (String × List Char) → Prop
  | nil : Spellings [] []
  | cons {name value : String} {params : List (String × String)}
      {pieces others : List (String × List Char)} : Spelling name value pieces →
      Spellings params others → Spellings ((name, value) :: params) (pieces ++ others)

/-- Pieces as they stand in a header value: the case of the names is free, and so is the white space
around the marks. -/
inductive Written : List (String × List Char) → List Char → Prop
  | nil : Written [] []
  | cons {name : String} {s more written w₁ w₂ w₃ w₄ : List Char}
      {pieces : List (String × List Char)} : written.map Char.toLower = name.toList →
      Blank w₁ → Blank w₂ → Blank w₃ → Blank w₄ → Written pieces more →
      Written ((name, s) :: pieces)
        (w₁ ++ ';' :: (w₂ ++ (written ++ (w₃ ++ '=' :: (w₄ ++ s)))) ++ more)

/-- The header values that say a kind and parameters: any order of any spelling of them. -/
inductive Rendering (kind : String) (params : List (String × String)) : List Char → Prop
  | mk {kindText text : List Char} {pieces order : List (String × List Char)} :
      kindText.map Char.toLower = kind.toList → Spellings params pieces → order.Perm pieces →
      Written order text → Rendering kind params (kindText ++ text)

/-- A kind and parameters that can be written: names are different tokens in lower case and end in
no star. -/
structure Renderable (kind : String) (params : List (String × String)) : Prop where
  isKind : IsKind kind.toList
  lower : Text.lowered kind = kind
  nodup : (params.map Prod.fst).Nodup
  token : ∀ p ∈ params, Token p.1.toList
  lowerName : ∀ p ∈ params, Text.lowered p.1 = p.1
  notStarred : ∀ p ∈ params, ¬IsStarred p.1

/-! ### Values are read back -/

theorem quoted_flatMap_quotedChar {s : List Char} (h : OneLine s) :
    Quoted (s.flatMap quotedChar) s := by
  induction s with
  | nil => exact .nil
  | cons c s ih =>
      have hrest := ih fun d hd => h d (List.mem_cons_of_mem _ hd)
      obtain ⟨hcr, hlf⟩ := h c List.mem_cons_self
      rw [List.flatMap_cons, quotedChar]
      split
      · rename_i hmark
        refine .escaped ?_ hrest
        rcases hmark with rfl | rfl <;> decide
      · rename_i hmark
        exact .plain (fun hc => hmark (.inl hc)) (fun hc => hmark (.inr hc)) hcr hlf hrest

theorem Plain.value {value : String} {s : List Char} (h : Plain value s) :
    Value s value.toList := by
  cases h with
  | token ht => exact .token ht
  | quoted hline => exact .quoted (quoted_flatMap_quotedChar hline)

theorem isTokenChar_of_hexDigit? {c : Char} {d : Nat} (h : Text.hexDigit? c = some d) :
    isTokenChar c = true := by
  have hc : c.toNat < 0x67 := by
    unfold Text.hexDigit? at h
    grind
  have all : ∀ n ∈ List.range 0x67, (Text.hexDigit? (Char.ofNat n)).isSome = true →
      isTokenChar (Char.ofNat n) = true := by
    decide
  have hn := all c.toNat (List.mem_range.mpr hc)
  rw [Char.ofNat_toNat, h] at hn
  exact hn rfl

theorem Escaped.tokenChars {bytes : Bytes} {s : List Char} (h : Escaped bytes s) :
    ∀ c ∈ s, isTokenChar c = true := by
  induction h with
  | nil => exact nofun
  | raw hc _ _ ih => exact List.forall_mem_cons.mpr ⟨hc, ih⟩
  | escape hhigh hlow _ ih =>
      refine List.forall_mem_cons.mpr ⟨by decide, List.forall_mem_cons.mpr
        ⟨isTokenChar_of_hexDigit? hhigh, List.forall_mem_cons.mpr
        ⟨isTokenChar_of_hexDigit? hlow, ih⟩⟩⟩

theorem Escaped.token {bytes : Bytes} {s : List Char} (h : Escaped bytes s) :
    Token (charsetMark ++ s) := by
  refine ⟨List.cons_ne_nil _ _, fun c hc => ?_⟩
  have hmark : Token charsetMark := by decide
  exact (List.mem_append.mp hc).elim (hmark.2 c) (h.tokenChars c)

theorem Escaped.spells {bytes : Bytes} {s : List Char} (h : Escaped bytes s) : Spells s bytes := by
  induction h with
  | nil => exact .nil
  | @raw c bytes s hc hpercent _ ih =>
      have hascii : c.toNat < 0x80 := by
        simp only [isTokenChar, Bool.and_eq_true, decide_eq_true_eq] at hc
        omega
      have hchar : Text.Utf8.encodeChar c = [UInt8.ofNat c.toNat] := if_pos hascii
      have hspells := Spells.plain hpercent ih
      rwa [hchar] at hspells
  | @escape b high low bytes s hhigh hlow _ ih =>
      have hb : UInt8.ofNat (b.toNat / 16 * 16 + b.toNat % 16) = b := by
        rw [Nat.div_add_mod' b.toNat 16, UInt8.ofNat_toNat]
      have hspells := Spells.escape hhigh hlow ih
      rwa [hb] at hspells

theorem decodeStarred_of_escaped {value : String} {s : List Char}
    (h : Escaped (Text.Utf8.encode value) s) : decodeStarred (charsetMark ++ s) = some value := by
  have hcharset : IsCharset "UTF-8".toList := Or.inl (by decide)
  exact decodeStarred_eq_some_iff.mpr
    (.mk (by decide) List.not_mem_nil hcharset h.spells)

/-! ### Pieces -/

/-- The parameter that a piece is read as. -/
def entryOf (piece : String × List Char) : String × String :=
  (piece.1, String.ofList ((readValue piece.2).elim [] Prod.fst))

theorem entryOf_of_value {name : String} {s v : List Char} (h : Value s v) :
    entryOf (name, s) = (name, String.ofList v) := by
  have hread := readValue_append h (.of_endsToken .nil)
  rw [List.append_nil] at hread
  rw [entryOf, hread]
  rfl

variable {name value : String} {pieces : List (String × List Char)}

theorem Spelling.name_eq (h : Spelling name value pieces) :
    ∀ piece ∈ pieces, piece.1 = name ∨ piece.1 = name ++ "*" := by
  cases h <;> simp

theorem Spelling.token (h : Spelling name value pieces) (hname : Token name.toList) :
    ∀ piece ∈ pieces, Token piece.1.toList := by
  intro piece hpiece
  rcases h.name_eq piece hpiece with heq | heq
  · rwa [heq]
  · rw [heq, String.toList_append]
    refine ⟨List.append_ne_nil_of_left_ne_nil hname.1 _, fun c hc => ?_⟩
    have hstar : Token "*".toList := by decide
    exact (List.mem_append.mp hc).elim (hname.2 c) (hstar.2 c)

theorem Spelling.exists_value (h : Spelling name value pieces) :
    ∀ piece ∈ pieces, ∃ v, Value piece.2 v := by
  cases h with
  | plain hp => simpa using ⟨_, hp.value⟩
  | starred he => simpa using ⟨_, .token he.token⟩
  | both he hp => simpa using ⟨⟨_, .token he.token⟩, ⟨_, hp.value⟩⟩

theorem Spelling.dropStars_eq (h : Spelling name value pieces) (hname : ¬IsStarred name) :
    ∀ piece ∈ pieces, dropStars piece.1 = name := by
  intro piece hpiece
  rcases h.name_eq piece hpiece with heq | heq
  · rw [heq, dropStars_of_not_isStarred hname]
  · rw [heq, dropStars_append hname]

theorem Spelling.nodup (h : Spelling name value pieces) (hname : ¬IsStarred name) :
    (pieces.map Prod.fst).Nodup := by
  cases h with
  | plain => simp
  | starred => simp
  | both =>
      simp only [List.map_cons, List.map_nil, List.nodup_cons, List.mem_singleton]
      refine ⟨fun heq => hname ?_, List.not_mem_nil, List.nodup_nil⟩
      rw [← heq]
      exact isStarred_append name

/-- A starred piece gives the value under the plain name. -/
theorem Spelling.settle_entryOf (h : Spelling name value pieces) (hname : ¬IsStarred name) :
    ∀ piece ∈ pieces, IsStarred piece.1 → settle (entryOf piece) = (name, value) := by
  have hstarred : ∀ {s}, Escaped (Text.Utf8.encode value) s →
      settle (entryOf (name ++ "*", charsetMark ++ s)) = (name, value) := by
    intro s he
    rw [entryOf_of_value (.token he.token), settle, String.toList_ofList,
      decodeStarred_of_escaped he]
    exact congrArg (·, value) (dropStars_append hname)
  intro piece hpiece hstar
  cases h with
  | plain =>
      rw [List.mem_singleton.mp hpiece] at hstar
      exact absurd hstar hname
  | starred he =>
      rw [List.mem_singleton.mp hpiece]
      exact hstarred he
  | both he _ =>
      rcases List.mem_cons.mp hpiece with rfl | hpiece
      · exact hstarred he
      · rw [List.mem_singleton.mp hpiece] at hstar
        exact absurd hstar hname

/-- A spelling without a starred piece has the value in a plain one. -/
theorem Spelling.starred_or_plain (h : Spelling name value pieces) :
    (∃ piece ∈ pieces, IsStarred piece.1) ∨ ∃ piece ∈ pieces, entryOf piece = (name, value) := by
  cases h with
  | plain hp =>
      refine .inr ⟨_, List.mem_singleton_self _, ?_⟩
      rw [entryOf_of_value hp.value, String.ofList_toList]
  | starred he => exact .inl ⟨_, List.mem_cons_self, isStarred_append name⟩
  | both he _ => exact .inl ⟨_, List.mem_cons_self, isStarred_append name⟩

variable {params : List (String × String)}

theorem Spellings.exists_of_mem (h : Spellings params pieces) {piece : String × List Char}
    (hpiece : piece ∈ pieces) :
    ∃ p ∈ params, ∃ group, Spelling p.1 p.2 group ∧ piece ∈ group := by
  induction h with
  | nil => cases hpiece
  | @cons name value params group others hs _ ih =>
      rcases List.mem_append.mp hpiece with hgroup | hothers
      · exact ⟨(name, value), List.mem_cons_self, group, hs, hgroup⟩
      · obtain ⟨p, hp, hrest⟩ := ih hothers
        exact ⟨p, List.mem_cons_of_mem _ hp, hrest⟩

theorem Spellings.exists_group (h : Spellings params pieces) {p : String × String}
    (hp : p ∈ params) : ∃ group, Spelling p.1 p.2 group ∧ ∀ piece ∈ group, piece ∈ pieces := by
  induction h with
  | nil => cases hp
  | @cons name value params group others hs _ ih =>
      rcases List.mem_cons.mp hp with rfl | hp
      · exact ⟨group, hs, fun piece hpiece => List.mem_append_left _ hpiece⟩
      · obtain ⟨found, hfound, hmem⟩ := ih hp
        exact ⟨found, hfound, fun piece hpiece => List.mem_append_right _ (hmem piece hpiece)⟩

theorem Spellings.nodup (h : Spellings params pieces) (hnodup : (params.map Prod.fst).Nodup)
    (hname : ∀ p ∈ params, ¬IsStarred p.1) : (pieces.map Prod.fst).Nodup := by
  induction h with
  | nil => exact .nil
  | @cons name value params group others hs hrest ih =>
      obtain ⟨hnot, hnodup⟩ := List.nodup_cons.mp hnodup
      have hothers := fun p hp => hname p (List.mem_cons_of_mem _ hp)
      have hfirst := hname (name, value) List.mem_cons_self
      rw [List.map_append, List.nodup_append]
      refine ⟨hs.nodup hfirst, ih hnodup hothers, ?_⟩
      rintro _ hx _ hy rfl
      obtain ⟨piece, hpiece, rfl⟩ := List.mem_map.mp hx
      obtain ⟨other, hother, heq⟩ := List.mem_map.mp hy
      obtain ⟨p, hp, found, hfound, hmem⟩ := hrest.exists_of_mem hother
      have hbase := hfound.dropStars_eq (hothers p hp) other hmem
      rw [heq, hs.dropStars_eq hfirst piece hpiece] at hbase
      exact hnot (List.mem_map.mpr ⟨p, hp, hbase.symm⟩)

/-! ### Whole header values -/

theorem token_map_toLower {s : List Char} : Token (s.map Char.toLower) ↔ Token s := by
  simp [Token, isTokenChar_toLower]

theorem isKind_iff {s : List Char} : IsKind s ↔ checkKind s = .ok () := by
  refine ⟨IsKind.checkKind, fun hok => (isKind_or_fault s).resolve_right ?_⟩
  rintro ⟨fault, hfault⟩
  rw [hfault.checkKind] at hok
  cases hok

theorem isKind_map_toLower {s : List Char} : IsKind (s.map Char.toLower) ↔ IsKind s := by
  rw [isKind_iff, isKind_iff, checkKind_map_toLower]

theorem Written.run {text : List Char} (h : Written pieces text)
    (hpieces : ∀ piece ∈ pieces, Token piece.1.toList ∧ ∃ v, Value piece.2 v) :
    Run text (pieces.map entryOf) := by
  induction h with
  | nil => exact .nil
  | @cons name s more written w₁ w₂ w₃ w₄ pieces hname h₁ h₂ h₃ h₄ _ ih =>
      obtain ⟨ht, v, hv⟩ := hpieces (name, s) List.mem_cons_self
      rw [← hname, token_map_toLower] at ht
      have hp := Parameter.mk h₁ h₂ ht h₃ h₄ hv
      rw [hname, String.ofList_toList, ← entryOf_of_value hv] at hp
      exact .cons hp (ih fun piece hpiece => hpieces piece (List.mem_cons_of_mem _ hpiece))

theorem IsKind.ne_semicolon {s : List Char} (h : IsKind s) : ∀ c ∈ s, c ≠ ';' := by
  have htoken : ∀ {t : List Char}, Token t → ∀ c ∈ t, c ≠ ';' := by
    rintro t ht c hc rfl
    exact absurd (ht.2 _ hc) (by decide)
  obtain h | ⟨type, subtype, ht, hs, rfl⟩ := h
  · exact htoken h
  · intro c hc
    rcases List.mem_append.mp hc with hc | hc
    · exact htoken ht c hc
    · rcases List.mem_cons.mp hc with rfl | hc
      · decide
      · exact htoken hs c hc

theorem Token.trimEnd_append {s : List Char} (h : Token s) (front : List Char) :
    Text.trimEnd (front ++ s) = front ++ s := by
  obtain ⟨init, c, rfl⟩ := (List.eq_nil_or_concat' s).resolve_left h.1
  have hc : Text.isBlank c = false := isBlank_eq_false_of_isTokenChar (h.2 c (by simp))
  rw [← List.append_assoc, Text.trimEnd_of_getLast hc]

/-- Nothing of a kind is trimmed. -/
theorem IsKind.trim {s : List Char} (h : IsKind s) : Text.trim s = s := by
  obtain h | ⟨type, subtype, ht, hs, rfl⟩ := h
  · have hstart := h.trimStart_append []
    rw [List.append_nil] at hstart
    rw [Text.trim, hstart]
    exact h.trimEnd_append []
  · rw [Text.trim, ht.trimStart_append]
    calc Text.trimEnd (type ++ '/' :: subtype)
        = Text.trimEnd ((type ++ ['/']) ++ subtype) := by rw [List.append_assoc]; rfl
      _ = (type ++ ['/']) ++ subtype := hs.trimEnd_append _
      _ = type ++ '/' :: subtype := by rw [List.append_assoc]; rfl

theorem Rendering.parse {kind : String} {header : List Char} (hsaid : Renderable kind params)
    (h : Rendering kind params header) : ∃ pieces order : List (String × List Char),
      Spellings params pieces ∧ order.Perm pieces ∧ ((order.map entryOf).map Prod.fst).Nodup ∧
      parse (String.ofList header) = .ok ⟨kind, collect (order.map entryOf)⟩ := by
  obtain @⟨kindText, text, pieces, order, hkindText, hs, hperm, hwritten⟩ := h
  have hkind : IsKind kindText := by
    rw [← isKind_map_toLower, hkindText]
    exact hsaid.isKind
  have hnodup : ((order.map entryOf).map Prod.fst).Nodup := by
    rw [List.map_map]
    exact ((hperm.map _).nodup_iff).mpr (hs.nodup hsaid.nodup hsaid.notStarred)
  have hpieces : ∀ piece ∈ order, Token piece.1.toList ∧ ∃ v, Value piece.2 v := by
    intro piece hpiece
    obtain ⟨p, hp, group, hgroup, hmem⟩ := hs.exists_of_mem (hperm.mem_iff.mp hpiece)
    exact ⟨hgroup.token (hsaid.token p hp) piece hmem, hgroup.exists_value piece hmem⟩
  have hrun : Run text (order.map entryOf) := hwritten.run hpieces
  have hlists := Lists.mk hkind.ne_semicolon hrun (.blank .nil)
  have hkindPart := (parts_of_run hkind.ne_semicolon hrun (.blank .nil)).1
  rw [List.append_nil] at hlists hkindPart
  rw [hkind.trim] at hkindPart
  refine ⟨pieces, order, hs, hperm, hnodup, hlists.parse_eq_ok_iff.mpr ⟨?_, hnodup, ?_⟩⟩
  · rwa [hkindPart]
  · rw [hkindPart, hkindText, String.ofList_toList]

/-- Parsing gives back what was written: the kind, every parameter with its value, and no parameter
of another name. -/
theorem parse_rendering {kind : String} {params : List (String × String)} {header : List Char}
    (hsaid : Renderable kind params) (h : Rendering kind params header) :
    ∃ d, parse (String.ofList header) = .ok d ∧ d.kind = kind ∧
      (∀ p ∈ params, d.param? p.1 = some p.2) ∧
      ∀ name, (∀ p ∈ params, Text.sameName name p.1 = false) → d.param? name = none := by
  obtain ⟨pieces, order, hs, hperm, hnodup, hparsed⟩ := h.parse hsaid
  -- a starred piece can only come from the parameter under whose name it is found
  have hstarred : ∀ entry ∈ order.map entryOf, IsStarred entry.1 →
      ∃ p ∈ params, settle entry = p := by
    intro entry hentry hstar
    obtain ⟨piece, hpiece, rfl⟩ := List.mem_map.mp hentry
    obtain ⟨p, hp, group, hgroup, hmem⟩ := hs.exists_of_mem (hperm.mem_iff.mp hpiece)
    exact ⟨p, hp, hgroup.settle_entryOf (hsaid.notStarred p hp) piece hmem hstar⟩
  refine ⟨_, hparsed, rfl, fun p hp => ?_, fun name hname => ?_⟩
  · have hlower : Text.lowered p.1 = p.1 := hsaid.lowerName p hp
    rw [param?, hlower]
    by_cases hex : ∃ entry ∈ order.map entryOf, IsStarred entry.1 ∧ (settle entry).1 = p.1
    · refine get?_collect_of_starred hnodup hex fun entry hentry hstar hname => ?_
      obtain ⟨q, hq, hsettle⟩ := hstarred entry hentry hstar
      rw [hsettle] at hname ⊢
      rw [List.inj_on_of_nodup_map hsaid.nodup hq hp hname]
    · have hnone : ∀ entry ∈ order.map entryOf, IsStarred entry.1 → (settle entry).1 ≠ p.1 :=
        fun entry hentry hstar hname => hex ⟨entry, hentry, hstar, hname⟩
      obtain ⟨group, hgroup, hmem⟩ := hs.exists_group hp
      have horder : ∀ piece ∈ group, entryOf piece ∈ order.map entryOf :=
        fun piece hpiece => List.mem_map_of_mem (hperm.mem_iff.mpr (hmem piece hpiece))
      obtain ⟨piece, hpiece, hstar⟩ | ⟨piece, hpiece, heq⟩ := hgroup.starred_or_plain
      · have hsettle := hgroup.settle_entryOf (hsaid.notStarred p hp) piece hpiece hstar
        exact absurd (congrArg Prod.fst hsettle) (hnone _ (horder piece hpiece) hstar)
      · have hplain := horder piece hpiece
        rw [heq] at hplain
        exact get?_collect_of_plain hnodup hplain (hsaid.notStarred p hp) hnone
  · have hother : ∀ p ∈ params, p.1 ≠ Text.lowered name := by
      intro p hp heq
      have hsame : Text.sameName name p.1 = true := by
        rw [Text.sameName_iff, hsaid.lowerName p hp, heq]
      rw [hname p hp] at hsame
      cases hsame
    rw [param?, get?_collect_of_not_starred hnodup]
    · refine Parameters.find_eq_none fun entry hentry heq => ?_
      obtain ⟨hentry, hplain⟩ := List.mem_filter.mp (List.mem_reverse.mp hentry)
      obtain ⟨piece, hpiece, rfl⟩ := List.mem_map.mp hentry
      obtain ⟨p, hp, group, hgroup, hmem⟩ := hs.exists_of_mem (hperm.mem_iff.mp hpiece)
      rcases hgroup.name_eq piece hmem with hbase | hbase
      · exact hother p hp (hbase.symm.trans heq)
      · refine of_decide_eq_true hplain ?_
        rw [show (entryOf piece).1 = p.1 ++ "*" from hbase]
        exact isStarred_append p.1
    · intro entry hentry hstar heq
      obtain ⟨p, hp, hsettle⟩ := hstarred entry hentry hstar
      rw [hsettle] at heq
      exact hother p hp heq

/-- A file name with a letter and a quote that need escapes, written beside a fallback and behind a
parameter of another name, in mixed case and with white space. -/
theorem parse_rendering_filename : ∃ d,
    parse "ATTACHMENT ; filename=\"\\\"\\\\\";Size=42 ; FileName* = UTF-8''a%C3%a9%22" = .ok d ∧
      d.kind = "attachment" ∧ d.param? "filename" = some "aé\"" ∧ d.param? "size" = some "42" ∧
      d.param? "filename*" = none := by
  have hsaid : Renderable "attachment" [("filename", "aé\""), ("size", "42")] :=
    ⟨.inl (by decide), by decide, by decide, by decide, by decide, by decide⟩
  have hescaped : Escaped (Text.Utf8.encode "aé\"") "a%C3%a9%22".toList := by
    rw [show Text.Utf8.encode "aé\"" = [UInt8.ofNat 'a'.toNat, 0xC3, 0xA9, 0x22] by decide]
    exact .raw (by decide) (by decide) (.escape (by decide) (by decide)
      (.escape (by decide) (by decide) (.escape (by decide) (by decide) .nil)))
  have hfallback : Plain "\"\\" "\"\\\"\\\\\"".toList := .quoted (by decide)
  have hspelled : Spellings [("filename", "aé\""), ("size", "42")]
      ([("filename" ++ "*", charsetMark ++ "a%C3%a9%22".toList),
        ("filename", "\"\\\"\\\\\"".toList)] ++ ([("size", "42".toList)] ++ [])) :=
    .cons (.both hescaped hfallback) (.cons (.plain (.token (by decide))) .nil)
  have hblank : Blank " ".toList := by decide
  have hstarred := @Written.cons ("filename" ++ "*") (charsetMark ++ "a%C3%a9%22".toList) _
    "FileName*".toList " ".toList " ".toList " ".toList " ".toList _ (by decide)
    hblank hblank hblank hblank .nil
  have hsize := @Written.cons "size" "42".toList _ "Size".toList [] [] [] [] _ (by decide)
    .nil .nil .nil .nil hstarred
  have hall := @Written.cons "filename" "\"\\\"\\\\\"".toList _ "filename".toList " ".toList
    " ".toList [] [] _ (by decide) hblank hblank .nil .nil hsize
  obtain ⟨d, hd, hkind, hparams, hothers⟩ := parse_rendering hsaid
    (.mk (by decide : "ATTACHMENT".toList.map Char.toLower = _) hspelled (by decide) hall)
  exact ⟨d, hd, hkind, hparams ("filename", "aé\"") (by decide), hparams ("size", "42") (by decide),
    hothers "filename*" (by decide)⟩

end AppAdmin.Disposition
