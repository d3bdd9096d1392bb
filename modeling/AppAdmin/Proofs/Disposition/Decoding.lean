import AppAdmin.Disposition
import AppAdmin.Proofs.Text.Chars
import AppAdmin.Proofs.Text.Utf8

/-!
Starred values. Such a value is decoded exactly if it has a known charset and a language in front, each
with an apostrophe behind it, and the rest spells a text in UTF-8 with percent escapes.
-/

namespace AppAdmin.Disposition

/-- A text and the bytes that it spells: a percent sign with two hexadecimal digits stands for a byte,
and any other character for its own bytes. -/
inductive Spells : List Char → Bytes → Prop
  | nil : Spells [] []
  | escape {high low : Char} {a b : Nat} {s : List Char} {bytes : Bytes} :
      Text.hexDigit? high = some a → Text.hexDigit? low = some b → Spells s bytes →
      Spells ('%' :: high :: low :: s) (UInt8.ofNat (a * 16 + b) :: bytes)
  | plain {c : Char} {s : List Char} {bytes : Bytes} : c ≠ '%' → Spells s bytes →
      Spells (c :: s) (Text.Utf8.encodeChar c ++ bytes)

/-- The charsets that are decoded. -/
def IsCharset (charset : List Char) : Prop :=
  charset.map Char.toLower = "utf-8".toList ∨ charset.map Char.toLower = "us-ascii".toList

/-- A starred value and the text that it says. An apostrophe ends the charset and another one the
language, so that there may be more of them only behind those. -/
inductive Extended : List Char → String → Prop
  | mk {charset language escapes : List Char} {value : String} : '\'' ∉ charset → '\'' ∉ language →
      IsCharset charset → Spells escapes (Text.Utf8.encode value) →
      Extended (charset ++ '\'' :: (language ++ '\'' :: escapes)) value

/-! ### Escapes -/

theorem percentBytes_cons {c : Char} (h : c ≠ '%') (s : List Char) :
    percentBytes (c :: s) = (percentBytes s).map (Text.Utf8.encodeChar c ++ ·) := by
  rw [percentBytes.eq_def]
  exact if_neg h

theorem Spells.percentBytes {s : List Char} {bytes : Bytes} (h : Spells s bytes) :
    percentBytes s = some bytes := by
  induction h with
  | nil => rfl
  | escape hhigh hlow _ ih =>
      rw [Disposition.percentBytes, if_pos rfl, hhigh, hlow, ih]
      rfl
  | plain hc _ ih =>
      rw [percentBytes_cons hc, ih]
      rfl

theorem spells_of_percentBytes {s : List Char} {bytes : Bytes} (h : percentBytes s = some bytes) :
    Spells s bytes := by
  fun_induction percentBytes s generalizing bytes with
  | case1 =>
      cases h
      exact .nil
  | case2 high low rest ih =>
      obtain ⟨a, ha, h⟩ := Option.bind_eq_some_iff.mp h
      obtain ⟨b, hb, h⟩ := Option.bind_eq_some_iff.mp h
      obtain ⟨more, hmore, h⟩ := Option.bind_eq_some_iff.mp h
      cases h
      exact .escape ha hb (ih hmore)
  | case3 => cases h
  | case4 c rest hc ih =>
      obtain ⟨more, hmore, rfl⟩ := Option.map_eq_some_iff.mp h
      exact .plain hc (ih hmore)

/-- The bytes are those that the text spells, if it spells any. -/
theorem percentBytes_eq_some_iff {s : List Char} {bytes : Bytes} :
    percentBytes s = some bytes ↔ Spells s bytes :=
  ⟨spells_of_percentBytes, Spells.percentBytes⟩

/-! ### Charset and language -/

theorem isKnownCharset_iff {charset : List Char} :
    isKnownCharset charset = true ↔ IsCharset charset := by
  have hname : ∀ name : String, (String.ofList (charset.map Char.toLower) == name) = true ↔
      charset.map Char.toLower = name.toList := by
    intro name
    rw [beq_iff_eq, ← String.toList_inj, String.toList_ofList]
  rw [isKnownCharset, IsCharset, Bool.or_eq_true, hname, hname]

/-- What stands behind the first mark, which is the one that has none in front. -/
theorem tail?_dropWhile_mark {mark : Char} {front : List Char} (h : mark ∉ front)
    (rest : List Char) : ((front ++ mark :: rest).dropWhile (· != mark)).tail? = some rest := by
  rw [Text.dropWhile_mark h]
  rfl

theorem eq_append_of_tail?_dropWhile {mark : Char} {s rest : List Char}
    (h : (s.dropWhile (· != mark)).tail? = some rest) :
    s = s.takeWhile (· != mark) ++ mark :: rest := by
  have hs := List.takeWhile_append_dropWhile (p := (· != mark)) (l := s)
  have hhead := List.head?_dropWhile_not (· != mark) s
  cases hdrop : s.dropWhile (· != mark) with
  | nil =>
      rw [hdrop] at h
      cases h
  | cons c more =>
      rw [hdrop] at h hs hhead
      have hc : c = mark := by simpa using hhead
      cases h
      subst hc
      exact hs.symm

/-- **Which starred values are decoded**, and to what. -/
theorem decodeStarred_eq_some_iff {raw : List Char} {value : String} :
    decodeStarred raw = some value ↔ Extended raw value := by
  constructor
  · intro h
    obtain ⟨rest, hrest, h⟩ := Option.bind_eq_some_iff.mp h
    obtain ⟨escapes, hescapes, h⟩ := Option.bind_eq_some_iff.mp h
    split at h
    · rename_i hcharset
      obtain ⟨bytes, hbytes, h⟩ := Option.bind_eq_some_iff.mp h
      rw [Text.Utf8.decode?_eq_some_iff] at h
      rw [eq_append_of_tail?_dropWhile hrest, eq_append_of_tail?_dropWhile hescapes]
      refine .mk (Text.mark_notMem_takeWhile _ raw) (Text.mark_notMem_takeWhile _ rest)
        (isKnownCharset_iff.mp hcharset) ?_
      rw [← h]
      exact percentBytes_eq_some_iff.mp hbytes
    · cases h
  · rintro @⟨charset, language, escapes, value, hcharset, hlanguage, hknown, hspells⟩
    have hfirst := tail?_dropWhile_mark hcharset (language ++ '\'' :: escapes)
    have hsecond := tail?_dropWhile_mark hlanguage escapes
    simp only [decodeStarred, hfirst, hsecond, Text.takeWhile_mark hcharset,
      isKnownCharset_iff.mpr hknown, if_true, Option.bind_eq_bind, Option.bind_some,
      percentBytes_eq_some_iff.mpr hspells, Text.Utf8.decode?_encode]

theorem decodeStarred_eq_none_iff {raw : List Char} :
    decodeStarred raw = none ↔ ∀ value, ¬Extended raw value := by
  rw [Option.eq_none_iff_forall_ne_some]
  exact forall_congr' fun value => not_congr decodeStarred_eq_some_iff

end AppAdmin.Disposition
