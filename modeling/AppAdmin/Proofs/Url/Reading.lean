import Mathlib.Data.List.DropRight
import AppAdmin.Proofs.Url.Escapes
import AppAdmin.Proofs.Url.Hosts
import AppAdmin.Url

/-!
How a URL of the web is read again from its text. The authority ends at the first slash behind it,
so that it is read for itself, whatever stands behind that slash; the rest is split at its marks.
-/

namespace AppAdmin.Url

/-! ### Cutting -/

theorem cut_append {mark : Char} {p : List Char} (h : mark ∉ p) (s : List Char) :
    cut mark (p ++ s) = (p ++ (cut mark s).1, (cut mark s).2) := by
  have hall := Text.ne_mark_of_notMem h
  rw [cut, cut, List.dropWhile_append_of_pos hall, List.takeWhile_append_of_pos hall]
  split <;> rfl

/-- A text without a mark is cut from the part that the mark leads in. -/
theorem cut_markedText {mark : Char} {p : List Char} (h : mark ∉ p) (part : Option (List Char)) :
    cut mark (p ++ markedText mark part) = (p, part) := by
  rw [cut_append h]
  cases part with
  | none => simp [markedText, cut]
  | some s => simp [markedText, cut]

/-! ### Trimming at the end -/

theorem rdropWhile_append {f : Char → Bool} {c : Char} (hc : f c = false) (p s : List Char) :
    (p ++ c :: s).rdropWhile f = p ++ c :: s.rdropWhile f := by
  have hlast : (c :: p.reverse).dropWhile f = c :: p.reverse :=
    List.dropWhile_cons_of_neg (by simp [hc])
  rw [List.rdropWhile, List.rdropWhile, List.reverse_append, List.reverse_cons, List.append_assoc,
    List.singleton_append, List.dropWhile_append, hlast]
  split
  next h => simp [List.isEmpty_iff.mp h]
  next => simp

/-- Whether a character is dropped from the ends of a text. -/
def isDropped (c : Char) : Bool := c.toNat ≤ 0x20

/-- What cleaning leaves of a text behind others. -/
def cleanEnd (s : List Char) : List Char :=
  (s.rdropWhile isDropped).filter fun c => c != '\t' && c != '\n' && c != '\r'

theorem keeps_of_not_dropped {c : Char} (h : 0x20 < c.toNat) :
    (c != '\t' && c != '\n' && c != '\r') = true := by
  simp only [Bool.and_eq_true, bne_iff_ne]
  refine ⟨⟨?_, ?_⟩, ?_⟩ <;> (rintro rfl; exact absurd h (by decide))

theorem clean_of_head {c : Char} (h : 0x20 < c.toNat) (s : List Char) :
    clean (c :: s) = cleanEnd (c :: s) := by
  have hhead : (c :: s).dropWhile isDropped = c :: s :=
    List.dropWhile_cons_of_neg (by simpa [isDropped] using h)
  change (((c :: s).dropWhile isDropped).rdropWhile isDropped).filter _ = _
  rw [hhead]
  rfl

theorem cleanEnd_cons {c : Char} (h : 0x20 < c.toNat) (s : List Char) :
    cleanEnd (c :: s) = c :: cleanEnd s := by
  have hend := rdropWhile_append (f := isDropped) (by simpa [isDropped] using h) [] s
  rw [List.nil_append, List.nil_append] at hend
  simp only [cleanEnd, hend, List.filter_cons, keeps_of_not_dropped h, if_true]

theorem cleanEnd_append {p : List Char} (hp : ∀ c ∈ p, 0x20 < c.toNat) (s : List Char) :
    cleanEnd (p ++ s) = p ++ cleanEnd s := by
  induction p with
  | nil => rfl
  | cons c p ih =>
      obtain ⟨hc, hp⟩ := List.forall_mem_cons.mp hp
      rw [List.cons_append, cleanEnd_cons hc, ih hp]
      rfl

theorem cleanEnd_of_kept {s : List Char} (h : ∀ c ∈ s, 0x20 < c.toNat) : cleanEnd s = s := by
  have hend := cleanEnd_append h []
  rwa [List.append_nil, show cleanEnd [] = [] from rfl, List.append_nil] at hend

/-! ### Authorities of the web -/

/-- The schemes that a base URL may have. -/
def IsWeb (scheme : List Char) : Prop := scheme = "http".toList ∨ scheme = "https".toList

theorem IsWeb.cutScheme {scheme : List Char} (h : IsWeb scheme) (s : List Char) :
    cutScheme? (scheme ++ ':' :: s) = some (scheme, s) := by
  obtain rfl | rfl := h <;> simp [cutScheme?, isSchemeChar]

theorem IsWeb.readHierarchy {scheme : List Char} (h : IsWeb scheme) (s : Hierarchy) :
    readHierarchy scheme s = readWeb scheme s := by
  obtain rfl | rfl := h <;> rfl

theorem IsWeb.isSpecial {scheme : List Char} (h : IsWeb scheme) : isSpecial scheme = true := by
  obtain rfl | rfl := h <;> rfl

theorem isAuthorityChar_iff {c : Char} : isAuthorityChar c = true ↔
    0x20 < c.toNat ∧ c ≠ '/' ∧ c ≠ '?' ∧ c ≠ '#' ∧ c ≠ '\\' := by
  simp [isAuthorityChar]

theorem AuthorityText.not_slash {s : List Char} (h : AuthorityText s) :
    ∀ c ∈ s, isAnySlash c = false := by
  intro c hc
  obtain ⟨-, hslash, -, -, hback⟩ := isAuthorityChar_iff.mp (h c hc)
  simp [isAnySlash, hslash, hback]

/-- The URL of an authority that has been read, with what it left over, and of the text behind. -/
def withTail (scheme : List Char) (read : Authority × List Char) (tail : List Char) : Url :=
  let (rest, fragment) := cut '#' (cleanEnd tail)
  let (rest, query) := cut '?' rest
  ⟨scheme, some read.1, .ofText isAnySlash (read.2 ++ rest),
    query.map (percentEncode (escapedInQuery true)), fragment.map (percentEncode escapedInFragment)⟩

theorem dropWhile_slashes {authority : List Char} (hauthority : AuthorityText authority)
    (hne : authority ≠ []) (rest : List Char) :
    ("//".toList ++ authority ++ '/' :: rest).dropWhile isAnySlash = authority ++ '/' :: rest := by
  cases authority with
  | nil => exact absurd rfl hne
  | cons c authority =>
      have hc : isAnySlash c = false := hauthority.not_slash c List.mem_cons_self
      have hslash : isAnySlash '/' = true := rfl
      change ('/' :: '/' :: c :: (authority ++ '/' :: rest)).dropWhile isAnySlash = _
      rw [List.dropWhile_cons_of_pos hslash, List.dropWhile_cons_of_pos hslash,
        List.dropWhile_cons_of_neg (by simp [hc])]
      rfl

theorem readWeb_of_authority {scheme authority : List Char} (hauthority : AuthorityText authority)
    (hne : authority ≠ []) (rest : List Char) (ends : Bool) :
    readWeb scheme ⟨"//".toList ++ authority ++ '/' :: rest, ends⟩ =
      (Authority.read scheme authority false).map fun (a, more) =>
        (some a, .ofText isAnySlash (more ++ '/' :: rest)) := by
  have hall : ∀ c ∈ authority, (!isAnySlash c) = true := by
    intro c hc
    rw [hauthority.not_slash c hc]
    rfl
  have hstop : ∀ c ∈ ('/' :: rest).head?, (!isAnySlash c) = false := by
    rintro _ ⟨⟩
    rfl
  have htake : (authority ++ '/' :: rest).takeWhile (!isAnySlash ·) = authority :=
    Text.takeWhile_append_stop hall hstop
  have hdrop : (authority ++ '/' :: rest).dropWhile (!isAnySlash ·) = '/' :: rest :=
    Text.dropWhile_append_stop hall hstop
  -- A slash follows, so that the authority is not the end of the URL.
  have hends : (ends && ('/' :: rest).isEmpty) = false := by simp
  simp only [readWeb, readAuthority, dropWhile_slashes hauthority hne, htake, hdrop, hends]
  cases Authority.read scheme authority false <;> rfl

theorem clean_of_authority {scheme authority : List Char} (hscheme : IsWeb scheme)
    (hauthority : AuthorityText authority) (z : List Char) :
    clean (scheme ++ "://".toList ++ authority ++ '/' :: z) =
      scheme ++ ':' :: ("//".toList ++ authority ++ '/' :: cleanEnd z) := by
  have hkept : ∀ c ∈ scheme ++ "://".toList ++ authority ++ ['/'], 0x20 < c.toNat := by
    have hfront : ∀ c ∈ scheme ++ "://".toList, 0x20 < c.toNat := by
      obtain rfl | rfl := hscheme <;> exact Text.forall_of_all (by decide)
    rw [List.forall_mem_append, List.forall_mem_append]
    exact ⟨⟨hfront, fun c hc => (isAuthorityChar_iff.mp (hauthority c hc)).1⟩,
      Text.forall_of_all (by decide)⟩
  have hend := cleanEnd_append hkept z
  have hhead (s : List Char) : clean (scheme ++ s) = cleanEnd (scheme ++ s) := by
    obtain rfl | rfl := hscheme <;> exact clean_of_head (by decide) _
  simp only [List.append_assoc, List.singleton_append] at hend ⊢
  rw [hhead, hend]
  rfl

theorem withTail_slash (scheme : List Char) (read : Authority × List Char) (z : List Char) :
    withTail scheme read ('/' :: z) =
      ⟨scheme, some read.1,
        .ofText isAnySlash (read.2 ++ '/' :: (cut '?' (cut '#' (cleanEnd z)).1).1),
        (cut '?' (cut '#' (cleanEnd z)).1).2.map (percentEncode (escapedInQuery true)),
        (cut '#' (cleanEnd z)).2.map (percentEncode escapedInFragment)⟩ := by
  have hcut (mark : Char) (hmark : mark ∉ ['/']) (s : List Char) :
      cut mark ('/' :: s) = ('/' :: (cut mark s).1, (cut mark s).2) := cut_append hmark s
  simp only [withTail, cleanEnd_cons (show 0x20 < '/'.toNat by decide), hcut '#' (by decide),
    hcut '?' (by decide)]

/-- A text that begins with an authority and a slash is read by its authority. -/
theorem ofChars_of_authority {scheme authority : List Char} (hscheme : IsWeb scheme)
    (hauthority : AuthorityText authority) (hne : authority ≠ []) (z : List Char) :
    ofChars (scheme ++ "://".toList ++ authority ++ '/' :: z) =
      (Authority.read scheme authority false).map (withTail scheme · ('/' :: z)) := by
  -- Neither mark is in front of the path, so that both cuts fall behind it.
  have hcut (mark : Char) (hslash : mark ∉ "///".toList) (hmark : mark ∉ authority)
      (s : List Char) : cut mark ("//".toList ++ authority ++ '/' :: s) =
        ("//".toList ++ authority ++ '/' :: (cut mark s).1, (cut mark s).2) := by
    have hfront : mark ∉ "//".toList ++ authority ++ ['/'] := by
      simpa [hmark] using hslash
    simpa using cut_append hfront s
  have hhash : '#' ∉ authority := fun h => absurd (hauthority _ h) (by decide)
  have hquestion : '?' ∉ authority := fun h => absurd (hauthority _ h) (by decide)
  rw [ofChars, clean_of_authority hscheme hauthority, hscheme.cutScheme]
  simp only [hcut '#' (by decide) hhash, hcut '?' (by decide) hquestion, hscheme.readHierarchy,
    readWeb_of_authority hauthority hne, hscheme.isSpecial, withTail_slash]
  cases Authority.read scheme authority false <;> rfl

end AppAdmin.Url
