import AppAdmin.Proofs.Text.Chars
import AppAdmin.Url.Host

/-!
The text of a host that can be looked up. However the host was spelled, its text has no character at
which the authority of a URL would end, and none that is dropped when a URL is read.
-/

namespace AppAdmin.Url

/-- The pieces of a text have the characters that are not marks, and no others. -/
theorem mem_pieces {isMark : Char → Bool} {s piece : List Char} {c : Char}
    (hpiece : piece ∈ pieces isMark s) (hc : c ∈ piece) : c ∈ s ∧ isMark c = false := by
  induction s generalizing piece with
  | nil =>
      rw [pieces, List.mem_singleton] at hpiece
      rw [hpiece] at hc
      exact absurd hc List.not_mem_nil
  | cons a rest ih =>
      have hrest {p : List Char} (hp : p ∈ pieces isMark rest) (hc : c ∈ p) :
          c ∈ a :: rest ∧ isMark c = false := by
        obtain ⟨hmem, hmark⟩ := ih hp hc
        exact ⟨List.mem_cons_of_mem a hmem, hmark⟩
      rw [pieces] at hpiece
      split at hpiece
      · obtain rfl | hpiece := List.mem_cons.mp hpiece
        · exact absurd hc List.not_mem_nil
        · exact hrest hpiece hc
      next ha =>
          rw [Bool.not_eq_true] at ha
          -- The character joins the first of the pieces behind it.
          cases hpieces : pieces isMark rest with
          | nil => exact absurd hpieces (pieces_ne_nil isMark rest)
          | cons first more =>
              rw [hpieces] at hpiece hrest
              obtain rfl | hpiece := List.mem_cons.mp hpiece
              · obtain rfl | hc := List.mem_cons.mp hc
                · exact ⟨List.mem_cons_self, ha⟩
                · exact hrest List.mem_cons_self hc
              · exact hrest (List.mem_cons_of_mem first hpiece) hc

/-- The characters that an authority may have: none that ends it, and none that is dropped. -/
def isAuthorityChar (c : Char) : Bool := 0x20 < c.toNat && !"/?#\\".toList.contains c

/-- A text of such characters. -/
def AuthorityText (s : List Char) : Prop := ∀ c ∈ s, isAuthorityChar c = true

theorem isAuthorityChar_digitChar {d : Nat} (h : d < 16) :
    isAuthorityChar (Nat.digitChar d) = true := by
  have all : ∀ d ∈ List.range 16, isAuthorityChar (Nat.digitChar d) = true := by decide
  exact all d (List.mem_range.mpr h)

namespace AuthorityText

theorem nil : AuthorityText [] := by
  unfold AuthorityText; simp

theorem cons {c : Char} {s : List Char} (hc : isAuthorityChar c = true) (hs : AuthorityText s) :
    AuthorityText (c :: s) := List.forall_mem_cons.mpr ⟨hc, hs⟩

theorem append {s t : List Char} (hs : AuthorityText s) (ht : AuthorityText t) :
    AuthorityText (s ++ t) := List.forall_mem_append.mpr ⟨hs, ht⟩

theorem reverse {s : List Char} (h : AuthorityText s) : AuthorityText s.reverse :=
  fun c hc => h c (List.mem_reverse.mp hc)

theorem joinPieces {mark : Char} (hmark : isAuthorityChar mark = true) {list : List (List Char)}
    (h : ∀ piece ∈ list, AuthorityText piece) : AuthorityText (joinPieces mark list) := by
  induction list using Url.joinPieces.induct with
  | case1 => exact nil
  | case2 piece => exact h piece List.mem_cons_self
  | case3 piece rest hrest ih =>
      rw [Url.joinPieces]
      · refine append (h piece List.mem_cons_self) (cons hmark (ih ?_))
        exact fun p hp => h p (List.mem_cons_of_mem piece hp)
      · exact hrest

theorem of_mem_pieces {isMark : Char → Bool} {s : List Char} (h : AuthorityText s) :
    ∀ piece ∈ pieces isMark s, AuthorityText piece :=
  fun _ hpiece c hc => h c (mem_pieces hpiece hc).1

theorem toDigits {base : Nat} (hlow : 1 < base) (hhigh : base ≤ 16) (n : Nat) :
    AuthorityText (Nat.toDigits base n) := by
  induction n using Nat.strongRecOn with
  | ind n ih =>
      have hlast : n % base < base := Nat.mod_lt n (by omega)
      rw [Nat.toDigits_eq_if hlow]
      split
      · exact cons (isAuthorityChar_digitChar (by omega)) nil
      · refine append (ih (n / base) ?_) (cons (isAuthorityChar_digitChar (by omega)) nil)
        exact Nat.div_lt_self (by omega) hlow

end AuthorityText

/-! ### Addresses -/

theorem Ipv4.authorityText_text (a : Ipv4) : AuthorityText a.text := by
  apply AuthorityText.joinPieces (by decide)
  simp [AuthorityText.toDigits]

theorem Ipv6.authorityText_groupsText (groups : List UInt16) :
    AuthorityText (groupsText groups) := by
  apply AuthorityText.joinPieces (by decide)
  simp [AuthorityText.toDigits]

theorem Ipv6.authorityText_text (a : Ipv6) : AuthorityText a.text := by
  unfold Ipv6.text
  split
  · exact authorityText_groupsText _
  next i n _ =>
      have hgap : AuthorityText [':', ':'] := Text.forall_of_all (by decide)
      exact ((authorityText_groupsText _).append hgap).append (authorityText_groupsText _)

theorem Ipv4.text_ne_nil (a : Ipv4) : a.text ≠ [] := by
  simp [Ipv4.text, joinPieces]

/-! ### Names -/

namespace Idna

namespace Punycode

theorem threshold_le (place bias : Nat) : threshold place bias ≤ 26 := by
  unfold threshold; omega

theorem isAuthorityChar_digit {d : Nat} (h : d < 36) : isAuthorityChar (digit d) = true := by
  have all : ∀ d ∈ List.range 36, isAuthorityChar (digit d) = true := by decide
  exact all d (List.mem_range.mpr h)

theorem authorityText_number (q place bias : Nat) : AuthorityText (number q place bias) := by
  -- A threshold of 26 at most keeps all digits below 36.
  have ht (place : Nat) : threshold place bias ≤ 26 := threshold_le place bias
  induction q, place using number.induct bias with
  | case1 q place t h =>
      rw [number, if_pos h]
      refine AuthorityText.nil.cons (isAuthorityChar_digit ?_)
      exact Nat.lt_of_lt_of_le h (Nat.le_trans (ht place) (by decide))
  | case2 q place t h ih =>
      have hrest : (q - t) % (36 - t) < 36 - t := Nat.mod_lt _ (Nat.sub_pos_of_lt (by grind))
      rw [number, if_neg h]
      refine ih.cons (isAuthorityChar_digit ?_)
      exact Nat.add_lt_of_lt_sub' hrest

/-- Placing a character adds the digits of one number. -/
theorem Writing.place_digits {n first : Nat} {w : Writing} (h : AuthorityText w.digits)
    (s : List Nat) : AuthorityText (w.place n first s).digits := by
  unfold Writing.place
  induction s generalizing w with
  | nil => exact h
  | cons c s ih =>
      rw [List.foldl_cons]
      apply ih
      split
      · exact h
      split
      · exact (authorityText_number _ _ _).reverse.append h
      · exact h

theorem Writing.levels_digits {first : Nat} {s : List Nat} {n : Nat} {levels : List Nat}
    {w : Writing} (h : AuthorityText w.digits) :
    AuthorityText (w.levels first s n levels).digits := by
  induction levels generalizing n w with
  | nil => exact h
  | cons m rest ih =>
      rw [Writing.levels]
      apply ih
      exact place_digits (w := { w with delta := w.delta + (m - n) * (w.placed + 1) }) h s

theorem authorityText_encode {s : List Char} (h : AuthorityText s) :
    AuthorityText (encode s) := by
  have hplain : AuthorityText (s.filter (·.toNat < 0x80)) :=
    fun c hc => h c (List.mem_filter.mp hc).1
  have hmark : AuthorityText (if s.filter (·.toNat < 0x80) = [] then [] else ['-']) := by
    split <;> exact Text.forall_of_all (by decide)
  exact (hplain.append hmark).append (Writing.levels_digits .nil).reverse

end Punycode

theorem isAuthorityChar_of_not_forbidden {c : Char} (h : isForbidden c = false) :
    isAuthorityChar c = true := by
  simp [isForbidden] at h
  simp [isAuthorityChar, h]

theorem Label.authorityText_ascii {s : List Char} {label : Label} (hs : AuthorityText s)
    (h : Label.ofText? s = some label) : AuthorityText label.ascii := by
  have hmark : AuthorityText escapeMark := Text.forall_of_all (by decide)
  unfold Label.ofText? at h
  split at h
  · -- The label is in escaped form and stays as it is.
    dsimp only at h
    split at h
    · exact absurd h (by simp)
    obtain ⟨text, -, h⟩ := Option.bind_eq_some_iff.mp h
    split at h
    · cases h
      exact hs
    · exact absurd h (by simp)
  split at h
  · cases h
    exact hs
  split at h
  · cases h
    exact hmark.append (Punycode.authorityText_encode hs)
  · exact absurd h (by simp)

theorem exists_of_mem_mapM {α β : Type} {f : α → Option β} {xs : List α} {ys : List β}
    (h : xs.mapM f = some ys) {y : β} (hy : y ∈ ys) : ∃ x ∈ xs, f x = some y := by
  induction xs generalizing ys with
  | nil =>
      cases h
      exact absurd hy List.not_mem_nil
  | cons x xs ih =>
      rw [List.mapM_cons] at h
      obtain ⟨y', hx, h⟩ := Option.bind_eq_some_iff.mp h
      obtain ⟨ys', hxs, h⟩ := Option.bind_eq_some_iff.mp h
      cases h
      obtain rfl | hmem := List.mem_cons.mp hy
      · exact ⟨x, List.mem_cons_self, hx⟩
      · obtain ⟨x', hx', hread⟩ := ih hxs hmem
        exact ⟨x', List.mem_cons_of_mem x hx', hread⟩

theorem labels_authorityText {s : List Char} {labels : List Label} (h : labels? s = some labels) :
    ∀ label ∈ labels, AuthorityText label.ascii := by
  unfold labels? at h
  obtain ⟨mapped, -, h⟩ := Option.bind_eq_some_iff.mp h
  dsimp only at h
  split at h
  · exact absurd h (by simp)
  next hallowed =>
      have hcomposed : AuthorityText (compose mapped.flatten) := by
        intro c hc
        apply isAuthorityChar_of_not_forbidden
        simpa using fun hforbidden => hallowed (List.any_eq_true.mpr ⟨c, hc, hforbidden⟩)
      intro label hlabel
      obtain ⟨piece, hpiece, hread⟩ := exists_of_mem_mapM h hlabel
      exact Label.authorityText_ascii (hcomposed.of_mem_pieces piece hpiece) hread

theorem authorityText_toAscii {s ascii : List Char} (h : toAscii? s = some ascii) :
    AuthorityText ascii := by
  unfold toAscii? at h
  obtain ⟨labels, hlabels, h⟩ := Option.bind_eq_some_iff.mp h
  dsimp only at h
  split at h
  · exact absurd h (by simp)
  · cases h
    apply AuthorityText.joinPieces (by decide)
    simpa using labels_authorityText hlabels

end Idna

namespace Host

theorem authorityText_readBracketed {s : List Char} {host : Host} (h : readBracketed s = .ok host) :
    host.text ≠ [] ∧ AuthorityText host.text := by
  unfold readBracketed at h
  split at h
  · split at h
    next a _ =>
        cases h
        have hend : AuthorityText [']'] := AuthorityText.nil.cons (by decide)
        exact ⟨List.cons_ne_nil _ _, (a.authorityText_text.append hend).cons (by decide)⟩
    · exact absurd h (by simp)
  · exact absurd h (by simp)

theorem authorityText_ofAscii {s : List Char} {host : Host} (hs : AuthorityText s)
    (h : ofAscii s = .ok host) : host.text ≠ [] ∧ AuthorityText host.text := by
  unfold ofAscii at h
  split at h
  · exact absurd h (by simp)
  next hne =>
      split at h
      · split at h
        next a _ =>
            cases h
            exact ⟨a.text_ne_nil, a.authorityText_text⟩
        · exact absurd h (by simp)
      · cases h
        exact ⟨hne, hs⟩

theorem authorityText_readSpecial {s : List Char} {host : Host} (h : readSpecial s = .ok host) :
    host.text ≠ [] ∧ AuthorityText host.text := by
  unfold readSpecial at h
  split at h
  · exact absurd h (by simp)
  · exact authorityText_readBracketed h
  · dsimp only at h
    split at h
    next ascii hascii => exact authorityText_ofAscii (Idna.authorityText_toAscii hascii) h
    · exact absurd h (by simp)

end Host

end AppAdmin.Url
