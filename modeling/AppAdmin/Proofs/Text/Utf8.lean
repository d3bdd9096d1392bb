import AppAdmin.Text.Utf8

/-!
UTF-8 there and back: the machine takes the bytes of a character for exactly that character, so the
bytes of a text are read as that text. No other bytes are, and where some are ill-formed the lossy reading
still leaves something to see.
-/

namespace AppAdmin.Text.Utf8

theorem toNat_ofNat {k : Nat} (h : k < 256) : (UInt8.ofNat k).toNat = k := by
  rw [UInt8.toNat_ofNat']
  exact Nat.mod_eq_of_lt h

/-! ### Leading bytes -/

theorem first_two {a : Nat} (h₁ : 2 ≤ a) (h₂ : a < 32) :
    first (0xC0 + a) = ([], .more 1 a 0x80 0xBF) := by
  have all : ∀ a ∈ List.range 32, 2 ≤ a → first (0xC0 + a) = ([], .more 1 a 0x80 0xBF) := by
    decide
  exact all a (List.mem_range.mpr h₂) h₁

theorem first_three {a : Nat} (h : a < 16) : first (0xE0 + a) =
    ([], .more 2 a (if a = 0 then 0xA0 else 0x80) (if a = 0xD then 0x9F else 0xBF)) := by
  have all : ∀ a ∈ List.range 16, first (0xE0 + a) =
      ([], .more 2 a (if a = 0 then 0xA0 else 0x80) (if a = 0xD then 0x9F else 0xBF)) := by
    decide
  exact all a (List.mem_range.mpr h)

theorem first_four {a : Nat} (h : a < 5) : first (0xF0 + a) =
    ([], .more 3 a (if a = 0 then 0x90 else 0x80) (if a = 4 then 0x8F else 0xBF)) := by
  have all : ∀ a ∈ List.range 5, first (0xF0 + a) =
      ([], .more 3 a (if a = 0 then 0x90 else 0x80) (if a = 4 then 0x8F else 0xBF)) := by
    decide
  exact all a (List.mem_range.mpr h)

/-! ### Whole characters -/

theorem piecesFrom_lead {k : Nat} {state : Awaiting} (hk : k < 256) (h : first k = ([], state))
    (acc : List (Option Char)) (rest : Bytes) :
    piecesFrom .start acc (UInt8.ofNat k :: rest) = piecesFrom state acc rest := by
  simp [piecesFrom, feed, toNat_ofNat hk, h]

theorem piecesFrom_more {left value low high k : Nat} (hk : k < 64) (hlow : low ≤ 0x80 + k)
    (hhigh : 0x80 + k ≤ high) (acc : List (Option Char)) (rest : Bytes) :
    piecesFrom (.more (left + 2) value low high) acc (UInt8.ofNat (0x80 + k) :: rest) =
      piecesFrom (.more (left + 1) (value * 64 + k) 0x80 0xBF) acc rest := by
  have hfeed : feed (.more (left + 2) value low high) (0x80 + k) =
      ([], .more (left + 1) (value * 64 + k) 0x80 0xBF) := by
    simp [feed, hlow, hhigh]
  rw [piecesFrom, toNat_ofNat (by omega), hfeed]
  rfl

theorem piecesFrom_last {value low high k : Nat} (hk : k < 64) (hlow : low ≤ 0x80 + k)
    (hhigh : 0x80 + k ≤ high) (acc : List (Option Char)) (rest : Bytes) :
    piecesFrom (.more 1 value low high) acc (UInt8.ofNat (0x80 + k) :: rest) =
      piecesFrom .start (some (Char.ofNat (value * 64 + k)) :: acc) rest := by
  have hfeed : feed (.more 1 value low high) (0x80 + k) =
      ([some (Char.ofNat (value * 64 + k))], .start) := by
    simp [feed, hlow, hhigh]
  rw [piecesFrom, toNat_ofNat (by omega), hfeed]
  rfl

theorem toNat_bounds (c : Char) : c.toNat < 0xD800 ∨ 0xE000 ≤ c.toNat ∧ c.toNat < 0x110000 := by
  have h := c.valid
  simp only [UInt32.isValidChar, Nat.isValidChar] at h
  rw [Char.toNat]
  omega

/-- The machine takes the bytes of a character for that character. -/
theorem piecesFrom_encodeChar (c : Char) (acc : List (Option Char)) (rest : Bytes) :
    piecesFrom .start acc (encodeChar c ++ rest) = piecesFrom .start (some c :: acc) rest := by
  have hc := toNat_bounds c
  have hchar := Char.ofNat_toNat c
  rw [encodeChar]
  generalize c.toNat = n at hc hchar
  by_cases h₁ : n < 0x80
  · have hfirst : first n = ([some (Char.ofNat n)], .start) := if_pos h₁
    simp [h₁, piecesFrom, feed, toNat_ofNat (show n < 256 by omega), hfirst, hchar]
  by_cases h₂ : n < 0x800
  · rw [if_neg h₁, if_pos h₂]
    simp only [List.cons_append, List.nil_append]
    rw [piecesFrom_lead (by omega) (first_two (by omega) (by omega)),
      piecesFrom_last (by omega) (by omega) (by omega),
      show n / 64 * 64 + n % 64 = n by omega, hchar]
  by_cases h₃ : n < 0x10000
  · rw [if_neg h₁, if_neg h₂, if_pos h₃]
    simp only [List.cons_append, List.nil_append]
    rw [piecesFrom_lead (by omega) (first_three (by omega)),
      piecesFrom_more (by omega) (by split <;> omega) (by split <;> omega),
      piecesFrom_last (by omega) (by omega) (by omega),
      show (n / 4096 * 64 + n / 64 % 64) * 64 + n % 64 = n by omega, hchar]
  · rw [if_neg h₁, if_neg h₂, if_neg h₃]
    simp only [List.cons_append, List.nil_append]
    rw [piecesFrom_lead (by omega) (first_four (by omega)),
      piecesFrom_more (by omega) (by split <;> omega) (by split <;> omega),
      piecesFrom_more (by omega) (by omega) (by omega),
      piecesFrom_last (by omega) (by omega) (by omega),
      show ((n / 262144 * 64 + n / 4096 % 64) * 64 + n / 64 % 64) * 64 + n % 64 = n by omega,
      hchar]

theorem piecesFrom_flatMap_encodeChar (s : List Char) (acc : List (Option Char)) (rest : Bytes) :
    piecesFrom .start acc (s.flatMap encodeChar ++ rest) =
      piecesFrom .start ((s.map some).reverse ++ acc) rest := by
  induction s generalizing acc with
  | nil => rfl
  | cons c s ih =>
      rw [List.flatMap_cons, List.append_assoc, piecesFrom_encodeChar, ih]
      simp

theorem pieces_encode (s : String) : pieces (encode s) = s.toList.map some := by
  have h := piecesFrom_flatMap_encodeChar s.toList [] []
  rw [List.append_nil] at h
  rw [pieces, encode, h, piecesFrom]
  simp

/-- What is written is read back. -/
theorem decode?_encode (s : String) : decode? (encode s) = some s := by
  have h : (s.toList.map some).mapM id = some s.toList := by
    induction s.toList with
    | nil => rfl
    | cons c s ih => simp [List.mapM_cons, ih]
  rw [decode?, pieces_encode, h, Option.map_some, String.ofList_toList]

theorem decodeLossy_encode (s : String) : decodeLossy (encode s) = s := by
  rw [decodeLossy, pieces_encode, List.map_map]
  have hid : (fun piece : Option Char => piece.getD '\uFFFD') ∘ some = id := rfl
  rw [hid, List.map_id, String.ofList_toList]

/-! ### Bytes of a text -/

/-- The bytes of a text. -/
def octets (s : List Char) : Bytes := s.flatMap encodeChar

theorem octets_cons (c : Char) (s : List Char) :
    octets (c :: s) = encodeChar c ++ octets s :=
  List.flatMap_cons

theorem octets_append (s t : List Char) : octets (s ++ t) = octets s ++ octets t :=
  List.flatMap_append

theorem encodeChar_ne_nil (c : Char) : encodeChar c ≠ [] := by
  simp only [encodeChar]
  split
  · simp
  split
  · simp
  split <;> simp

theorem encodeChar_pos (c : Char) : 0 < (encodeChar c).length :=
  List.length_pos_iff.mpr (encodeChar_ne_nil c)

theorem encodeChar_of_lt {c : Char} (h : c.toNat < 0x80) :
    encodeChar c = [UInt8.ofNat c.toNat] := by
  simp [encodeChar, h]

theorem le_of_mem_encodeChar {c : Char} (h : 0x80 ≤ c.toNat) :
    ∀ b ∈ encodeChar c, 0x80 ≤ b.toNat := by
  have hbound := toNat_bounds c
  intro b hb
  simp only [encodeChar, if_neg (show ¬c.toNat < 0x80 by omega)] at hb
  split at hb
  · simp only [List.mem_cons, List.not_mem_nil, or_false] at hb
    obtain rfl | rfl := hb <;> rw [toNat_ofNat (by omega)] <;> omega
  split at hb
  · simp only [List.mem_cons, List.not_mem_nil, or_false] at hb
    obtain rfl | rfl | rfl := hb <;> rw [toNat_ofNat (by omega)] <;> omega
  · simp only [List.mem_cons, List.not_mem_nil, or_false] at hb
    obtain rfl | rfl | rfl | rfl := hb <;> rw [toNat_ofNat (by omega)] <;> omega

/-- A byte of ASCII belongs to its own character only. -/
theorem notMem_encodeChar {c d : Char} (hd : d.toNat < 0x80) (h : c ≠ d) :
    UInt8.ofNat d.toNat ∉ encodeChar c := by
  intro hmem
  by_cases hc : c.toNat < 0x80
  · rw [encodeChar_of_lt hc, List.mem_singleton] at hmem
    have hvalue := congrArg UInt8.toNat hmem
    rw [toNat_ofNat (by omega), toNat_ofNat (by omega)] at hvalue
    exact h (Char.toNat_inj.mp hvalue.symm)
  · have hlarge := le_of_mem_encodeChar (Nat.le_of_not_lt hc) _ hmem
    rw [toNat_ofNat (by omega)] at hlarge
    exact Nat.not_lt.mpr hlarge hd

/-- A character beyond ASCII begins with a byte beyond it. -/
theorem exists_encodeChar_eq_cons {c : Char} (h : ¬c.toNat < 128) :
    ∃ b bytes, encodeChar c = b :: bytes ∧ ¬b.toNat < 128 := by
  obtain ⟨b, bytes, hbytes⟩ := List.exists_cons_of_ne_nil (encodeChar_ne_nil c)
  refine ⟨b, bytes, hbytes, Nat.not_lt.mpr (le_of_mem_encodeChar (Nat.le_of_not_lt h) b ?_)⟩
  rw [hbytes]
  exact List.mem_cons_self

/-- An ASCII byte in front of a text is a character of its own. -/
theorem exists_of_octets_eq_cons {s : List Char} {b : UInt8} {bytes : Bytes} (hb : b.toNat < 128)
    (h : octets s = b :: bytes) : ∃ rest, s = Char.ofNat b.toNat :: rest ∧ octets rest = bytes := by
  cases s with
  | nil => cases h
  | cons c s =>
      rw [octets_cons] at h
      by_cases hascii : c.toNat < 128
      · rw [encodeChar_of_lt hascii] at h
        obtain ⟨rfl, hrest⟩ := List.cons.inj h
        rw [toNat_ofNat (by omega), Char.ofNat_toNat]
        exact ⟨s, rfl, hrest⟩
      · obtain ⟨first, more, hchar, hfirst⟩ := exists_encodeChar_eq_cons hascii
        rw [hchar] at h
        obtain ⟨rfl, -⟩ := List.cons.inj h
        exact absurd hb hfirst

theorem exists_of_octets_eq_append {s : List Char} {word bytes : Bytes}
    (hword : ∀ b ∈ word, b.toNat < 128) (h : octets s = word ++ bytes) :
    ∃ rest, s = word.map (fun b => Char.ofNat b.toNat) ++ rest ∧ octets rest = bytes := by
  induction word generalizing s with
  | nil => exact ⟨s, rfl, h⟩
  | cons b word ih =>
      obtain ⟨hb, hword⟩ := List.forall_mem_cons.mp hword
      obtain ⟨rest, rfl, hrest⟩ := exists_of_octets_eq_cons hb h
      obtain ⟨rest', rfl, hrest'⟩ := ih hword hrest
      exact ⟨rest', rfl, hrest'⟩

/-! ### Bytes without an ill-formed piece -/

theorem mem_piecesFrom_of_mem {state : Awaiting} {acc : List (Option Char)} {piece : Option Char}
    (h : piece ∈ acc) (bytes : Bytes) : piece ∈ piecesFrom state acc bytes := by
  induction bytes generalizing state acc with
  | nil =>
      cases state with
      | start => exact List.mem_reverse.mpr h
      | more => exact List.mem_reverse.mpr (List.mem_cons_of_mem _ h)
  | cons b rest ih =>
      rw [piecesFrom]
      exact ih (List.mem_append_right _ h)

/-- A character that has begun goes on with a byte of the range that is awaited. -/
theorem exists_of_more {left value low high : Nat} {acc : List (Option Char)} {bytes : Bytes}
    (hlow : 0x80 ≤ low) (hhigh : high ≤ 0xBF)
    (h : none ∉ piecesFrom (.more left value low high) acc bytes) :
    ∃ k rest, k < 64 ∧ low ≤ 0x80 + k ∧ 0x80 + k ≤ high ∧ bytes = UInt8.ofNat (0x80 + k) :: rest := by
  cases bytes with
  | nil => exact absurd (List.mem_reverse.mpr List.mem_cons_self) h
  | cons b rest =>
      by_cases hb : low ≤ b.toNat ∧ b.toNat ≤ high
      · have hbyte : 0x80 + (b.toNat - 0x80) = b.toNat := by omega
        refine ⟨b.toNat - 0x80, rest, by omega, by omega, by omega, ?_⟩
        rw [hbyte, UInt8.ofNat_toNat]
      · rw [piecesFrom, feed, if_neg hb] at h
        refine absurd (mem_piecesFrom_of_mem ?_ rest) h
        simp

theorem toNat_ofNat_of_valid {n : Nat} (h : n < 0xD800 ∨ 0xE000 ≤ n ∧ n < 0x110000) :
    (Char.ofNat n).toNat = n := by
  have hvalid : n.isValidChar := by
    unfold Nat.isValidChar
    omega
  rw [Char.ofNat, dif_pos hvalid]
  rfl

/-- Bytes without an ill-formed piece begin with the bytes of a character. -/
theorem exists_encodeChar_append {acc : List (Option Char)} {b : UInt8} {bytes : Bytes}
    (h : none ∉ piecesFrom .start acc (b :: bytes)) :
    ∃ c rest, b :: bytes = encodeChar c ++ rest := by
  have hbyte : b.toNat < 256 := b.toNat_lt
  obtain ⟨n, hn, rfl⟩ : ∃ n < 256, b = UInt8.ofNat n := ⟨b.toNat, hbyte, UInt8.ofNat_toNat.symm⟩
  have hrefuse : first n = ([none], .start) → False := by
    intro hfirst
    rw [piecesFrom, toNat_ofNat hn, feed, hfirst] at h
    exact h (mem_piecesFrom_of_mem List.mem_cons_self bytes)
  by_cases h₁ : n < 0x80
  · refine ⟨Char.ofNat n, bytes, ?_⟩
    have hchar := toNat_ofNat_of_valid (n := n) (Or.inl (by omega))
    rw [encodeChar_of_lt (by omega), hchar]
    rfl
  by_cases h₂ : n < 0xC2
  · exact (hrefuse (by rw [first, if_neg h₁, if_pos h₂])).elim
  by_cases h₃ : n < 0xE0
  · obtain ⟨a, rfl⟩ : ∃ a, n = 0xC0 + a := ⟨n - 0xC0, by omega⟩
    rw [piecesFrom_lead hn (first_two (by omega) (by omega))] at h
    obtain ⟨k, rest, hk, -, -, rfl⟩ := exists_of_more (by omega) (by omega) h
    have hchar := toNat_ofNat_of_valid (n := a * 64 + k) (Or.inl (by omega))
    refine ⟨Char.ofNat (a * 64 + k), rest, ?_⟩
    rw [encodeChar, hchar, if_neg (by omega), if_pos (by omega),
      show (a * 64 + k) / 64 = a by omega, show (a * 64 + k) % 64 = k by omega]
    rfl
  by_cases h₄ : n < 0xF0
  · obtain ⟨a, rfl⟩ : ∃ a, n = 0xE0 + a := ⟨n - 0xE0, by omega⟩
    rw [piecesFrom_lead hn (first_three (by omega))] at h
    obtain ⟨k, rest, hk, hlow, hhigh, rfl⟩ :=
      exists_of_more (by split <;> omega) (by split <;> omega) h
    rw [piecesFrom_more hk hlow hhigh] at h
    obtain ⟨l, rest, hl, -, -, rfl⟩ := exists_of_more (by omega) (by omega) h
    have hchar := toNat_ofNat_of_valid (n := (a * 64 + k) * 64 + l) (by split at hhigh <;> omega)
    have hlarge : 0x800 ≤ (a * 64 + k) * 64 + l := by split at hlow <;> omega
    refine ⟨Char.ofNat ((a * 64 + k) * 64 + l), rest, ?_⟩
    rw [encodeChar, hchar, if_neg (by omega), if_neg (by omega), if_pos (by omega),
      show ((a * 64 + k) * 64 + l) / 4096 = a by omega,
      show ((a * 64 + k) * 64 + l) / 64 % 64 = k by omega,
      show ((a * 64 + k) * 64 + l) % 64 = l by omega]
    rfl
  by_cases h₅ : n < 0xF5
  · obtain ⟨a, rfl⟩ : ∃ a, n = 0xF0 + a := ⟨n - 0xF0, by omega⟩
    rw [piecesFrom_lead hn (first_four (by omega))] at h
    obtain ⟨k, rest, hk, hlow, hhigh, rfl⟩ :=
      exists_of_more (by split <;> omega) (by split <;> omega) h
    rw [piecesFrom_more hk hlow hhigh] at h
    obtain ⟨l, rest, hl, hlow', hhigh', rfl⟩ := exists_of_more (by omega) (by omega) h
    rw [piecesFrom_more hl hlow' hhigh'] at h
    obtain ⟨m, rest, hm, -, -, rfl⟩ := exists_of_more (by omega) (by omega) h
    have hlarge : 0x10000 ≤ ((a * 64 + k) * 64 + l) * 64 + m := by split at hlow <;> omega
    have hsmall : ((a * 64 + k) * 64 + l) * 64 + m < 0x110000 := by split at hhigh <;> omega
    have hchar := toNat_ofNat_of_valid (n := ((a * 64 + k) * 64 + l) * 64 + m)
      (Or.inr ⟨by omega, hsmall⟩)
    refine ⟨Char.ofNat (((a * 64 + k) * 64 + l) * 64 + m), rest, ?_⟩
    rw [encodeChar, hchar, if_neg (by omega), if_neg (by omega), if_neg (by omega),
      show (((a * 64 + k) * 64 + l) * 64 + m) / 262144 = a by omega,
      show (((a * 64 + k) * 64 + l) * 64 + m) / 4096 % 64 = k by omega,
      show (((a * 64 + k) * 64 + l) * 64 + m) / 64 % 64 = l by omega,
      show (((a * 64 + k) * 64 + l) * 64 + m) % 64 = m by omega]
    rfl
  · refine (hrefuse ?_).elim
    rw [first, if_neg h₁, if_neg h₂, if_neg h₃, if_neg (by omega), if_neg (by omega), if_neg h₄,
      if_neg (by omega), if_neg (by omega), if_neg (by omega)]

theorem exists_octets {acc : List (Option Char)} {bytes : Bytes}
    (h : none ∉ piecesFrom .start acc bytes) : ∃ s, bytes = octets s := by
  match bytes with
  | [] => exact ⟨[], rfl⟩
  | b :: bytes =>
      obtain ⟨c, rest, heq⟩ := exists_encodeChar_append h
      have hshort : rest.length < (b :: bytes).length := by
        have hpos := encodeChar_pos c
        rw [heq, List.length_append]
        omega
      rw [heq, piecesFrom_encodeChar] at h
      obtain ⟨s, rfl⟩ := exists_octets h
      exact ⟨c :: s, heq⟩
termination_by bytes.length
decreasing_by exact hshort

theorem not_mem_of_mapM_id {pieces : List (Option Char)} {s : List Char}
    (h : pieces.mapM id = some s) : none ∉ pieces := by
  induction pieces generalizing s with
  | nil => exact List.not_mem_nil
  | cons piece pieces ih =>
      rw [List.mapM_cons] at h
      obtain ⟨c, hc, h⟩ := Option.bind_eq_some_iff.mp h
      obtain ⟨rest, hrest, -⟩ := Option.bind_eq_some_iff.mp h
      rw [List.mem_cons, not_or]
      refine ⟨fun hnone => ?_, ih hrest⟩
      rw [id, ← hnone] at hc
      cases hc

/-- Only the bytes of a text are read as it. -/
theorem decode?_eq_some_iff {bytes : Bytes} {s : String} :
    decode? bytes = some s ↔ bytes = encode s := by
  constructor
  · intro h
    obtain ⟨chars, hchars, -⟩ := Option.map_eq_some_iff.mp h
    obtain ⟨t, rfl⟩ := exists_octets (not_mem_of_mapM_id hchars)
    have ht : octets t = encode (String.ofList t) := by
      rw [encode, String.toList_ofList, octets]
    rw [ht, decode?_encode] at h
    rw [ht, Option.some.inj h]
  · rintro rfl
    exact decode?_encode s

/-! ### Nothing is lost -/

/-- The reader finishes a piece with each byte or goes on waiting. -/
theorem feed_ne (state : Awaiting) (b : Nat) : (feed state b).1 ≠ [] ∨ (feed state b).2 ≠ .start := by
  have hfirst : (first b).1 ≠ [] ∨ (first b).2 ≠ .start := by
    simp only [first, apply_ite Prod.fst, apply_ite Prod.snd]
    grind
  cases state with
  | start => exact hfirst
  | more left value low high =>
      rw [feed]
      split
      · dsimp only
        split
        · exact Or.inl (List.cons_ne_nil _ _)
        · exact Or.inr nofun
      · exact Or.inl (List.cons_ne_nil _ _)

theorem piecesFrom_ne_nil {state : Awaiting} {acc : List (Option Char)}
    (h : acc ≠ [] ∨ state ≠ .start) (bytes : Bytes) : piecesFrom state acc bytes ≠ [] := by
  induction bytes generalizing state acc with
  | nil =>
      cases state with
      | start => exact List.reverse_ne_nil_iff.mpr (h.resolve_right fun hne => hne rfl)
      | more => exact List.reverse_ne_nil_iff.mpr (List.cons_ne_nil _ _)
  | cons b rest ih =>
      rw [piecesFrom]
      apply ih
      apply (feed_ne state b.toNat).imp_left
      intro hpieces
      exact List.append_ne_nil_of_left_ne_nil (List.reverse_ne_nil_iff.mpr hpieces) acc

theorem decodeLossy_eq_empty_iff {bytes : Bytes} : decodeLossy bytes = "" ↔ bytes = [] := by
  constructor
  · intro h
    cases bytes with
    | nil => rfl
    | cons b rest =>
        have hpieces : pieces (b :: rest) ≠ [] := by
          rw [pieces, piecesFrom]
          apply piecesFrom_ne_nil
          apply (feed_ne .start b.toNat).imp_left
          intro hne
          exact List.append_ne_nil_of_left_ne_nil (List.reverse_ne_nil_iff.mpr hne) []
        have hnil := congrArg String.toList h
        rw [decodeLossy, String.toList_ofList] at hnil
        exact absurd (List.map_eq_nil_iff.mp hnil) hpieces
  · rintro rfl
    rfl

end AppAdmin.Text.Utf8
