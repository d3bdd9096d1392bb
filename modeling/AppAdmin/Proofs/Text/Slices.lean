import AppAdmin.Proofs.Except
import AppAdmin.Proofs.Text.Chars
import AppAdmin.Proofs.Text.Utf8
import AppAdmin.Text.Blank

/-!
Slices of a text that is kept as bytes. Offsets count bytes, and a slice can be taken only between offsets
at which a character begins or the text ends; any other slice is a fault. The offsets at which the
characters of a text are found are such offsets, and so are those at their ends.
-/

namespace AppAdmin.Text.Utf8

/-- A byte that goes on with a character. -/
def isContinuation (b : UInt8) : Bool := 0x80 ≤ b.toNat && b.toNat < 0xC0

/-- A text may be cut at an offset: at its ends, and in front of a byte that begins a character. -/
def isBoundary (s : Bytes) (i : Nat) : Bool :=
  i == 0 || i == s.length || s[i]?.any fun b => !isContinuation b

/-- The bytes from one offset to another, if a text may be cut there. -/
def slice? (s : Bytes) (first last : Nat) : Option Bytes :=
  if first ≤ last ∧ isBoundary s first ∧ isBoundary s last then some ((s.take last).drop first)
  else none

/-- A slice that cannot be taken: it is out of range, or cuts a character. -/
structure BadSlice where
  text : Bytes
  first : Nat
  last : Nat

/-- Takes a slice that is expected to be there. -/
def slice (s : Bytes) (first last : Nat) : Except BadSlice Bytes :=
  match slice? s first last with
  | some t => .ok t
  | none => .error ⟨s, first, last⟩

def splitAt (s : Bytes) (i : Nat) : Except BadSlice (Bytes × Bytes) := do
  return (← slice s 0 i, ← slice s i s.length)

/-- The characters of a text. -/
def chars (s : Bytes) : List Char := (decodeLossy s).toList

/-- Characters with the offsets at which they begin, the first at a given one. -/
def indicesFrom (i : Nat) : List Char → List (Nat × Char)
  | [] => []
  | c :: rest => (i, c) :: indicesFrom (i + (encodeChar c).length) rest

def charIndices (s : Bytes) : List (Nat × Char) := indicesFrom 0 (chars s)

/-- The offset of the first character of a sort. -/
def find? (p : Char → Bool) (s : Bytes) : Option Nat :=
  ((charIndices s).find? fun entry => p entry.2).map Prod.fst

/-- The offset behind the last character of a sort. -/
def findEnd? (p : Char → Bool) (s : Bytes) : Option Nat :=
  ((charIndices s).reverse.find? fun entry => p entry.2).map fun (i, c) =>
    i + (encodeChar c).length

/-- Drops the white space in front. -/
def trimStart (s : Bytes) : Except BadSlice Bytes :=
  slice s ((find? (!isBlank ·) s).getD s.length) s.length

/-- Drops the white space at both ends. -/
def trim (s : Bytes) : Except BadSlice Bytes := do
  let s ← trimStart s
  slice s 0 ((findEnd? (!isBlank ·) s).getD 0)

/-- What follows a mark in front. -/
def afterMark? (mark : Char) (s : Bytes) : Option Bytes :=
  if (encodeChar mark).isPrefixOf s then some (s.drop (encodeChar mark).length) else none

/-- The text with its ASCII capitals made small. -/
def loweredBytes (s : Bytes) : Bytes :=
  s.map fun b => if 0x41 ≤ b.toNat ∧ b.toNat ≤ 0x5A then b + 0x20 else b

/-! ### Any bytes -/

theorem eq_drop_of_slice? {s t : Bytes} {first last : Nat} (h : slice? s first last = some t) :
    t = (s.take last).drop first := by
  rw [slice?] at h
  split at h
  · exact (Option.some.inj h).symm
  · cases h

theorem le_of_isBoundary {s : Bytes} {i : Nat} (h : isBoundary s i) : i ≤ s.length := by
  simp only [isBoundary, Bool.or_eq_true, beq_iff_eq, Option.any_eq_true] at h
  obtain (rfl | rfl) | ⟨b, hb, -⟩ := h
  · exact Nat.zero_le _
  · exact Nat.le_refl _
  · exact Nat.le_of_lt (List.getElem?_eq_some_iff.mp hb).1

theorem le_of_slice? {s t : Bytes} {first last : Nat} (h : slice? s first last = some t) :
    last ≤ s.length := by
  rw [slice?] at h
  split at h
  next hcut => exact le_of_isBoundary hcut.2.2
  next => cases h

theorem slice_eq_ok_iff {s t : Bytes} {first last : Nat} :
    slice s first last = .ok t ↔ slice? s first last = some t := by
  rw [slice]
  cases slice? s first last <;> simp

/-- What is sliced up to the end is what is left behind the bytes before it. -/
theorem eq_append_of_slice {s t : Bytes} {i : Nat} (h : slice s i s.length = .ok t) :
    s = s.take i ++ t := by
  have ht := eq_drop_of_slice? (slice_eq_ok_iff.mp h)
  rw [List.take_length] at ht
  rw [ht, List.take_append_drop]

theorem eq_append_of_splitAt {s front behind : Bytes} {i : Nat}
    (h : splitAt s i = .ok (front, behind)) : s = front ++ behind := by
  obtain ⟨a, ha, h⟩ := exists_of_bind_eq_ok h
  obtain ⟨b, hb, h⟩ := exists_of_bind_eq_ok h
  cases h
  have hfront : front = s.take i := eq_drop_of_slice? (slice_eq_ok_iff.mp ha)
  rw [hfront]
  exact eq_append_of_slice hb

theorem eq_append_of_afterMark? {mark : Char} {s rest : Bytes} (h : afterMark? mark s = some rest) :
    s = encodeChar mark ++ rest := by
  rw [afterMark?] at h
  split at h
  next hmark =>
    obtain ⟨t, rfl⟩ := List.isPrefixOf_iff_prefix.mp hmark
    rw [List.drop_left, Option.some.injEq] at h
    rw [h]
  next => cases h

/-! ### Where a text may be cut -/

theorem exists_head_encodeChar (c : Char) :
    ∃ b rest, encodeChar c = b :: rest ∧ isContinuation b = false := by
  have hbound := toNat_bounds c
  have hlead {n : Nat} (hn : n < 256) (h : n < 0x80 ∨ 0xC0 ≤ n) :
      isContinuation (UInt8.ofNat n) = false := by
    rw [isContinuation, toNat_ofNat hn, Bool.and_eq_false_iff, decide_eq_false_iff_not,
      decide_eq_false_iff_not]
    omega
  simp only [encodeChar]
  split
  · exact ⟨_, _, rfl, hlead (by omega) (by omega)⟩
  split
  · exact ⟨_, _, rfl, hlead (by omega) (by omega)⟩
  split
  · exact ⟨_, _, rfl, hlead (by omega) (by omega)⟩
  · exact ⟨_, _, rfl, hlead (by omega) (by omega)⟩

theorem isBoundary_octets (s t : List Char) : isBoundary (octets (s ++ t)) (octets s).length := by
  rw [isBoundary, octets_append]
  cases t with
  | nil => simp [octets]
  | cons c t =>
      obtain ⟨b, rest, hc, hb⟩ := exists_head_encodeChar c
      simp [octets_cons, hc, hb]

theorem slice?_octets (s t u : List Char) :
    slice? (octets (s ++ (t ++ u))) (octets s).length (octets (s ++ t)).length
      = some (octets t) := by
  have hlast := isBoundary_octets (s ++ t) u
  rw [List.append_assoc] at hlast
  have hle : (octets s).length ≤ (octets (s ++ t)).length := by
    rw [octets_append, List.length_append]
    exact Nat.le_add_right _ _
  rw [slice?, if_pos ⟨hle, isBoundary_octets s (t ++ u), hlast⟩, ← List.append_assoc,
    octets_append (s ++ t), List.take_left, octets_append, List.drop_left]

theorem slice_octets (s t u : List Char) :
    slice (octets (s ++ (t ++ u))) (octets s).length (octets (s ++ t)).length
      = .ok (octets t) :=
  slice_eq_ok_iff.mpr (slice?_octets s t u)

/-- Behind whole characters a text can be cut. -/
theorem slice_octets_end (s t : List Char) :
    slice (octets (s ++ t)) (octets s).length (octets (s ++ t)).length = .ok (octets t) := by
  have h := slice_octets s t []
  rwa [List.append_nil] at h

theorem octets_concat (s : List Char) (c : Char) : octets (s ++ [c]) = octets s ++ encodeChar c := by
  rw [octets_append, octets_cons]
  exact congrArg (octets s ++ ·) (List.append_nil _)

theorem length_octets_concat (s : List Char) (c : Char) :
    (octets (s ++ [c])).length = (octets s).length + (encodeChar c).length := by
  rw [octets_concat, List.length_append]

/-- Behind a character that was found the text can be cut. -/
theorem slice_octets_behind (s : List Char) (c : Char) (t : List Char) :
    slice (octets (s ++ c :: t)) ((octets s).length + (encodeChar c).length)
      (octets (s ++ c :: t)).length = .ok (octets t) := by
  have h := slice_octets_end (s ++ [c]) t
  rwa [List.append_assoc, List.singleton_append, length_octets_concat] at h

theorem splitAt_octets (s t : List Char) :
    splitAt (octets (s ++ t)) (octets s).length = .ok (octets s, octets t) := by
  have hfront : slice (octets (s ++ t)) 0 (octets s).length = .ok (octets s) := slice_octets [] s t
  rw [splitAt, hfront, slice_octets_end]
  rfl

/-! ### The characters of a text -/

theorem chars_octets (s : List Char) : chars (octets s) = s := by
  have h := decodeLossy_encode (String.ofList s)
  rw [encode, String.toList_ofList] at h
  rw [chars, octets, h, String.toList_ofList]

theorem decodeLossy_octets (s : List Char) : decodeLossy (octets s) = String.ofList s := by
  rw [← String.toList_inj, String.toList_ofList]
  exact chars_octets s

theorem octets_inj {s t : List Char} : octets s = octets t ↔ s = t := by
  refine ⟨fun h => ?_, congrArg octets⟩
  rw [← chars_octets s, h, chars_octets]

theorem octets_eq_nil_iff {s : List Char} : octets s = [] ↔ s = [] :=
  octets_inj (t := [])

theorem indicesFrom_append (i : Nat) (s t : List Char) :
    indicesFrom i (s ++ t) = indicesFrom i s ++ indicesFrom (i + (octets s).length) t := by
  induction s generalizing i with
  | nil => rfl
  | cons c s ih =>
      rw [List.cons_append, indicesFrom, ih, indicesFrom, octets_cons, List.length_append,
        Nat.add_assoc]
      rfl

theorem charIndices_octets (s : List Char) : charIndices (octets s) = indicesFrom 0 s :=
  congrArg (indicesFrom 0) (chars_octets s)

theorem map_snd_indicesFrom (i : Nat) (s : List Char) : (indicesFrom i s).map Prod.snd = s := by
  induction s generalizing i with
  | nil => rfl
  | cons c s ih => rw [indicesFrom, List.map_cons, ih]

theorem not_of_mem_indicesFrom {p : Char → Bool} {s : List Char} (h : ∀ c ∈ s, p c = false) (i : Nat) :
    ∀ entry ∈ indicesFrom i s, ¬p entry.2 = true := by
  intro entry hentry
  have hc : entry.2 ∈ s := map_snd_indicesFrom i s ▸ List.mem_map_of_mem hentry
  rw [h entry.2 hc]
  exact Bool.false_ne_true

/-- The first character of a sort is found behind all that are not of it. -/
theorem find?_octets (p : Char → Bool) (s : List Char) :
    find? p (octets s) = if s.dropWhile (!p ·) = [] then none
      else some (octets (s.takeWhile (!p ·))).length := by
  have hfront : ∀ c ∈ s.takeWhile (!p ·), p c = false := by
    intro c hc
    simpa using List.all_eq_true.mp List.all_takeWhile c hc
  have hsplit := List.takeWhile_append_dropWhile (p := (!p ·)) (l := s)
  rw [find?]
  conv => lhs; rw [charIndices_octets, ← hsplit, indicesFrom_append, Nat.zero_add]
  rw [List.find?_append, List.find?_eq_none.mpr (not_of_mem_indicesFrom hfront 0), Option.none_or]
  split
  next hnil => rw [hnil]; rfl
  next hne =>
    obtain ⟨c, rest, hrest⟩ := List.exists_cons_of_ne_nil hne
    have hc : p c = true := by
      have h := List.head?_dropWhile_not (!p ·) s
      rw [hrest] at h
      simpa using h
    rw [hrest, indicesFrom, List.find?_cons_of_pos (by exact hc)]
    rfl

theorem getD_find?_octets (p : Char → Bool) (s : List Char) :
    (find? p (octets s)).getD (octets s).length = (octets (s.takeWhile (!p ·))).length := by
  rw [find?_octets]
  split
  next hnil =>
    have hsplit := List.takeWhile_append_dropWhile (p := (!p ·)) (l := s)
    rw [hnil, List.append_nil] at hsplit
    rw [hsplit]
    rfl
  next => rfl

theorem getD_findEnd?_octets (s : List Char) :
    (findEnd? (!isBlank ·) (octets s)).getD 0 = (octets (trimEnd s)).length := by
  obtain ⟨w, hw, hs⟩ := exists_eq_trimEnd_append s
  have hblank : ∀ c ∈ w, (!isBlank c) = false := fun c hc => by rw [hw c hc]; rfl
  have hnone : (indicesFrom (octets (trimEnd s)).length w).reverse.find?
      (fun entry => !isBlank entry.2) = none := by
    refine List.find?_eq_none.mpr fun entry hentry => ?_
    exact not_of_mem_indicesFrom hblank _ entry (List.mem_reverse.mp hentry)
  rw [findEnd?]
  conv => lhs; rw [charIndices_octets, hs, indicesFrom_append, Nat.zero_add]
  rw [List.reverse_append, List.find?_append, hnone, Option.none_or]
  cases hlast : Text.trimStart s.reverse with
  | nil =>
      rw [trimEnd, hlast]
      rfl
  | cons c rest =>
      have hc : (!isBlank c) = true := by rw [isBlank_head_trimStart hlast]; rfl
      rw [trimEnd, hlast, List.reverse_cons, indicesFrom_append, Nat.zero_add, List.reverse_append,
        indicesFrom, indicesFrom, List.reverse_singleton, List.singleton_append,
        List.find?_cons_of_pos (by exact hc), length_octets_concat]
      rfl

/-! ### Readers on the bytes of a text -/

theorem trimStart_octets (s : List Char) : trimStart (octets s) = .ok (octets (Text.trimStart s)) := by
  have hblank : (fun c => !!isBlank c) = isBlank := funext fun c => Bool.not_not (isBlank c)
  have hsplit : s.takeWhile isBlank ++ Text.trimStart s = s := List.takeWhile_append_dropWhile
  have hslice := slice_octets_end (s.takeWhile isBlank) (Text.trimStart s)
  rw [hsplit] at hslice
  rw [trimStart, getD_find?_octets, hblank, hslice]

theorem trim_octets (s : List Char) : trim (octets s) = .ok (octets (Text.trim s)) := by
  obtain ⟨w, -, hs⟩ := exists_eq_trimEnd_append (Text.trimStart s)
  have hslice := slice_octets [] (trimEnd (Text.trimStart s)) w
  rw [List.nil_append, ← hs] at hslice
  rw [trim, trimStart_octets, ok_bind, getD_findEnd?_octets]
  exact hslice

theorem exists_piecesFrom_eq (state : Awaiting) (acc : List (Option Char)) (bytes : Bytes) :
    ∃ more, piecesFrom state acc bytes = acc.reverse ++ more := by
  induction bytes generalizing state acc with
  | nil =>
      cases state with
      | start => exact ⟨[], (List.append_nil _).symm⟩
      | more => exact ⟨[none], List.reverse_cons⟩
  | cons b rest ih =>
      obtain ⟨more, hmore⟩ := ih (feed state b.toNat).2 ((feed state b.toNat).1.reverse ++ acc)
      refine ⟨(feed state b.toNat).1 ++ more, ?_⟩
      rw [List.reverse_append, List.reverse_reverse, List.append_assoc] at hmore
      exact hmore

/-- No character begins with the bytes of another one. -/
theorem eq_of_encodeChar_append {c d : Char} {s t : Bytes}
    (h : encodeChar c ++ s = encodeChar d ++ t) : c = d := by
  obtain ⟨more, hc⟩ := exists_piecesFrom_eq .start [some c] s
  obtain ⟨more', hd⟩ := exists_piecesFrom_eq .start [some d] t
  have hpieces := congrArg (piecesFrom .start []) h
  rw [piecesFrom_encodeChar, piecesFrom_encodeChar, hc, hd] at hpieces
  exact Option.some.inj (List.cons.inj hpieces).1

theorem afterMark?_octets (mark : Char) (s : List Char) : afterMark? mark (octets s) =
    match s with
    | [] => none
    | c :: rest => if c = mark then some (octets rest) else none := by
  rw [afterMark?]
  cases s with
  | nil =>
      obtain ⟨b, rest, hmark, -⟩ := exists_head_encodeChar mark
      rw [hmark]
      rfl
  | cons c rest =>
      rw [octets_cons]
      dsimp only
      split
      next hmark =>
        obtain ⟨t, ht⟩ := List.isPrefixOf_iff_prefix.mp hmark
        obtain rfl := eq_of_encodeChar_append ht
        rw [if_pos rfl, List.drop_left]
      next hmark =>
        refine (if_neg ?_).symm
        rintro rfl
        exact hmark (List.isPrefixOf_iff_prefix.mpr (List.prefix_append _ _))

theorem loweredBytes_encodeChar (c : Char) : loweredBytes (encodeChar c) = encodeChar c.toLower := by
  by_cases h : 0x41 ≤ c.toNat ∧ c.toNat ≤ 0x5A
  · have hcapitals : ∀ n ∈ List.range 26, loweredBytes (encodeChar (Char.ofNat (0x41 + n)))
        = encodeChar (Char.ofNat (0x41 + n)).toLower := by decide
    have hc := hcapitals (c.toNat - 0x41) (List.mem_range.mpr (by omega))
    rwa [show 0x41 + (c.toNat - 0x41) = c.toNat by omega, Char.ofNat_toNat] at hc
  · have hlower : c.toLower = c := dif_neg h
    have hbytes : ∀ b ∈ encodeChar c, ¬(0x41 ≤ b.toNat ∧ b.toNat ≤ 0x5A) := by
      intro b hb
      by_cases hc : c.toNat < 0x80
      · rw [encodeChar_of_lt hc, List.mem_singleton] at hb
        rwa [hb, toNat_ofNat (by omega)]
      · have hlarge := le_of_mem_encodeChar (by omega) b hb
        omega
    rw [hlower, loweredBytes]
    refine (List.map_congr_left fun b hb => if_neg (hbytes b hb)).trans (List.map_id' _)

theorem loweredBytes_octets (s : List Char) :
    loweredBytes (octets s) = octets (s.map Char.toLower) := by
  induction s with
  | nil => rfl
  | cons c s ih =>
      rw [octets_cons, List.map_cons, octets_cons, ← ih, ← loweredBytes_encodeChar]
      exact List.map_append

end AppAdmin.Text.Utf8
