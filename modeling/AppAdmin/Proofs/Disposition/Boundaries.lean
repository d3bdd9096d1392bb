import AppAdmin.Proofs.Disposition.Decoding
import AppAdmin.Proofs.Disposition.Grammar
import AppAdmin.Proofs.Disposition.Slices

/-!
The readers on bytes beside those on characters. On the bytes of a text they take slices at the offsets of
its characters only, so no slice is refused, and they find what the readers on characters find.
-/

namespace AppAdmin.Disposition.Sliced

open Text.Utf8

/-- What is read, and what is left, as bytes. -/
def onBytes (read : Option (List Char × List Char)) : Option (Bytes × Bytes) :=
  read.map (Prod.map octets octets)

theorem cutToken_octets (s : List Char) :
    cutToken (octets s) = .ok (octets (tokenOf s), octets (afterToken s)) := by
  have hchar : (fun c => !!isTokenChar c) = isTokenChar := funext fun c => Bool.not_not _
  have hsplit := splitAt_octets (tokenOf s) (afterToken s)
  rw [tokenOf_append_afterToken] at hsplit
  rw [cutToken, getD_find?_octets, hchar]
  exact hsplit

theorem checkKind_octets (s : List Char) : checkKind (octets s) = .ok (Disposition.checkKind s) := by
  rw [checkKind, Disposition.checkKind, cutToken_octets, ok_bind]
  simp only [octets_eq_nil_iff, afterMark?_octets]
  by_cases htoken : tokenOf s = []
  · rw [if_pos htoken, if_pos htoken]
    rfl
  rw [if_neg htoken, if_neg htoken]
  cases afterToken s with
  | nil => rfl
  | cons c rest =>
      rw [if_neg (List.cons_ne_nil _ _)]
      by_cases hslash : c = '/'
      · subst hslash
        dsimp only
        rw [if_pos rfl, if_neg (not_not_intro rfl)]
        simp only [cutToken_octets, ok_bind, ne_eq, octets_eq_nil_iff]
        split <;> rfl
      · dsimp only
        rw [if_neg hslash, if_pos hslash]
        rfl

/-! ### Values -/

theorem escaped?_octets (front rest : List Char) :
    escaped? (octets (front ++ '\\' :: rest)) (octets front).length
      = .ok (rest.head?.filter isSpecial) := by
  have hslice : slice (octets (front ++ '\\' :: rest)) ((octets front).length + 1)
      (octets (front ++ '\\' :: rest)).length = .ok (octets rest) :=
    slice_octets_behind front '\\' rest
  rw [escaped?, hslice, ok_bind, charIndices_octets]
  cases rest <;> rfl

/-- The scan stands behind `front`, and has put `acc` into its buffer. -/
theorem scanQuoted_octets (s front acc : List Char) :
    scanQuoted (octets (front ++ s)) (octets acc.reverse) (indicesFrom (octets front).length s)
      = .ok (onBytes (readQuoted acc false s)) := by
  cases s with
  | nil =>
      rw [indicesFrom, scanQuoted]
      rfl
  | cons c rest =>
      have hnext (acc : List Char) : scanQuoted (octets (front ++ c :: rest)) (octets acc.reverse)
          (indicesFrom ((octets front).length + (encodeChar c).length) rest)
          = .ok (onBytes (readQuoted acc false rest)) := by
        have ih := scanQuoted_octets rest (front ++ [c]) acc
        rwa [List.append_assoc, List.singleton_append, length_octets_concat] at ih
      have hbuffer : octets acc.reverse ++ encodeChar c = octets (c :: acc).reverse := by
        rw [List.reverse_cons, octets_concat]
      rw [indicesFrom, scanQuoted]
      by_cases hquote : c = '"'
      · subst hquote
        have hslice : slice (octets (front ++ '"' :: rest)) ((octets front).length + 1)
            (octets (front ++ '"' :: rest)).length = .ok (octets rest) :=
          slice_octets_behind front '"' rest
        rw [if_pos rfl, hslice]
        rfl
      rw [if_neg hquote]
      by_cases hbackslash : c = '\\'
      · subst hbackslash
        have hread : readQuoted acc false ('\\' :: rest) = readQuoted acc true rest := by
          simp [readQuoted]
        rw [if_pos rfl, escaped?_octets, hbuffer, hnext, hread]
        cases rest with
        | nil => rfl
        | cons d rest =>
            cases hspecial : isSpecial d with
            | true =>
                have ih := scanQuoted_octets rest (front ++ ['\\'] ++ [d]) (d :: acc)
                rw [length_octets_concat, length_octets_concat, List.append_assoc, List.append_assoc,
                  List.reverse_cons, octets_concat] at ih
                have hread : readQuoted acc true (d :: rest) = readQuoted (d :: acc) false rest := by
                  simp [readQuoted, hspecial]
                rw [List.head?_cons, Option.filter_some_pos hspecial, hread]
                exact ih
            | false =>
                rw [List.head?_cons, Option.filter_some_neg hspecial, readQuoted_backslash hspecial]
      · have hread : readQuoted acc false (c :: rest)
            = if c = '\r' ∨ c = '\n' then none else readQuoted (c :: acc) false rest := by
          simp [readQuoted, hquote, hbackslash]
        rw [if_neg hbackslash, hbuffer, hnext, hread]
        split <;> rfl
termination_by s.length

theorem readValue_octets (s : List Char) :
    readValue (octets s) = .ok (onBytes (Disposition.readValue s)) := by
  have htoken (s : List Char) : (cutToken (octets s) >>= fun cut =>
        .ok (if cut.1 = [] then none else some cut) : Except BadSlice _)
      = .ok (onBytes (if tokenOf s = [] then none else some (tokenOf s, afterToken s))) := by
    rw [cutToken_octets, ok_bind]
    simp only [octets_eq_nil_iff]
    split <;> rfl
  rw [readValue, afterMark?_octets]
  cases s with
  | nil => exact htoken []
  | cons c rest =>
      dsimp only
      by_cases hquote : c = '"'
      · subst hquote
        rw [if_pos rfl]
        dsimp only
        rw [charIndices_octets]
        exact scanQuoted_octets rest [] []
      · rw [if_neg hquote, readValue_of_ne_quote hquote]
        exact htoken (c :: rest)

/-! ### Parameters -/

theorem readMark_octets (mark : Char) (s : List Char) :
    readMark mark (octets s) = .ok ((Disposition.readMark mark s).map octets) := by
  rw [readMark, Disposition.readMark, trimStart_octets, ok_bind, afterMark?_octets]
  cases Text.trimStart s with
  | nil => rfl
  | cons c rest =>
      dsimp only
      by_cases hmark : c = mark
      · rw [if_pos hmark, if_pos hmark]
        dsimp only
        rw [trimStart_octets]
        rfl
      · rw [if_neg hmark, if_neg hmark]
        rfl

/-- A parameter that is read, and what is left, as bytes. -/
def entryOnBytes (read : Option ((List Char × List Char) × List Char)) :
    Option ((Bytes × Bytes) × Bytes) :=
  read.map (Prod.map (Prod.map octets octets) octets)

theorem readParameter_octets (s : List Char) :
    readParameter (octets s) = .ok (entryOnBytes (Disposition.readParameter s)) := by
  rw [readParameter, Disposition.readParameter, readMark_octets, ok_bind]
  cases Disposition.readMark ';' s with
  | none => rfl
  | some s₁ =>
      dsimp only [Option.map_some]
      rw [cutToken_octets, ok_bind]
      simp only [octets_eq_nil_iff]
      by_cases hname : tokenOf s₁ = []
      · rw [if_pos hname, if_pos hname]
        rfl
      rw [if_neg hname, if_neg hname, readMark_octets, ok_bind]
      cases Disposition.readMark '=' (afterToken s₁) with
      | none => rfl
      | some s₂ =>
          dsimp only [Option.map_some]
          rw [readValue_octets, ok_bind, loweredBytes_octets]
          cases Disposition.readValue s₂ <;> rfl

theorem add_octets (plain starred : Parameters) (s name value rest : List Char) :
    State.add ⟨plain, starred, octets s⟩ (octets name) (octets value) (octets rest)
      = if name.getLast? = some '*' then
          if (starred.get? (String.ofList name)).isSome then
            .done (.error (.duplicateParameter (String.ofList name)))
          else .again ⟨plain, starred.insert (String.ofList name) (String.ofList value), octets rest⟩
        else if (plain.get? (String.ofList name)).isSome then
          .done (.error (.duplicateParameter (String.ofList name)))
        else .again ⟨plain.insert (String.ofList name) (String.ofList value), starred,
          octets rest⟩ := by
  simp only [State.add, decodeLossy_octets, chars_octets]

theorem turn_octets (plain starred : Parameters) (s : List Char) : turn ⟨plain, starred, octets s⟩
    = .ok (if Text.trimStart s = [] then .done (.ok (plain, starred))
      else match Disposition.readParameter (Text.trimStart s) with
      | none => if Text.trim s = [';'] then .done (.ok (plain, starred))
        else .done (.error .invalidParameter)
      | some ((name, value), rest) =>
        State.add ⟨plain, starred, octets s⟩ (octets name) (octets value) (octets rest)) := by
  have hend : encode ";" = octets [';'] := rfl
  have htrim : Text.trim (Text.trimStart s) = Text.trim s := by
    rw [Text.trim, Text.trimStart_trimStart, Text.trim]
  rw [turn, trimStart_octets, ok_bind]
  simp only [octets_eq_nil_iff]
  split
  · rfl
  rw [readParameter_octets, ok_bind]
  cases Disposition.readParameter (Text.trimStart s) with
  | some => rfl
  | none =>
      dsimp only [entryOnBytes, Option.map_none]
      rw [trim_octets, ok_bind, htrim, hend]
      simp only [octets_inj]
      split <;> rfl

theorem readParameters_of_done {state : State} {outcome : Except Fault (Parameters × Parameters)}
    (h : turn state = .ok (.done outcome)) : readParameters state = .ok (1, outcome) := by
  rw [readParameters]
  split
  next hturn => cases h.symm.trans hturn
  next hturn => cases h.symm.trans hturn; rfl
  next hturn => cases h.symm.trans hturn

theorem readParameters_of_again {state next : State} {turns : Nat}
    {outcome : Except Fault (Parameters × Parameters)} (h : turn state = .ok (.again next))
    (hnext : readParameters next = .ok (turns, outcome)) :
    readParameters state = .ok (turns + 1, outcome) := by
  rw [readParameters]
  split
  next hturn => cases h.symm.trans hturn
  next hturn => cases h.symm.trans hturn
  next hturn => cases h.symm.trans hturn; rw [hnext]; rfl

/-- On the bytes of a text the parameters are read as they are on its characters. -/
theorem readParameters_octets (plain starred : Parameters) (s : List Char) :
    ∃ turns, readParameters ⟨plain, starred, octets s⟩
      = .ok (turns, Disposition.readParameters plain starred s) := by
  fun_induction Disposition.readParameters plain starred s with
  | case1 plain starred s hend =>
      have hturn := turn_octets plain starred s
      rw [if_pos hend] at hturn
      exact ⟨1, readParameters_of_done hturn⟩
  | case2 plain starred s hmore hread htrim =>
      have hturn := turn_octets plain starred s
      simp only [if_neg hmore, hread, if_pos htrim] at hturn
      exact ⟨1, readParameters_of_done hturn⟩
  | case3 plain starred s hmore hread htrim =>
      have hturn := turn_octets plain starred s
      simp only [if_neg hmore, hread, if_neg htrim] at hturn
      exact ⟨1, readParameters_of_done hturn⟩
  | case4 plain starred s hmore name value rest hread key hstar hknown =>
      have hturn := turn_octets plain starred s
      simp only [if_neg hmore, hread, add_octets, if_pos hstar] at hturn
      rw [if_pos hknown] at hturn
      exact ⟨1, readParameters_of_done hturn⟩
  | case5 plain starred s hmore name raw rest hread key value hstar hnew ih =>
      have hturn := turn_octets plain starred s
      simp only [if_neg hmore, hread, add_octets, if_pos hstar] at hturn
      rw [if_neg hnew] at hturn
      obtain ⟨turns, hrest⟩ := ih
      exact ⟨turns + 1, readParameters_of_again hturn hrest⟩
  | case6 plain starred s hmore name value rest hread key hstar hknown =>
      have hturn := turn_octets plain starred s
      simp only [if_neg hmore, hread, add_octets, if_neg hstar] at hturn
      rw [if_pos hknown] at hturn
      exact ⟨1, readParameters_of_done hturn⟩
  | case7 plain starred s hmore name raw rest hread key value hstar hnew ih =>
      have hturn := turn_octets plain starred s
      simp only [if_neg hmore, hread, add_octets, if_neg hstar] at hturn
      rw [if_neg hnew] at hturn
      obtain ⟨turns, hrest⟩ := ih
      exact ⟨turns + 1, readParameters_of_again hturn hrest⟩

/-! ### Starred values -/

/-- The byte of an escape whose percent sign has been taken. -/
def escapeByte? : List Char → Option UInt8
  | high :: low :: _ => do
    return UInt8.ofNat ((← Text.hexDigit? high) * 16 + (← Text.hexDigit? low))
  | _ => none

theorem percentBytes_escape (rest : List Char) : percentBytes ('%' :: rest)
    = (escapeByte? rest).bind fun byte => (percentBytes (rest.drop 2)).map (byte :: ·) := by
  match rest with
  | [] => rfl
  | [a] => rfl
  | a :: b :: rest =>
      rw [percentBytes, if_pos rfl, escapeByte?]
      cases Text.hexDigit? a <;> cases Text.hexDigit? b <;>
        cases hrest : percentBytes rest <;> simp [hrest]

theorem hexByte?_pair (x y : UInt8) :
    hexByte? [x, y] = escapeByte? [Char.ofNat x.toNat, Char.ofNat y.toNat] := by
  rw [hexByte?, escapeByte?]
  cases hx : Text.hexDigit? (Char.ofNat x.toNat) <;> cases hy : Text.hexDigit? (Char.ofNat y.toNat) <;>
    simp [Text.hexNumber, hx, hy]

theorem exists_of_escapeByte? {rest : List Char} {byte : UInt8} (h : escapeByte? rest = some byte) :
    ∃ a b more, rest = a :: b :: more ∧ a.toNat < 128 ∧ b.toNat < 128 := by
  match rest, h with
  | a :: b :: more, h =>
      obtain ⟨high, hhigh, h⟩ := Option.bind_eq_some_iff.mp h
      obtain ⟨low, hlow, -⟩ := Option.bind_eq_some_iff.mp h
      exact ⟨a, b, more, rfl, Text.toNat_lt_of_hexDigit? hhigh, Text.toNat_lt_of_hexDigit? hlow⟩

/-- The two bytes behind a percent sign are a slice of the text and spell a byte exactly if the two
characters behind it do. -/
theorem slice?_escape (front rest : List Char) :
    (slice? (octets (front ++ '%' :: rest)) ((octets front).length + 1)
      ((octets front).length + 3)).bind hexByte? = escapeByte? rest := by
  ext byte
  constructor
  · intro h
    obtain ⟨hex, hslice, hbyte⟩ := Option.bind_eq_some_iff.mp h
    have htext : octets (front ++ '%' :: rest) = octets front ++ percent :: octets rest := by
      rw [octets_append, octets_cons]
      rfl
    have hlength := le_of_slice? hslice
    have hhex := eq_drop_of_slice? hslice
    rw [htext, List.length_append, List.length_cons] at hlength
    rw [htext, List.drop_take, List.drop_length_add_append, Nat.add_sub_add_left] at hhex
    obtain ⟨x, y, tail, hrest⟩ : ∃ x y tail, octets rest = x :: y :: tail := by
      match hbytes : octets rest with
      | x :: y :: tail => exact ⟨x, y, tail, rfl⟩
      | [] | [_] => simp [hbytes] at hlength
    obtain rfl : hex = [x, y] := by rw [hhex, hrest]; rfl
    rw [hexByte?_pair] at hbyte
    obtain ⟨a, b, more, heq, ha, hb⟩ := exists_of_escapeByte? hbyte
    cases heq
    have hascii (b : UInt8) (h : (Char.ofNat b.toNat).toNat < 128) : b.toNat < 128 := by
      rwa [toNat_ofNat_of_valid (Or.inl (Nat.lt_of_lt_of_le b.toNat_lt (by decide)))] at h
    have hword : ∀ b ∈ [x, y], b.toNat < 128 := by
      simpa using ⟨hascii x ha, hascii y hb⟩
    obtain ⟨more, rfl, -⟩ := exists_of_octets_eq_append hword (hrest.trans rfl)
    exact hbyte
  · intro h
    obtain ⟨a, b, more, rfl, ha, hb⟩ := exists_of_escapeByte? h
    have hpair : octets [a, b] = [UInt8.ofNat a.toNat, UInt8.ofNat b.toNat] := by
      rw [octets_cons, octets_cons, encodeChar_of_lt ha, encodeChar_of_lt hb]
      rfl
    have hslice := slice?_octets (front ++ ['%']) [a, b] more
    rw [octets_append (front ++ ['%']) [a, b], List.length_append, length_octets_concat, hpair,
      List.append_assoc] at hslice
    refine Option.bind_eq_some_iff.mpr ⟨_, hslice, ?_⟩
    rw [hexByte?_pair, toNat_ofNat (by omega), toNat_ofNat (by omega), Char.ofNat_toNat,
      Char.ofNat_toNat]
    exact h

/-- Bytes other than percent signs are taken as they are. -/
theorem decodeFrom_plain {chunk : Bytes} (h : percent ∉ chunk) (front behind decoded : Bytes) :
    decodeFrom (front ++ (chunk ++ behind)) front.length decoded
      = decodeFrom (front ++ (chunk ++ behind)) (front.length + chunk.length) (decoded ++ chunk) := by
  induction chunk generalizing front decoded with
  | nil => rw [List.append_nil, List.length_nil, Nat.add_zero]
  | cons b chunk ih =>
      obtain ⟨hb, hchunk⟩ := not_or.mp (mt List.mem_cons.mpr h)
      have hget : (front ++ (b :: chunk ++ behind))[front.length]? = some b := by
        rw [List.getElem?_append_right (Nat.le_refl _), Nat.sub_self]
        rfl
      have hstep := ih hchunk (front ++ [b]) (decoded ++ [b])
      rw [List.append_assoc, List.append_assoc, List.length_append, Nat.add_assoc, Nat.add_comm _
        chunk.length] at hstep
      rw [decodeFrom_of_some hget, if_neg (Ne.symm hb)]
      exact hstep

/-- The decoding stands behind `front`. -/
theorem decodeFrom_octets (s front : List Char) (decoded : Bytes) :
    decodeFrom (octets (front ++ s)) (octets front).length decoded
      = (percentBytes s).map (decoded ++ ·) := by
  match s with
  | [] =>
      rw [List.append_nil, decodeFrom_of_none (List.getElem?_eq_none (Nat.le_refl _)), percentBytes,
        Option.map_some, List.append_nil]
  | c :: rest =>
      by_cases hc : c = '%'
      · subst hc
        have hget : (octets (front ++ '%' :: rest))[(octets front).length]? = some percent := by
          rw [octets_append, List.getElem?_append_right (Nat.le_refl _), Nat.sub_self]
          rfl
        rw [decodeFrom_of_some hget, if_pos rfl, slice?_escape, percentBytes_escape]
        cases hbyte : escapeByte? rest with
        | none => rfl
        | some byte =>
            obtain ⟨a, b, more, rfl, ha, hb⟩ := exists_of_escapeByte? hbyte
            have ih := decodeFrom_octets more (front ++ ['%'] ++ [a] ++ [b]) (decoded ++ [byte])
            have hlength : (octets (front ++ ['%'] ++ [a] ++ [b])).length
                = (octets front).length + 3 := by
              rw [length_octets_concat, length_octets_concat, length_octets_concat,
                encodeChar_of_lt ha, encodeChar_of_lt hb]
              rfl
            rw [hlength, List.append_assoc, List.append_assoc, List.append_assoc] at ih
            rw [Option.bind_some, Option.bind_some, Option.map_map]
            refine Eq.trans ih (congrArg (Option.map · _) ?_)
            funext bytes
            exact List.append_assoc decoded [byte] bytes
      · have hplain := decodeFrom_plain (notMem_encodeChar (d := '%') (by decide) hc) (octets front)
          (octets rest) decoded
        have ih := decodeFrom_octets rest (front ++ [c]) (decoded ++ encodeChar c)
        rw [List.append_assoc, List.singleton_append, length_octets_concat] at ih
        rw [← octets_cons, ← octets_append] at hplain
        rw [hplain, ih, percentBytes_cons hc, Option.map_map]
        congr 1
        funext bytes
        exact List.append_assoc decoded (encodeChar c) bytes
termination_by s.length

theorem find?_mark_octets (mark : Char) (s : List Char) : find? (· == mark) (octets s) =
    if s.dropWhile (· != mark) = [] then none
    else some (octets (s.takeWhile (· != mark))).length :=
  find?_octets (· == mark) s

theorem splitAtMark_octets (mark : Char) (s : List Char) : splitAtMark mark (octets s)
    = .ok (octets (s.takeWhile (· != mark)), octets (s.dropWhile (· != mark))) := by
  have hsplit := List.takeWhile_append_dropWhile (p := (· != mark)) (l := s)
  rw [splitAtMark, find?_mark_octets]
  by_cases hnone : s.dropWhile (· != mark) = []
  · rw [hnone, List.append_nil] at hsplit
    rw [if_pos hnone, hnone, hsplit]
    rfl
  · have hcut := splitAt_octets (s.takeWhile (· != mark)) (s.dropWhile (· != mark))
    rw [hsplit] at hcut
    rw [if_neg hnone]
    exact hcut

theorem cutMark_octets (mark : Char) (s : List Char) : cutMark mark (octets s)
    = .ok ((s.dropWhile (· != mark)).tail?.map fun rest =>
      (octets (s.takeWhile (· != mark)), octets rest)) := by
  have hsplit := List.takeWhile_append_dropWhile (p := (· != mark)) (l := s)
  rw [cutMark, find?_mark_octets]
  cases hback : s.dropWhile (· != mark) with
  | nil => rfl
  | cons c rest =>
      have hmark : c = mark := by
        have hhead := List.head?_dropWhile_not (· != mark) s
        rw [hback] at hhead
        simpa using hhead
      subst hmark
      rw [hback] at hsplit
      have hfront := slice_octets [] (s.takeWhile (· != c)) (c :: rest)
      have hbehind := slice_octets_behind (s.takeWhile (· != c)) c rest
      rw [List.nil_append, hsplit] at hfront
      rw [hsplit] at hbehind
      rw [if_neg (List.cons_ne_nil _ _)]
      dsimp only
      rw [hbehind]
      exact congrArg (· >>= _) hfront

theorem decodeStarred_octets (s : List Char) :
    decodeStarred (octets s) = .ok (Disposition.decodeStarred s) := by
  have hknown (charset : List Char) : (loweredBytes (octets charset) = encode "utf-8"
      ∨ loweredBytes (octets charset) = encode "us-ascii") ↔ isKnownCharset charset = true := by
    rw [isKnownCharset_iff, loweredBytes_octets]
    exact or_congr octets_inj octets_inj
  rw [decodeStarred, Disposition.decodeStarred, cutMark_octets, ok_bind]
  dsimp only
  cases hcharset : (s.dropWhile (· != '\'')).tail? with
  | none => rfl
  | some rest =>
      dsimp only [Option.map_some]
      rw [cutMark_octets, ok_bind]
      simp only [Option.bind_eq_bind, Option.bind_some]
      cases (rest.dropWhile (· != '\'')).tail? with
      | none => rfl
      | some escapes =>
          have hdecode : decodeFrom (octets escapes) 0 [] = percentBytes escapes :=
            (decodeFrom_octets escapes [] []).trans Option.map_id'
          simp only [Option.map_some, hknown, hdecode, Option.bind_some]
          split <;> rfl

/-! ### The whole header value -/

theorem foldlM_addStarred (entries : List (String × String)) (params : Parameters) :
    entries.foldlM addStarred params = .ok (entries.foldl Disposition.addStarred params) := by
  induction entries generalizing params with
  | nil => rfl
  | cons entry entries ih =>
      have hadd : addStarred params entry = .ok (Disposition.addStarred params entry) := by
        rw [addStarred, Disposition.addStarred, show encode entry.2 = octets entry.2.toList from rfl,
          decodeStarred_octets, ok_bind]
        cases Disposition.decodeStarred entry.2.toList <;> rfl
      rw [List.foldlM_cons, hadd, ok_bind, ih, List.foldl_cons]

theorem count_semicolon (s : List Char) : (octets s).count semicolon = s.count ';' := by
  induction s with
  | nil => rfl
  | cons c s ih =>
      rw [octets_cons, List.count_append, ih, List.count_cons]
      by_cases hc : c = ';'
      · subst hc
        exact Nat.add_comm _ _
      · have hnone : (encodeChar c).count semicolon = 0 :=
          List.count_eq_zero.mpr (notMem_encodeChar (d := ';') (by decide) hc)
        rw [hnone, if_neg (by simpa using hc), Nat.zero_add, Nat.add_zero]

/-- What a parse finds on bytes, and in how many turns. -/
theorem parse_octets (header : String) : ∃ turns,
    parse (encode header) = .ok (turns, Disposition.parse header)
      ∧ turns ≤ header.toList.count ';' + 1 := by
  have hbytes : encode header = octets header.toList := rfl
  rw [parse, Disposition.parse, hbytes, splitAtMark_octets, ok_bind]
  dsimp only
  rw [trim_octets, ok_bind, loweredBytes_octets, checkKind_octets, ok_bind]
  cases Disposition.checkKind ((Text.trim (header.toList.takeWhile (· != ';'))).map Char.toLower) with
  | error fault => exact ⟨0, rfl, Nat.zero_le _⟩
  | ok =>
      obtain ⟨turns, hread⟩ :=
        readParameters_octets .empty .empty (header.toList.dropWhile (· != ';'))
      have hturns := turns_le hread
      dsimp only at hturns
      rw [count_semicolon] at hturns
      refine ⟨turns, ?_, Nat.le_trans hturns ?_⟩
      · dsimp only
        rw [hread, ok_bind, ok_bind]
        cases Disposition.readParameters .empty .empty (header.toList.dropWhile (· != ';')) with
        | error fault => rfl
        | ok collected =>
            dsimp only
            rw [foldlM_addStarred, decodeLossy_octets]
            rfl
      · exact Nat.add_le_add_right ((List.dropWhile_sublist _).count_le _) 1

/-- **No slice of a header value is refused.** On the bytes of a text the readers find what they find on
its characters. They leave the end of what they are given, and a parameter takes four bytes at least with
a semicolon among them; so there is one turn for each semicolon at most, and the last one. -/
theorem parse_takes_slices (text : String) :
    (∃ turns, parse (encode text) = .ok (turns, Disposition.parse text)
      ∧ turns ≤ text.toList.count ';' + 1) ∧
    cutToken (encode text) = .ok (octets (tokenOf text.toList), octets (afterToken text.toList)) ∧
    readValue (encode text) = .ok (onBytes (Disposition.readValue text.toList)) ∧
    readParameter (encode text) = .ok (entryOnBytes (Disposition.readParameter text.toList)) ∧
    decodeStarred (encode text) = .ok (Disposition.decodeStarred text.toList) ∧
    (∀ value rest, readValue (encode text) = .ok (some (value, rest)) → rest <:+ encode text) ∧
    ∀ entry rest, readParameter (encode text) = .ok (some (entry, rest)) →
      Takes (encode text) rest := by
  refine ⟨parse_octets text, cutToken_octets _, readValue_octets _, readParameter_octets _,
    decodeStarred_octets _, ?_, ?_⟩
  · intro value rest hread
    obtain ⟨taken, htaken, -⟩ := exists_of_readValue hread
    exact ⟨taken, htaken.symm⟩
  · exact fun entry rest hread => takes_of_readParameter hread

/-- A letter of two bytes stands right behind a backslash. -/
theorem parse_takes_slices_accent : Takes (encode "; a=\"\\é\"; b=1") (encode "; b=1") := by
  obtain ⟨-, -, -, hread, -, -, htakes⟩ := parse_takes_slices "; a=\"\\é\"; b=1"
  have hfound : Disposition.readParameter "; a=\"\\é\"; b=1".toList
      = some (("a".toList, "\\é".toList), "; b=1".toList) := by decide
  rw [hfound] at hread
  exact htakes _ _ hread

end AppAdmin.Disposition.Sliced
