import AppAdmin.Disposition
import AppAdmin.Proofs.Text.Slices

/-!
The readers of a `Content-Disposition` value on its bytes. They look for offsets and take slices between
them, and where a slice cannot be taken they break off. What they leave is the end of what they were
given, and a parameter uses up some of it; so the parameters are read in a bounded number of turns.
-/

namespace AppAdmin.Disposition.Sliced

open Text.Utf8

/-- Splits off the longest token in front. -/
def cutToken (s : Bytes) : Except BadSlice (Bytes × Bytes) :=
  splitAt s ((find? (!isTokenChar ·) s).getD s.length)

def checkKind (s : Bytes) : Except BadSlice (Except Fault Unit) := do
  let (type, rest) ← cutToken s
  if type = [] then return .error .noMediaType
  if rest = [] then return .ok ()
  let some rest := afterMark? '/' rest | return .error .expectedSlash
  let (subtype, rest) ← cutToken rest
  if subtype = [] ∨ rest ≠ [] then return .error .expectedToken
  return .ok ()

/-- The character behind an offset, if a backslash at that offset stands for it. -/
def escaped? (quoted : Bytes) (i : Nat) : Except BadSlice (Option Char) := do
  let behind ← slice quoted (i + 1) quoted.length
  return ((charIndices behind).head?.map Prod.snd).filter isSpecial

/-- Goes through the characters of a quoted value, whose opening quote has been taken. A character for
which a backslash stands is taken with it. -/
def scanQuoted (quoted buffer : Bytes) :
    List (Nat × Char) → Except BadSlice (Option (Bytes × Bytes))
  | [] => .ok none
  | (i, c) :: rest =>
    if c = '"' then do
      return some (buffer, ← slice quoted (i + 1) quoted.length)
    else if c = '\\' then
      match escaped? quoted i with
      | .error bad => .error bad
      | .ok (some next) => scanQuoted quoted (buffer ++ encodeChar next) rest.tail
      | .ok none => scanQuoted quoted (buffer ++ encodeChar c) rest
    else if c = '\r' ∨ c = '\n' then .ok none
    else scanQuoted quoted (buffer ++ encodeChar c) rest
termination_by entries => entries.length

/-- Reads a value, a token or a quoted text. -/
def readValue (s : Bytes) : Except BadSlice (Option (Bytes × Bytes)) :=
  match afterMark? '"' s with
  | some quoted => scanQuoted quoted [] (charIndices quoted)
  | none => do
    let (token, rest) ← cutToken s
    return if token = [] then none else some (token, rest)

/-- Takes an expected character, with white space allowed before and behind it. -/
def readMark (mark : Char) (s : Bytes) : Except BadSlice (Option Bytes) := do
  match afterMark? mark (← trimStart s) with
  | some rest => return some (← trimStart rest)
  | none => return none

/-- Reads `; name=value`. The name is made lower case. -/
def readParameter (s : Bytes) : Except BadSlice (Option ((Bytes × Bytes) × Bytes)) := do
  let some s ← readMark ';' s | return none
  let (name, s) ← cutToken s
  if name = [] then return none
  let some s ← readMark '=' s | return none
  let some (value, s) ← readValue s | return none
  return some ((loweredBytes name, value), s)

/-- What is known while parameters are read. -/
structure State where
  plain : Parameters
  starred : Parameters
  rest : Bytes

/-- How a turn of the reading ends. -/
inductive Turn
  | done (outcome : Except Fault (Parameters × Parameters))
  | again (state : State)

/-- Adds a parameter that is new. -/
def State.add (state : State) (name value rest : Bytes) : Turn :=
  let key := decodeLossy name
  let text := decodeLossy value
  if (chars name).getLast? = some '*' then
    if (state.starred.get? key).isSome then .done (.error (.duplicateParameter key))
    else .again ⟨state.plain, state.starred.insert key text, rest⟩
  else if (state.plain.get? key).isSome then .done (.error (.duplicateParameter key))
  else .again ⟨state.plain.insert key text, state.starred, rest⟩

/-- Reads one parameter, or finds that there is no more. -/
def turn (state : State) : Except BadSlice Turn := do
  let rest ← trimStart state.rest
  if rest = [] then return .done (.ok (state.plain, state.starred))
  match ← readParameter rest with
  | some ((name, value), rest) => return state.add name value rest
  | none =>
    if (← trim rest) = encode ";" then return .done (.ok (state.plain, state.starred))
    else return .done (.error .invalidParameter)

/-! ### What is left -/

theorem exists_of_trimStart {s rest : Bytes} (h : trimStart s = .ok rest) :
    ∃ taken, s = taken ++ rest :=
  ⟨_, eq_append_of_slice h⟩

theorem eq_append_of_cutToken {s token rest : Bytes} (h : cutToken s = .ok (token, rest)) :
    s = token ++ rest :=
  eq_append_of_splitAt h

theorem suffix_of_scanQuoted {quoted buffer value rest : Bytes} {entries : List (Nat × Char)}
    (h : scanQuoted quoted buffer entries = .ok (some (value, rest))) : rest <:+ quoted := by
  fun_induction scanQuoted quoted buffer entries with
  | case1 => cases h
  | case2 buffer i entries =>
      obtain ⟨behind, hslice, h⟩ := exists_of_bind_eq_ok h
      cases h
      exact ⟨_, (eq_append_of_slice hslice).symm⟩
  | case3 => cases h
  | case4 _ _ _ _ _ _ ih => exact ih h
  | case5 _ _ _ _ _ ih => exact ih h
  | case6 => cases h
  | case7 _ _ _ _ _ _ _ ih => exact ih h

/-- A value is not empty as it is written. -/
theorem exists_of_readValue {s value rest : Bytes} (h : readValue s = .ok (some (value, rest))) :
    ∃ taken, s = taken ++ rest ∧ 1 ≤ taken.length := by
  rw [readValue] at h
  split at h
  next quoted hquote =>
    obtain ⟨front, rfl⟩ := suffix_of_scanQuoted h
    refine ⟨encodeChar '"' ++ front, ?_, ?_⟩
    · rw [eq_append_of_afterMark? hquote, List.append_assoc]
    · exact Nat.le_trans (encodeChar_pos '"') (List.length_append ▸ Nat.le_add_right _ _)
  next =>
    obtain ⟨⟨token, behind⟩, hcut, h⟩ := exists_of_bind_eq_ok h
    obtain ⟨htoken, h⟩ : token ≠ [] ∧ (token, behind) = (value, rest) := by
      by_cases htoken : token = [] <;> simp_all [pure, Except.pure]
    cases h
    exact ⟨value, eq_append_of_cutToken hcut, List.length_pos_iff.mpr htoken⟩

/-- The byte that begins a parameter. -/
def semicolon : UInt8 := 0x3B

/-- A text begins with four bytes at least, a semicolon among them, in front of the rest. -/
def Takes (s rest : Bytes) : Prop := ∃ taken, s = taken ++ rest ∧ 4 ≤ taken.length ∧ semicolon ∈ taken

theorem exists_of_readMark {mark : Char} {s rest : Bytes} (h : readMark mark s = .ok (some rest)) :
    ∃ w₁ w₂, s = w₁ ++ (encodeChar mark ++ (w₂ ++ rest)) := by
  obtain ⟨s₁, htrim, h⟩ := exists_of_bind_eq_ok h
  split at h
  next s₂ hmark =>
    obtain ⟨s₃, htrim', h⟩ := exists_of_bind_eq_ok h
    cases h
    obtain ⟨w₁, rfl⟩ := exists_of_trimStart htrim
    obtain rfl := eq_append_of_afterMark? hmark
    obtain ⟨w₂, rfl⟩ := exists_of_trimStart htrim'
    exact ⟨w₁, w₂, rfl⟩
  next => cases h

theorem takes_of_readParameter {s rest : Bytes} {entry : Bytes × Bytes}
    (h : readParameter s = .ok (some (entry, rest))) : Takes s rest := by
  obtain ⟨_ | s₁, hsemicolon, h⟩ := exists_of_bind_eq_ok h
  · cases h
  obtain ⟨⟨name, s₂⟩, hname, h⟩ := exists_of_bind_eq_ok h
  dsimp only at h
  split at h
  · cases h
  next hne =>
    obtain ⟨_ | s₃, hequals, h⟩ := exists_of_bind_eq_ok h
    · cases h
    obtain ⟨_ | ⟨value, s₄⟩, hvalue, h⟩ := exists_of_bind_eq_ok h
    · cases h
    cases h
    obtain ⟨w₁, w₂, rfl⟩ := exists_of_readMark hsemicolon
    obtain rfl := eq_append_of_cutToken hname
    obtain ⟨w₃, w₄, rfl⟩ := exists_of_readMark hequals
    obtain ⟨taken, rfl, htaken⟩ := exists_of_readValue hvalue
    refine ⟨w₁ ++ (encodeChar ';' ++ (w₂ ++ (name ++ (w₃ ++ (encodeChar '=' ++ (w₄ ++ taken)))))),
      by simp only [List.append_assoc], ?_, ?_⟩
    · have hname := List.length_pos_iff.mpr hne
      have hsemicolon := encodeChar_pos ';'
      have hequals := encodeChar_pos '='
      simp only [List.length_append]
      omega
    · exact List.mem_append_right _ (List.mem_append_left _ List.mem_cons_self)

/-! ### The turns of the reading -/

theorem rest_of_add {state next : State} {name value rest : Bytes}
    (h : state.add name value rest = .again next) : next.rest = rest := by
  simp only [State.add] at h
  split at h <;> split at h <;> cases h <;> rfl

/-- A turn that is not the last one uses up a parameter. -/
theorem takes_of_turn {state next : State} (h : turn state = .ok (.again next)) :
    Takes state.rest next.rest := by
  obtain ⟨rest, htrim, h⟩ := exists_of_bind_eq_ok h
  split at h
  · cases h
  obtain ⟨_ | ⟨⟨name, value⟩, behind⟩, hread, h⟩ := exists_of_bind_eq_ok h
  · obtain ⟨trimmed, -, h⟩ := exists_of_bind_eq_ok h
    split at h <;> cases h
  · obtain ⟨taken, rfl, hlength, hmem⟩ := takes_of_readParameter hread
    obtain ⟨w, hw⟩ := exists_of_trimStart htrim
    have hnext : next.rest = behind := rest_of_add (Except.ok.inj h)
    refine ⟨w ++ taken, by rw [hw, hnext, List.append_assoc], ?_, List.mem_append_right _ hmem⟩
    rw [List.length_append]
    exact Nat.le_add_left_of_le hlength

/-- Reads parameters up to the end, and counts the turns that it takes. -/
def readParameters (state : State) :
    Except BadSlice (Nat × Except Fault (Parameters × Parameters)) :=
  match _h : turn state with
  | .error bad => .error bad
  | .ok (.done outcome) => .ok (1, outcome)
  | .ok (.again next) => (readParameters next).map fun (turns, outcome) => (turns + 1, outcome)
termination_by state.rest.length
decreasing_by
  obtain ⟨taken, hrest, hlength, -⟩ := takes_of_turn _h
  rw [hrest, List.length_append]
  omega

/-- There is one turn for each semicolon at most, and the last one. -/
theorem turns_le {state : State} {turns : Nat} {outcome : Except Fault (Parameters × Parameters)}
    (h : readParameters state = .ok (turns, outcome)) :
    turns ≤ state.rest.count semicolon + 1 := by
  fun_induction readParameters state generalizing turns with
  | case1 => cases h
  | case2 =>
      cases h
      exact Nat.le_add_left _ _
  | case3 state next hturn ih =>
      obtain ⟨taken, hrest, -, hmem⟩ := takes_of_turn hturn
      cases hread : readParameters next with
      | error bad =>
          rw [hread] at h
          cases h
      | ok result =>
          rw [hread] at h
          cases h
          have hle := ih hread
          have hone : 1 ≤ taken.count semicolon := List.count_pos_iff.mpr hmem
          rw [hrest, List.count_append]
          omega

/-! ### Starred values and the whole header value -/

/-- Cuts at the first mark of a kind, which is in neither part. -/
def cutMark (mark : Char) (s : Bytes) : Except BadSlice (Option (Bytes × Bytes)) := do
  let some i := find? (· == mark) s | return none
  return some (← slice s 0 i, ← slice s (i + (encodeChar mark).length) s.length)

/-- The byte that hexadecimal digits spell. -/
def hexByte? (hex : Bytes) : Option UInt8 :=
  let digits := hex.map fun b => Char.ofNat b.toNat
  if digits.all fun c => (Text.hexDigit? c).isSome then some (UInt8.ofNat (Text.hexNumber digits))
  else none

def percent : UInt8 := 0x25

/-- Goes through the bytes of a text with percent escapes. The two digits of an escape are a slice of
the text; if it cannot be taken, the text spells nothing. -/
def decodeFrom (escapes : Bytes) (i : Nat) (decoded : Bytes) : Option Bytes :=
  match _h : escapes[i]? with
  | none => some decoded
  | some b =>
    if b = percent then
      match (slice? escapes (i + 1) (i + 3)).bind hexByte? with
      | none => none
      | some byte => decodeFrom escapes (i + 3) (decoded ++ [byte])
    else decodeFrom escapes (i + 1) (decoded ++ [b])
termination_by escapes.length - i
decreasing_by
  all_goals
    have hlt := (List.getElem?_eq_some_iff.mp _h).1
    omega

theorem decodeFrom_of_none {escapes decoded : Bytes} {i : Nat} (h : escapes[i]? = none) :
    decodeFrom escapes i decoded = some decoded := by
  rw [decodeFrom]
  split
  next => rfl
  next hb => cases h.symm.trans hb

theorem decodeFrom_of_some {escapes decoded : Bytes} {i : Nat} {b : UInt8}
    (h : escapes[i]? = some b) : decodeFrom escapes i decoded =
      if b = percent then
        ((slice? escapes (i + 1) (i + 3)).bind hexByte?).bind fun byte =>
          decodeFrom escapes (i + 3) (decoded ++ [byte])
      else decodeFrom escapes (i + 1) (decoded ++ [b]) := by
  rw [decodeFrom]
  split
  next hb => cases h.symm.trans hb
  next hb =>
    cases h.symm.trans hb
    cases (slice? escapes (i + 1) (i + 3)).bind hexByte? <;> rfl

/-- Decodes the value of a starred parameter. -/
def decodeStarred (raw : Bytes) : Except BadSlice (Option String) := do
  let some (charset, raw) ← cutMark '\'' raw | return none
  let some (_, escapes) ← cutMark '\'' raw | return none
  if loweredBytes charset = encode "utf-8" ∨ loweredBytes charset = encode "us-ascii" then
    return (decodeFrom escapes 0 []).bind decode?
  else return none

def addStarred (params : Parameters) (entry : String × String) : Except BadSlice Parameters := do
  match ← decodeStarred (encode entry.2) with
  | some value => return params.insert (dropStars entry.1) value
  | none => return params.insert entry.1 entry.2

/-- Splits in front of the first mark of a kind, or at the end. -/
def splitAtMark (mark : Char) (s : Bytes) : Except BadSlice (Bytes × Bytes) :=
  match find? (· == mark) s with
  | some i => splitAt s i
  | none => .ok (s, [])

/-- Parses a header value, and counts the turns of the reading of its parameters. -/
def parse (header : Bytes) : Except BadSlice (Nat × Except Fault Disposition) := do
  let (base, rest) ← splitAtMark ';' header
  let kind := loweredBytes (← trim base)
  match ← checkKind kind with
  | .error fault => return (0, .error fault)
  | .ok () =>
    match ← readParameters ⟨.empty, .empty, rest⟩ with
    | (turns, .error fault) => return (turns, .error fault)
    | (turns, .ok (plain, starred)) =>
      return (turns, .ok ⟨decodeLossy kind, ← starred.entries.foldlM addStarred plain⟩)

end AppAdmin.Disposition.Sliced
