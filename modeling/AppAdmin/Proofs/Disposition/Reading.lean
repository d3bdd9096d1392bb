import AppAdmin.Proofs.Disposition.Grammar

/-!
How parameters are read: they are taken one after the other for as long as they are well formed and
new. Every text splits into such a run and something behind it, and a run is taken as a whole.
-/

namespace AppAdmin.Disposition

open Text (Blank)

/-! ### Runs of parameters -/

/-- The last token of a parameter can be carried on to where it ends. -/
theorem Parameter.extend {s : List Char} {entry : String × String} (h : Parameter s entry)
    (rest : List Char) : ∃ more rest' value, rest = more ++ rest' ∧
      Parameter (s ++ more) (entry.1, value) ∧ Apart (s ++ more) rest' := by
  obtain @⟨w₁, w₂, w₃, w₄, name, s, v, h₁, h₂, hn, h₃, h₄, hv⟩ := h
  cases hv with
  | token ht =>
      refine ⟨tokenOf rest, afterToken rest, String.ofList (s ++ tokenOf rest),
        (tokenOf_append_afterToken rest).symm, ?_, fun _ _ _ => endsToken_afterToken rest⟩
      have hlong : Token (s ++ tokenOf rest) := by
        refine ⟨List.append_ne_nil_of_left_ne_nil ht.1 _, fun c hc => ?_⟩
        exact (List.mem_append.mp hc).elim (ht.2 c) isTokenChar_of_mem_tokenOf
      have hp := Parameter.mk h₁ h₂ hn h₃ h₄ (.token hlong)
      simpa only [List.append_assoc, List.cons_append] using hp
  | @quoted q v hq =>
      refine ⟨[], rest, String.ofList v, rfl, ?_, ?_⟩
      · simpa only [List.append_nil] using Parameter.mk h₁ h₂ hn h₃ h₄ (.quoted hq)
      · intro c hc ht
        have hlast : c = '"' := by
          rw [Option.mem_def] at hc
          simpa [List.getLast?_append, List.getLast?_cons, eq_comm] using hc
        rw [hlast] at ht
        exact absurd ht (by decide)

/-- A text on which no parameter is read begins with none. -/
theorem not_parameter_of_readParameter {s rest : List Char} (h : readParameter (s ++ rest) = none)
    {entry : String × String} : ¬Parameter s entry := by
  intro hp
  obtain ⟨more, rest', value, rfl, hlong, hapart⟩ := hp.extend rest
  rw [← List.append_assoc, readParameter_append hlong hapart] at h
  cases h

theorem Run.endsToken {s : List Char} {entries : List (String × String)} (h : Run s entries)
    (hne : s ≠ []) (rest : List Char) : EndsToken (s ++ rest) := by
  cases h with
  | nil => exact absurd rfl hne
  | cons hp _ =>
      obtain ⟨c, s, rfl, hc⟩ := hp.head
      exact .cons hc

theorem Apart.of_endsToken {s rest : List Char} (h : EndsToken rest) : Apart s rest :=
  fun _ _ _ => h

theorem Apart.append {s t rest : List Char} (hs : Apart s (t ++ rest)) (ht : Apart t rest) :
    Apart (s ++ t) rest := by
  intro c hc hchar
  cases t with
  | nil => exact hs c (by simpa using hc) hchar
  | cons d t =>
      refine ht c ?_ hchar
      rw [Option.mem_def] at hc ⊢
      simpa [List.getLast?_append, List.getLast?_cons] using hc

/-- In a run every parameter is apart from what follows it. -/
theorem Run.apart_head {s t rest : List Char} {entries : List (String × String)} (h : Run t entries)
    (hr : Apart (s ++ t) rest) : Apart s (t ++ rest) := by
  cases t with
  | nil => simpa using hr
  | cons c t => exact .of_endsToken (h.endsToken (List.cons_ne_nil _ _) rest)

theorem Apart.of_append {s t rest : List Char} (hr : Apart (s ++ t) rest) : Apart t rest := by
  intro c hc
  apply hr c
  rw [Option.mem_def] at hc ⊢
  simp [List.getLast?_append, hc]

theorem Run.append {s t : List Char} {front back : List (String × String)} (hs : Run s front)
    (ht : Run t back) : Run (s ++ t) (front ++ back) := by
  induction hs with
  | nil => exact ht
  | cons hp _ ih =>
      rw [List.append_assoc]
      exact .cons hp ih

/-- The last token of a run can be carried on to where it ends. -/
theorem Run.extend {s : List Char} {entries : List (String × String)} (h : Run s entries)
    (rest : List Char) : ∃ long behind others, rest = long ++ behind ∧ Run (s ++ long) others ∧
      Apart (s ++ long) behind := by
  induction h with
  | nil => exact ⟨[], rest, [], rfl, .nil, nofun⟩
  | @cons p t entry entries hp ht ih =>
      by_cases hnil : t = []
      · subst hnil
        obtain ⟨long, behind, value, hrest, hlong, hapart⟩ := hp.extend rest
        refine ⟨long, behind, [(entry.1, value)], hrest, ?_, by rwa [List.append_nil]⟩
        simpa using Run.cons hlong .nil
      · obtain ⟨long, behind, others, rfl, hrun, hapart⟩ := ih
        refine ⟨long, behind, entry :: others, rfl, ?_, ?_⟩
        · rw [List.append_assoc]
          exact .cons hp hrun
        · rw [List.append_assoc]
          refine Apart.append (.of_endsToken ?_) hapart
          rw [List.append_assoc]
          exact ht.endsToken hnil _

/-- A run with no parameter behind it is the longest at its place. -/
theorem Run.length_le {s rest : List Char} {entries : List (String × String)} (h : Run s entries)
    (hr : Apart s rest) (hnone : readParameter rest = none) {t more : List Char}
    {others : List (String × String)} (ht : Run t others) (heq : s ++ rest = t ++ more) :
    t.length ≤ s.length := by
  induction h generalizing t others with
  | nil =>
      cases ht with
      | nil => exact Nat.le_refl _
      | cons hp _ =>
          rw [List.nil_append, List.append_assoc] at heq
          rw [heq] at hnone
          exact absurd hp (not_parameter_of_readParameter hnone)
  | @cons p s entry entries hp hs ih =>
      cases ht with
      | nil => exact Nat.zero_le _
      | @cons q t other others hq ht =>
          have hfirst := readParameter_append hp (hs.apart_head hr)
          rw [List.append_assoc, List.append_assoc] at heq
          -- the last token of the other run may stop short of where the reader takes it
          by_cases hnil : t = []
          · subst hnil
            obtain ⟨long, behind, value, hmore, hlong, hapart⟩ := hq.extend more
            have hsecond := readParameter_append hlong hapart
            rw [List.append_assoc, ← hmore, ← List.nil_append more, ← heq, hfirst] at hsecond
            have hbehind : s ++ rest = behind := congrArg Prod.snd (Option.some.inj hsecond)
            rw [List.nil_append, hmore, ← hbehind, ← List.append_assoc q] at heq
            have hpq : p = q ++ long := List.append_cancel_right heq
            simp only [hpq, List.length_append, List.length_nil]
            omega
          · have hsecond := readParameter_append hq (.of_endsToken (ht.endsToken hnil more))
            rw [← heq, hfirst] at hsecond
            have htail : s ++ rest = t ++ more := congrArg Prod.snd (Option.some.inj hsecond)
            have hpq : p = q := List.append_cancel_right (htail ▸ heq)
            have hlength := ih (Apart.of_append hr) ht htail
            simp only [hpq, List.length_append]
            omega

/-- Every text is a run of new parameters and something behind it: an end, a parameter that comes a
second time, or what is neither end nor parameter. -/
theorem exists_run (s : List Char) (seen : List String) : ∃ t rest entries,
    s = t ++ rest ∧ Run t entries ∧ Apart t rest ∧ (entries.map Prod.fst).Nodup ∧
      (∀ entry ∈ entries, entry.1 ∉ seen) ∧
      (readParameter rest = none ∨ ∃ p more entry, rest = p ++ more ∧ Parameter p entry ∧
        Apart p more ∧ entry.1 ∈ seen ++ entries.map Prod.fst) := by
  cases h : readParameter s with
  | none => exact ⟨[], s, [], rfl, .nil, nofun, .nil, nofun, .inl h⟩
  | some found =>
      obtain ⟨⟨name, value⟩, rest⟩ := found
      obtain ⟨p, rfl, hp, hapart⟩ := parameter_of_readParameter h
      by_cases hseen : String.ofList name ∈ seen
      · exact ⟨[], p ++ rest, [], rfl, .nil, nofun, .nil, nofun,
          .inr ⟨p, rest, _, rfl, hp, hapart, List.mem_append_left _ hseen⟩⟩
      · have hlt := length_readParameter h
        obtain ⟨t, behind, entries, rfl, ht, htail, hnodup, hnew, hstop⟩ :=
          exists_run rest (String.ofList name :: seen)
        refine ⟨p ++ t, behind, _ :: entries, (List.append_assoc ..).symm, .cons hp ht, ?_, ?_, ?_,
          ?_⟩
        · exact hapart.append htail
        · rw [List.map_cons, List.nodup_cons]
          refine ⟨fun hmem => ?_, hnodup⟩
          obtain ⟨entry, hentry, heq⟩ := List.mem_map.mp hmem
          exact hnew entry hentry (heq ▸ List.mem_cons_self)
        · rintro entry (_ | ⟨_, hentry⟩)
          · exact hseen
          · exact fun hmem => hnew entry hentry (List.mem_cons_of_mem _ hmem)
        · refine hstop.imp_right ?_
          rintro ⟨q, more, entry, rfl, hq, hqa, hmem⟩
          refine ⟨q, more, entry, rfl, hq, hqa, ?_⟩
          simpa [or_left_comm] using hmem
termination_by s.length

/-! ### One parameter after the other -/

/-- The parameters read so far: the plain ones and the starred ones. -/
abbrev Read := Parameters × Parameters

/-- Whether a parameter of a name has been read. -/
def Read.has (read : Read) (name : String) : Bool :=
  if name.toList.getLast? = some '*' then (read.2.get? name).isSome else (read.1.get? name).isSome

/-- What has been read, with one parameter more. -/
def Read.add (read : Read) (entry : String × String) : Read :=
  if entry.1.toList.getLast? = some '*' then (read.1, read.2.insert entry.1 entry.2)
  else (read.1.insert entry.1 entry.2, read.2)

theorem Read.has_add (read : Read) (entry : String × String) (name : String) :
    (read.add entry).has name = (decide (name = entry.1) || read.has name) := by
  by_cases hname : name = entry.1
  · subst hname
    unfold has add
    split <;> simp [Parameters.get?_insert]
  · unfold has add
    split <;> split <;> simp [Parameters.get?_insert, hname]

theorem Read.has_empty (name : String) : Read.has (.empty, .empty) name = false := by
  simp [has, Parameters.get?, Parameters.empty, Parameters.find]

theorem Read.has_foldl_add (entries : List (String × String)) (read : Read) (name : String) :
    (entries.foldl add read).has name =
      (decide (name ∈ entries.map Prod.fst) || read.has name) := by
  induction entries generalizing read with
  | nil => simp
  | cons entry entries ih =>
      rw [List.foldl_cons, ih, has_add]
      simp only [List.map_cons, List.mem_cons, Bool.decide_or, Bool.or_assoc, Bool.or_left_comm]

theorem readParameters_of_some {read : Read} {s rest : List Char} {entry : String × String}
    (h : readParameter s = some ((entry.1.toList, entry.2.toList), rest)) :
    readParameters read.1 read.2 s =
      if read.has entry.1 then .error (.duplicateParameter entry.1)
      else readParameters (read.add entry).1 (read.add entry).2 rest := by
  have hne : Text.trimStart s ≠ [] := by
    intro hnil
    rw [← readParameter_trimStart, hnil] at h
    cases h
  rw [← readParameter_trimStart] at h
  rw [readParameters, if_neg hne]
  split
  · rename_i hnone
    rw [h] at hnone
    cases hnone
  · rename_i name value rest' hsome
    rw [h] at hsome
    cases hsome
    simp only [String.ofList_toList, Read.has, Read.add]
    split <;> rfl

theorem readParameters_of_none {read : Read} {s : List Char} (h : readParameter s = none) :
    readParameters read.1 read.2 s =
      if Text.trimStart s = [] ∨ Text.trim s = [';'] then .ok read
      else .error .invalidParameter := by
  rw [← readParameter_trimStart] at h
  rw [readParameters]
  split
  · rename_i hnil
    rw [if_pos (.inl hnil)]
  · rename_i hne
    split
    · simp [hne]
    · rename_i hsome
      rw [h] at hsome
      cases hsome

theorem ending_iff {s : List Char} : Ending s ↔ Text.trimStart s = [] ∨ Text.trim s = [';'] := by
  rw [Text.trimStart_eq_nil_iff, Text.trim_eq_singleton_iff (by decide)]
  constructor
  · rintro (h | ⟨h₁, h₂⟩)
    · exact .inl h
    · exact .inr ⟨_, _, h₁, h₂, rfl⟩
  · rintro (h | ⟨w₁, w₂, h₁, h₂, rfl⟩)
    · exact .blank h
    · exact .semicolon h₁ h₂

theorem Ending.endsToken {s : List Char} (h : Ending s) : EndsToken s := by
  cases h with
  | blank hw =>
      intro c hc
      exact isTokenChar_eq_false_of_isBlank (hw c (List.mem_of_head? hc))
  | semicolon h₁ h₂ => exact .mark h₁ (by decide) _

theorem Ending.readParameter {s : List Char} (h : Ending s) : readParameter s = none := by
  cases h with
  | blank h => simp [Disposition.readParameter, readMark, Text.trimStart_eq_nil_iff.mpr h]
  | semicolon h₁ h₂ =>
      have hmark := readMark_append (by decide : Text.isBlank ';' = false) h₁ h₂ []
      rw [List.append_nil] at hmark
      simp [Disposition.readParameter, hmark, Text.trimStart, tokenOf]

/-- A run of new parameters is taken as a whole. -/
theorem readParameters_append {s rest : List Char} {entries : List (String × String)}
    (h : Run s entries) (hr : Apart s rest) (hnodup : (entries.map Prod.fst).Nodup) (read : Read)
    (hnew : ∀ entry ∈ entries, read.has entry.1 = false) :
    readParameters read.1 read.2 (s ++ rest) =
      readParameters (entries.foldl Read.add read).1 (entries.foldl Read.add read).2 rest := by
  induction h generalizing read with
  | nil => rfl
  | @cons p t entry entries hp ht ih =>
      have hfirst := readParameter_append hp (ht.apart_head hr)
      obtain ⟨hnot, hnodup⟩ := List.nodup_cons.mp hnodup
      rw [List.append_assoc, readParameters_of_some hfirst, hnew entry List.mem_cons_self]
      refine ih (Apart.of_append hr) hnodup (read.add entry) (fun other hother => ?_)
      rw [Read.has_add, hnew other (List.mem_cons_of_mem _ hother), Bool.or_false]
      refine decide_eq_false (fun heq => hnot ?_)
      rw [← heq]
      exact List.mem_map_of_mem hother

end AppAdmin.Disposition
