import AppAdmin.Proofs.Disposition.Extended
import AppAdmin.Proofs.Disposition.Rendering
import Mathlib.Data.List.Sort

/-!
Header values that say the same in another arrangement: the parameters in another order, the kind and
the names in another case, other white space around the marks, the last semicolon there or not. The
outcome of parsing is the same, as what is found under a name does not depend on the order, and sorted
parameters are equal if the same is found under each name.
-/

namespace AppAdmin

namespace Parameters

theorem find_eq_some_of_mem {entries : List (String × String)} (h : Sorted entries)
    {entry : String × String} (hmem : entry ∈ entries) : find entry.1 entries = some entry.2 := by
  have hnodup : (entries.map Prod.fst).Nodup :=
    List.pairwise_map.mpr (h.imp fun hlt => ne_of_lt hlt)
  apply find_eq_some ⟨entry, hmem, rfl⟩
  intro other hother heq
  rw [List.inj_on_of_nodup_map hnodup hother hmem heq]

theorem mem_of_find {name value : String} {entries : List (String × String)}
    (h : find name entries = some value) : (name, value) ∈ entries := by
  induction entries with
  | nil => cases h
  | cons entry rest ih =>
      rw [find] at h
      split at h
      · rename_i heq
        rw [heq, ← Option.some.inj h]
        exact List.mem_cons_self
      · exact List.mem_cons_of_mem entry (ih h)

theorem Sorted.mem_iff {entries : List (String × String)} (h : Sorted entries) {name value : String} :
    (name, value) ∈ entries ↔ find name entries = some value :=
  ⟨find_eq_some_of_mem h, mem_of_find⟩

/-- Sorted parameters under whose names the same is found are equal. -/
theorem Sorted.ext {params others : Parameters} (h : Sorted params.entries)
    (h' : Sorted others.entries) (hsame : ∀ name, params.get? name = others.get? name) :
    params = others := by
  have hmem : ∀ entry, entry ∈ params.entries ↔ entry ∈ others.entries := by
    rintro ⟨name, value⟩
    rw [h.mem_iff, h'.mem_iff]
    exact Eq.congr_left (hsame name)
  have hperm : params.entries.Perm others.entries := by
    refine (List.perm_ext_iff_of_nodup ?_ ?_).mpr hmem
    · exact h.imp fun hlt heq => absurd (congrArg Prod.fst heq) (ne_of_lt hlt)
    · exact h'.imp fun hlt heq => absurd (congrArg Prod.fst heq) (ne_of_lt hlt)
  have hentries : params.entries = others.entries :=
    hperm.eq_of_pairwise (fun _ _ _ _ hlt hgt => absurd hgt (lt_asymm hlt)) h h'
  cases params
  cases others
  exact congrArg Parameters.mk hentries

end Parameters

namespace Disposition

/-! ### The order of the parameters -/

theorem sorted_collect (entries : List (String × String)) :
    Parameters.Sorted (collect entries).entries := by
  rw [collect, foldl_add, foldl_addStarred]
  apply Parameters.Sorted.insertAll
  apply Parameters.Sorted.insertAll
  exact .nil

theorem collect_eq_of_perm {entries others : List (String × String)} (hperm : others.Perm entries)
    (hnodup : (entries.map Prod.fst).Nodup) : collect others = collect entries :=
  Parameters.Sorted.ext (sorted_collect others) (sorted_collect entries)
    (get?_collect_of_perm hperm hnodup)

theorem KindFault.ne_duplicate {s : List Char} {fault : Fault} (h : KindFault s fault)
    {name : String} : fault ≠ .duplicateParameter name := by
  cases h <;> nofun

/-- Which header values are refused for a name that comes twice, of those that list parameters. -/
theorem Lists.duplicate_iff {entries : List (String × String)} {header : String}
    (h : Lists entries header) :
    (∃ name, parse header = .error (.duplicateParameter name)) ↔
      IsKind (kindPart header) ∧ ¬(entries.map Prod.fst).Nodup := by
  constructor
  · rintro ⟨name, herror⟩
    have hkind : IsKind (kindPart header) := by
      rcases isKind_or_fault (kindPart header) with hkind | ⟨fault, hfault⟩
      · exact hkind
      · rw [parse_of_kindFault hfault] at herror
        exact absurd (Except.error.inj herror) hfault.ne_duplicate
    refine ⟨hkind, fun hnodup => ?_⟩
    rw [h.parse_eq_ok_iff.mpr ⟨hkind, hnodup, rfl⟩] at herror
    cases herror
  · rintro ⟨hkind, hdup⟩
    obtain ⟨run, tail, heq, hrun, -⟩ := h.parameterPart
    obtain ⟨name, hfault⟩ := Run.duplicate .nil .nil hrun hdup tail
    rw [List.nil_append, ← heq] at hfault
    exact ⟨name, parse_of_parameterFault hkind hfault⟩

/-! ### Header values by their pieces -/

/-- A header value put together from a kind and pieces. The kind stands in front of the first semicolon,
in any case and with any white space around it; the case of the names and the white space around the
marks are free, and a semicolon may trail. -/
inductive Composed (kind : List Char) (pieces : List (String × List Char)) : String → Prop
  | mk {front text tail : List Char} : (∀ c ∈ front, c ≠ ';') →
      (Text.trim front).map Char.toLower = kind →
      (∀ piece ∈ pieces, Token piece.1.toList ∧ ∃ v, Value piece.2 v) → Written pieces text →
      Ending tail → Composed kind pieces (String.ofList (front ++ (text ++ tail)))

/-- Every run of parameters is written from pieces. -/
theorem Run.exists_written {text : List Char} {entries : List (String × String)}
    (h : Run text entries) : ∃ pieces : List (String × List Char),
      (∀ piece ∈ pieces, Token piece.1.toList ∧ ∃ v, Value piece.2 v) ∧ Written pieces text := by
  induction h with
  | nil => exact ⟨[], nofun, .nil⟩
  | cons hp _ ih =>
      obtain @⟨w₁, w₂, w₃, w₄, name, s, v, h₁, h₂, hn, h₃, h₄, hv⟩ := hp
      obtain ⟨pieces, hpieces, hwritten⟩ := ih
      have hname : name.map Char.toLower = (String.ofList (name.map Char.toLower)).toList :=
        String.toList_ofList.symm
      refine ⟨(_, s) :: pieces, ?_, .cons hname h₁ h₂ h₃ h₄ hwritten⟩
      refine List.forall_mem_cons.mpr ⟨⟨?_, v, hv⟩, hpieces⟩
      rw [← hname]
      exact token_map_toLower.mpr hn

variable {kind : List Char} {pieces others : List (String × List Char)} {header other : String}

theorem Lists.exists_composed {entries : List (String × String)} (h : Lists entries header) :
    ∃ kind pieces, Composed kind pieces header := by
  obtain ⟨hfront, hrun, htail⟩ := h
  obtain ⟨pieces, hpieces, hwritten⟩ := hrun.exists_written
  exact ⟨_, pieces, .mk hfront rfl hpieces hwritten htail⟩

theorem Composed.lists (h : Composed kind pieces header) :
    Lists (pieces.map entryOf) header ∧ (kindPart header).map Char.toLower = kind := by
  obtain ⟨hfront, hkind, hpieces, hwritten, htail⟩ := h
  have hrun := hwritten.run hpieces
  refine ⟨.mk hfront hrun htail, ?_⟩
  rw [(parts_of_run hfront hrun htail).1]
  exact hkind

theorem Written.names {text : List Char} (h : Written pieces text) :
    ∀ piece ∈ pieces, ∃ written : List Char, written.map Char.toLower = piece.1.toList := by
  induction h with
  | nil => exact nofun
  | cons hname _ _ _ _ _ ih => exact List.forall_mem_cons.mpr ⟨⟨_, hname⟩, ih⟩

/-- Pieces whose names are in lower case can be written down. -/
theorem exists_written
    (h : ∀ piece ∈ pieces, ∃ written : List Char, written.map Char.toLower = piece.1.toList) :
    ∃ text, Written pieces text := by
  induction pieces with
  | nil => exact ⟨[], .nil⟩
  | cons piece rest ih =>
      obtain ⟨⟨written, hwritten⟩, hrest⟩ := List.forall_mem_cons.mp h
      obtain ⟨more, hmore⟩ := ih hrest
      exact ⟨_, .cons hwritten .nil .nil .nil .nil hmore⟩

theorem Composed.exists_of_perm (h : Composed kind pieces header) (hperm : others.Perm pieces) :
    ∃ other, Composed kind others other := by
  obtain ⟨hfront, hkind, hpieces, hwritten, htail⟩ := h
  have hothers := fun piece hpiece => hpieces piece (hperm.subset hpiece)
  obtain ⟨text, htext⟩ := exists_written fun piece hpiece =>
    hwritten.names piece (hperm.subset hpiece)
  exact ⟨_, .mk hfront hkind hothers htext htail⟩

theorem Composed.parse_eq_ok_iff (h : Composed kind pieces header) {d : Disposition} :
    parse header = .ok d ↔ IsKind kind ∧ (pieces.map Prod.fst).Nodup ∧
      d = ⟨String.ofList kind, collect (pieces.map entryOf)⟩ := by
  obtain ⟨hlists, hkind⟩ := h.lists
  have hnames : (pieces.map entryOf).map Prod.fst = pieces.map Prod.fst := List.map_map
  rw [hlists.parse_eq_ok_iff, hnames, ← isKind_map_toLower, hkind]

theorem Composed.duplicate_iff (h : Composed kind pieces header) :
    (∃ name, parse header = .error (.duplicateParameter name)) ↔
      IsKind kind ∧ ¬(pieces.map Prod.fst).Nodup := by
  obtain ⟨hlists, hkind⟩ := h.lists
  have hnames : (pieces.map entryOf).map Prod.fst = pieces.map Prod.fst := List.map_map
  rw [hlists.duplicate_iff, hnames, ← isKind_map_toLower, hkind]

/-- **Order and spelling of the parameters have no part in what is parsed.** Every header value that is
accepted is put together from pieces, and the pieces can be put into any order. Two header values put
together from the same kind and the same pieces, in whatever order and however spelled, are accepted as
equal values, or neither is accepted; and if one is refused because a name comes twice, so is the other. -/
theorem parse_arranged (header : String) :
    (∀ d, parse header = .ok d → ∃ kind pieces, Composed kind pieces header) ∧
    ∀ kind pieces, Composed kind pieces header → ∀ others, others.Perm pieces →
      (∃ other, Composed kind others other) ∧
      ∀ other, Composed kind others other →
        (∀ d, parse other = .ok d ↔ parse header = .ok d) ∧
        ((∃ name, parse other = .error (.duplicateParameter name)) ↔
          ∃ name, parse header = .error (.duplicateParameter name)) := by
  constructor
  · intro d hd
    obtain ⟨entries, hlists⟩ := exists_lists hd
    exact hlists.exists_composed
  · intro kind pieces h others hperm
    refine ⟨h.exists_of_perm hperm, fun other h' => ⟨fun d => ?_, ?_⟩⟩
    · rw [h'.parse_eq_ok_iff, h.parse_eq_ok_iff, (hperm.map Prod.fst).nodup_iff]
      refine and_congr_right fun _ => and_congr_right fun hnodup => ?_
      have hentries : ((pieces.map entryOf).map Prod.fst).Nodup := by rwa [List.map_map]
      rw [collect_eq_of_perm (hperm.map entryOf) hentries]
    · rw [h'.duplicate_iff, h.duplicate_iff, (hperm.map Prod.fst).nodup_iff]

end Disposition

end AppAdmin
