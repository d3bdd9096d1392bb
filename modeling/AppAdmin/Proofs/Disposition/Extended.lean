import AppAdmin.Proofs.Disposition.Decoding
import AppAdmin.Proofs.Disposition.Listing

/-!
A name with one starred parameter beside it. If the starred value can be decoded it stands under the
name without the star, and otherwise as it is under its own, where it leaves the plain one alone.
-/

namespace AppAdmin.Disposition

open Text (lowered)

theorem isStarred_lowered {name : String} : IsStarred (lowered name) ↔ IsStarred name := by
  have hchar : ∀ c : Char, c.toLower = '*' ↔ c = '*' :=
    Text.toLower_cases (P := fun c d => d = '*' ↔ c = '*') (fun _ => Iff.rfl) (by decide)
  rw [IsStarred, IsStarred, lowered, String.toList_ofList, List.getLast?_map,
    Option.map_eq_some_iff]
  constructor
  · rintro ⟨c, hlast, hc⟩
    rw [hlast, (hchar c).mp hc]
  · intro hlast
    exact ⟨'*', hlast, rfl⟩

theorem lowered_append_star (name : String) : lowered (name ++ "*") = lowered name ++ "*" := by
  rw [Text.lowered_append, show lowered "*" = "*" by decide]

theorem ne_append_star (name : String) : name ≠ name ++ "*" :=
  ne_of_lt (lt_append_stars name 0)

/-! ### What counts under the two names -/

variable {entries : List (String × String)} {key raw : String}

theorem meant_star_of_decoded (hkey : ¬IsStarred key) {value : String}
    (hvalue : decodeStarred raw.toList = some value) :
    meant (key ++ "*", raw) = (key, value) := by
  have hmeant : meant (key ++ "*", raw) = (dropStars (key ++ "*"), value) :=
    meant_of_decoded (isStarred_append key) hvalue
  rw [hmeant, dropStars_append hkey]

theorem meant_star_of_undecoded (hvalue : decodeStarred raw.toList = none) :
    meant (key ++ "*", raw) = (key ++ "*", raw) :=
  meant_of_undecoded hvalue

/-- The name has one starred parameter, with one star. -/
structure OneStarred (entries : List (String × String)) (key raw : String) : Prop where
  plain : ¬IsStarred key
  mem : (key ++ "*", raw) ∈ entries
  only : ∀ entry ∈ entries, ∀ k, entry.1 = key ++ stars (k + 1) → entry.1 = key ++ "*"

theorem OneStarred.counts_decoded (h : OneStarred entries key raw) {value : String}
    (hvalue : decodeStarred raw.toList = some value) : Counts entries key (key ++ "*", raw) where
  mem := h.mem
  stands := congrArg Prod.fst (meant_star_of_decoded h.plain hvalue)
  greatest := by
    intro other hother hstands
    obtain ⟨k, hk⟩ := exists_stars_of_meant h.plain hstands
    cases k with
    | zero =>
        rw [hk, append_stars_zero]
        exact le_of_lt (lt_append_stars key 0)
    | succ k => exact le_of_eq (h.only other hother k hk)

theorem OneStarred.counts_undecoded (h : OneStarred entries key raw)
    (hvalue : decodeStarred raw.toList = none) :
    Counts entries (key ++ "*") (key ++ "*", raw) where
  mem := h.mem
  stands := congrArg Prod.fst (meant_star_of_undecoded hvalue)
  greatest := fun _ _ hstands => le_of_eq (eq_of_meant (isStarred_append key) hstands)

variable (hnodup : (entries.map Prod.fst).Nodup)
include hnodup

/-- A value that is decoded stands under the name without the star only. -/
theorem OneStarred.get?_of_decoded (h : OneStarred entries key raw) {value : String}
    (hvalue : decodeStarred raw.toList = some value) :
    (collect entries).get? key = some value ∧ (collect entries).get? (key ++ "*") = none := by
  have hmeant := meant_star_of_decoded h.plain hvalue
  constructor
  · rw [(h.counts_decoded hvalue).get?_collect hnodup, hmeant]
  · apply get?_collect_eq_none hnodup
    intro entry hentry hstands
    have hname : entry.1 = key ++ "*" := eq_of_meant (isStarred_append key) hstands
    have hsame : entry = (key ++ "*", raw) :=
      List.inj_on_of_nodup_map hnodup hentry h.mem hname
    rw [hsame, hmeant] at hstands
    exact ne_append_star key hstands

/-- A value that is not decoded stands as it is under its own name. -/
theorem OneStarred.get?_of_undecoded (h : OneStarred entries key raw)
    (hvalue : decodeStarred raw.toList = none) :
    (collect entries).get? (key ++ "*") = some raw := by
  rw [(h.counts_undecoded hvalue).get?_collect hnodup, meant_star_of_undecoded hvalue]

omit hnodup

/-- The order of the parameters has no part in what is found. -/
theorem get?_collect_of_perm {others : List (String × String)} (hperm : others.Perm entries)
    (hnodup : (entries.map Prod.fst).Nodup) (name : String) :
    (collect others).get? name = (collect entries).get? name := by
  have hothers : (others.map Prod.fst).Nodup := ((hperm.map Prod.fst).nodup_iff).mpr hnodup
  exact get?_collect_congr hothers hnodup fun entry _ => hperm.mem_iff

/-! ### Header values -/

/-- **One starred parameter beside a name.** A value that can be decoded takes the place of the plain
one. Any other value is kept as it is under its own name, and the plain one is what it is in the header
value without the starred parameter. The parameters may stand in any order. -/
theorem param?_extended {header name raw : String} {entries : List (String × String)}
    {d : Disposition} (hd : parse header = .ok d) (hlists : Lists entries header)
    (hname : ¬IsStarred name) (hraw : (lowered name ++ "*", raw) ∈ entries)
    (honly : ∀ entry ∈ entries, ∀ k,
      entry.1 = lowered name ++ stars (k + 1) → entry.1 = lowered name ++ "*") :
    (∀ value, Extended raw.toList value →
      d.param? name = some value ∧ d.param? (name ++ "*") = none) ∧
    ((∀ value, ¬Extended raw.toList value) →
      d.param? (name ++ "*") = some raw ∧
      (∃ others rest, Without (lowered name ++ "*", raw) others header rest) ∧
      ∀ others rest, Without (lowered name ++ "*", raw) others header rest →
        ∃ d', parse rest = .ok d' ∧ d'.param? name = d.param? name) ∧
    ∀ entries' header', entries'.Perm entries → Lists entries' header' →
      IsKind (kindPart header') → ∃ d', parse header' = .ok d' ∧
        d'.param? name = d.param? name ∧ d'.param? (name ++ "*") = d.param? (name ++ "*") := by
  obtain ⟨-, hnodup, hdeq⟩ := hlists.parse_eq_ok_iff.mp hd
  have hplain : ¬IsStarred (lowered name) := fun h => hname (isStarred_lowered.mp h)
  have hone : OneStarred entries (lowered name) raw := ⟨hplain, hraw, honly⟩
  have hparam : d.param? name = (collect entries).get? (lowered name) := by
    rw [param?, hdeq]
  have hparam' : d.param? (name ++ "*") = (collect entries).get? (lowered name ++ "*") := by
    rw [param?, hdeq, lowered_append_star]
  refine ⟨?decoded, ?undecoded, ?order⟩
  case decoded =>
    intro value hvalue
    rw [hparam, hparam']
    exact hone.get?_of_decoded hnodup (decodeStarred_eq_some_iff.mpr hvalue)
  case undecoded =>
    intro hvalue
    have hnone := decodeStarred_eq_none_iff.mpr hvalue
    refine ⟨?_, hlists.exists_without hraw, ?_⟩
    · rw [hparam']
      exact hone.get?_of_undecoded hnodup hnone
    · intro others rest hwithout
      refine ⟨_, (hwithout.parse hd).2.2, hwithout.param?_eq hd ?_⟩
      rw [meant_star_of_undecoded hnone]
      exact (ne_append_star (lowered name)).symm
  case order =>
    intro entries' header' hperm hlists' hkind
    have hnodup' := ((hperm.map Prod.fst).nodup_iff).mpr hnodup
    refine ⟨_, hlists'.parse_eq_ok_iff.mpr ⟨hkind, hnodup', rfl⟩, ?_, ?_⟩
    · rw [hparam, param?, get?_collect_of_perm hperm hnodup]
    · rw [hparam', param?, get?_collect_of_perm hperm hnodup, lowered_append_star]

theorem only_star_of_dropStars {name : String} (hname : ¬IsStarred name)
    (h : ∀ entry ∈ entries, IsStarred entry.1 → dropStars entry.1 = name → entry.1 = name ++ "*") :
    ∀ entry ∈ entries, ∀ k, entry.1 = name ++ stars (k + 1) → entry.1 = name ++ "*" := by
  intro entry hentry k hk
  apply h entry hentry
  · rw [hk]
    exact isStarred_append_stars name k
  · rw [hk]
    exact dropStars_append_stars hname (k + 1)

theorem param?_extended_filename : ∃ d,
    parse "attachment; filename=x.zip; FileName*=utf-8'fr'caf%C3%A9; title*=UTF-8''%+1; title=y" =
        .ok d ∧
      d.param? "filename" = some "café" ∧ d.param? "filename*" = none ∧
      d.param? "Title*" = some "UTF-8''%+1" := by
  have hx : Parameter "; filename=x.zip".toList ("filename", "x.zip") :=
    .of_tokens "filename".toList "x.zip".toList (by decide) (by decide)
  have hcafé : Parameter "; FileName*=utf-8'fr'caf%C3%A9".toList
      ("filename*", "utf-8'fr'caf%C3%A9") :=
    .of_tokens "FileName*".toList "utf-8'fr'caf%C3%A9".toList (by decide) (by decide)
  have htitle : Parameter "; title*=UTF-8''%+1".toList ("title*", "UTF-8''%+1") :=
    .of_tokens "title*".toList "UTF-8''%+1".toList (by decide) (by decide)
  have hy : Parameter "; title=y".toList ("title", "y") :=
    .of_tokens "title".toList "y".toList (by decide) (by decide)
  have hfront : ∀ c ∈ "attachment".toList, c ≠ ';' :=
    Text.forall_of_all (by decide)
  have hlists : Lists [("filename", "x.zip"), ("filename*", "utf-8'fr'caf%C3%A9"),
      ("title*", "UTF-8''%+1"), ("title", "y")]
      "attachment; filename=x.zip; FileName*=utf-8'fr'caf%C3%A9; title*=UTF-8''%+1; title=y" := by
    have hmk := Lists.mk hfront (.cons hx (.cons hcafé (.cons htitle (.cons hy .nil)))) (.blank .nil)
    simpa using hmk
  have hd := hlists.parse_eq_ok_iff.mpr ⟨Or.inl (by decide), by decide, rfl⟩
  obtain ⟨hdecoded, -⟩ := @param?_extended _ "filename" "utf-8'fr'caf%C3%A9" _ _ hd hlists
    (by decide) (by decide) (only_star_of_dropStars (by decide) (by decide))
  obtain ⟨-, hkept, -⟩ := @param?_extended _ "Title" "UTF-8''%+1" _ _ hd hlists
    (by decide) (by decide) (only_star_of_dropStars (by decide) (by decide))
  obtain ⟨hvalue, hnone⟩ := hdecoded "café" (decodeStarred_eq_some_iff.mp (by decide +kernel))
  exact ⟨_, hd, hvalue, hnone, (hkept (decodeStarred_eq_none_iff.mp (by decide +kernel))).1⟩

end AppAdmin.Disposition
