import AppAdmin.Proofs.Except
import AppAdmin.Proofs.Settings.Tree
import AppAdmin.Settings

/-!
The keys of settings files. Whatever a file says, the table that is read from it has no key twice: a
TOML document that gives a key anew is refused, of equal keys in JSON the last one stays, and readers
of other formats give such tables only.
-/

namespace AppAdmin

open Settings (Distinct)

namespace Toml

namespace Section

/-- A change of entries which, where it is possible, lets no key come twice. -/
def KeepsDistinct (change : Entries → Option Entries) : Prop :=
  ∀ {es result}, change es = some result → Distinct es → Distinct result

theorem mem_keys_put {key k : String} {node : Node} {es : Entries}
    (h : k ∈ (put key node es).map Prod.fst) : k = key ∨ k ∈ es.map Prod.fst := by
  induction es with
  | nil => exact .inl (List.mem_singleton.mp h)
  | cons e es ih =>
      rw [put] at h
      split at h
      · exact .inr h
      · rw [List.map_cons, List.mem_cons] at h ⊢
        obtain h | h := h
        · exact .inr (.inl h)
        · exact (ih h).imp_right .inr

theorem distinct_put {es : Entries} (h : Distinct es) (key : String) (node : Node) :
    Distinct (put key node es) := by
  induction es with
  | nil => exact List.pairwise_singleton _ _
  | cons e es ih =>
      obtain ⟨hnew, hes⟩ := List.nodup_cons.mp h
      rw [put]
      split
      · exact h
      next hne =>
          refine List.nodup_cons.mpr ⟨fun hmem => ?_, ih hes⟩
          obtain heq | hold := mem_keys_put hmem
          · exact hne heq
          · exact hnew hold

theorem keepsDistinct_changeAt {dotted : Bool} {change : Entries → Option Entries}
    (h : KeepsDistinct change) (keys : List String) :
    KeepsDistinct (changeAt dotted change keys) := by
  intro es result hresult hes
  cases keys with
  | nil => exact h hresult hes
  | cons key keys =>
      -- The change is made further inside; out here the key gets a new meaning.
      have hput {inner : Option Entries} {node : Entries → Node}
          (h : (do return put key (node (← inner)) es) = some result) : Distinct result := by
        obtain ⟨changed, -, hchanged⟩ := Option.bind_eq_some_iff.mp h
        cases hchanged
        exact distinct_put hes key _
      rw [changeAt] at hresult
      split at hresult
      · exact hput hresult
      · split at hresult
        · cases hresult
        · exact hput hresult
      · split at hresult
        · cases hresult
        · exact hput hresult
      · cases hresult

theorem keepsDistinct_changeLast (dotted : Bool) (change : Option Node → Option Node)
    (keys : List String) : KeepsDistinct (changeLast dotted change keys) := by
  intro es result hresult hes
  rw [changeLast] at hresult
  split at hresult
  · cases hresult
  · refine keepsDistinct_changeAt (fun {inner changed} hchanged hinner => ?_) _ hresult hes
    obtain ⟨node, -, hnode⟩ := Option.bind_eq_some_iff.mp hchanged
    cases hnode
    exact distinct_put hinner _ node

theorem keys_toEntries (es : Entries) : (toEntries es).map Prod.fst = es.map Prod.fst := by
  induction es with
  | nil => rfl
  | cons e es ih => exact congrArg (e.1 :: ·) ih

end Section

theorem Draft.distinct_follow {d d' : Draft} {s : Statement} (h : d.follow s = some d')
    (hd : Distinct d.entries) : Distinct d'.entries := by
  cases s with
  | header keys | itemHeader keys =>
      obtain ⟨es, hes, heq⟩ := Option.bind_eq_some_iff.mp h
      cases heq
      exact Section.keepsDistinct_changeLast _ _ _ hes hd
  | assignment keys value =>
      obtain ⟨es, hes, heq⟩ := Option.bind_eq_some_iff.mp h
      cases heq
      exact Section.keepsDistinct_changeAt (Section.keepsDistinct_changeLast _ _ _) _ hes hd

theorem Draft.distinct_foldlM {d d' : Draft} {statements : List Statement}
    (h : statements.foldlM Draft.follow d = some d') (hd : Distinct d.entries) :
    Distinct d'.entries := by
  induction statements generalizing d with
  | nil =>
      cases h
      exact hd
  | cons s statements ih =>
      obtain ⟨next, hnext, hrest⟩ := Option.bind_eq_some_iff.mp h
      exact ih hrest (distinct_follow hnext hd)

/-- The top table of a document has no key twice. -/
theorem distinct_of_parse {s : String} {entries : List (String × Value)}
    (h : parse? s = some entries) : Distinct entries := by
  obtain ⟨statements, -, h⟩ := Option.bind_eq_some_iff.mp h
  obtain ⟨draft, hdraft, h⟩ := Option.bind_eq_some_iff.mp h
  cases h
  rw [Distinct, Section.keys_toEntries]
  exact Draft.distinct_foldlM hdraft .nil

end Toml

namespace Settings

theorem Tree.keys_ofTomlEntries (source : String) (es : List (String × Toml.Value)) :
    (ofTomlEntries source es).map Prod.fst = es.map Prod.fst := by
  induction es with
  | nil => rfl
  | cons e es ih => exact congrArg (e.1 :: ·) ih

theorem Tree.distinct_ofJsonMembers (source : String) (members : List (String × Json.Value)) :
    Distinct (ofJsonMembers source members) := by
  induction members with
  | nil => exact .nil
  | cons member members ih =>
      rw [ofJsonMembers]
      split
      · exact ih
      next hnone =>
          refine List.nodup_cons.mpr ⟨fun hmem => ?_, ih⟩
          obtain ⟨e, he, hkey⟩ := List.mem_map.mp hmem
          rw [Option.not_isSome_iff_eq_none, find?_eq_none_iff] at hnone
          exact hnone e he hkey

theorem Platform.distinct_entries {p : Platform} {format : Format} {source content : String}
    {entries : List (String × Tree)} (h : p.entries? source content format = some entries) :
    Distinct entries := by
  cases format with
  | toml =>
      obtain ⟨es, hes, rfl⟩ := Option.map_eq_some_iff.mp h
      rw [Distinct, Tree.keys_ofTomlEntries]
      exact Toml.distinct_of_parse hes
  | json =>
      rw [entries?] at h
      split at h
      · cases h
        exact Tree.distinct_ofJsonMembers source _
      · cases h
  | foreign f => exact (p.reader f).distinct h

/-- **The table of a settings file has no key twice.** -/
theorem distinct_of_readFile {p : Platform} {d : Disk} {path : String}
    {entries : List (String × Tree)} (h : readFile p d path = .ok entries) : Distinct entries := by
  obtain ⟨places, -, h⟩ := exists_of_bind_eq_ok h
  split at h
  · cases h
  · split at h
    next hentries =>
        cases h
        exact Platform.distinct_entries hentries
    · cases h

theorem distinct_of_fileEntries {p : Platform} {d : Disk} {env : Environment} {file : Option String}
    {entries : List (String × Tree)} (h : fileEntries p d env file = .ok entries) :
    Distinct entries := by
  cases file with
  | some path => exact distinct_of_readFile h
  | none =>
      rw [fileEntries] at h
      split at h
      · cases h
        exact .nil
      · split at h
        · cases h
        · cases h
          exact .nil
        next hread =>
            cases h
            exact distinct_of_readFile hread

end Settings

end AppAdmin
