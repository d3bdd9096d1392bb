import AppAdmin.Proofs.Disk
import AppAdmin.Proofs.Except
import AppAdmin.Settings

/-!
Where settings files are looked for. A path leads to one if it names a file, or if there is a file
with an end of a format behind the last name; a given path must, and the path of a user need not. The
order in which formats are tried does not matter for that.
-/

namespace AppAdmin

theorem Toml.parse?_empty : parse? "" = some [] := by
  have hskip : skipLines true [] = [] := by
    rw [skipLines]
    rfl
  have hstatements : readStatements? [] = some [] := by
    rw [readStatements?, List.length_nil, readStatementsIn?, hskip]
  rw [parse?, String.toList_empty, hstatements]
  rfl

namespace Settings

/-! ### Formats -/

/-- No two formats have an end in common. -/
theorem Format.eq_of_mem_extensions {format format' : Format} {e : String}
    (h : e ∈ format.extensions) (h' : e ∈ format'.extensions) : format = format' := by
  have hall : ∀ f ∈ all, ∀ f' ∈ all, ∀ e ∈ f.extensions, e ∈ f'.extensions → f = f' := by decide
  exact hall format (mem_all format) format' (mem_all format') e h h'

/-- The ends are those of all formats. -/
theorem Platform.mem_ends_iff {p : Platform} {e : String} {format : Format} :
    (e, format) ∈ p.ends ↔ e ∈ format.extensions := by
  simp [ends, p.complete]

theorem Platform.find?_ends_eq_some_iff {p : Platform} {e : String} {format : Format} :
    (p.ends.find? (·.1 == e)).map (·.2) = some format ↔ e ∈ format.extensions := by
  have hfound {found : String × Format} (h : p.ends.find? (·.1 == e) = some found) :
      e ∈ found.2.extensions := by
    have hname : found.1 = e := by simpa using List.find?_some h
    exact hname ▸ mem_ends_iff.mp (List.mem_of_find?_eq_some h)
  constructor
  · intro h
    obtain ⟨found, hsome, rfl⟩ := Option.map_eq_some_iff.mp h
    exact hfound hsome
  · intro h
    have hsome : (p.ends.find? (·.1 == e)).isSome = true :=
      List.find?_isSome.mpr ⟨(e, format), mem_ends_iff.mpr h, beq_self_eq_true e⟩
    obtain ⟨found, hsome⟩ := Option.isSome_iff_exists.mp hsome
    -- Some format has been found by its end, and there is only one with that end.
    rw [hsome, Option.map_some, Format.eq_of_mem_extensions (hfound hsome) h]

/-- The format of a name does not depend on the order of formats. -/
theorem Platform.formatOf?_eq_some_iff {p : Platform} {name : String} {format : Format} :
    p.formatOf? name = some format ↔ ∃ e ∈ format.extensions, extension? name = some e := by
  rw [formatOf?, Option.bind_eq_some_iff]
  simp only [find?_ends_eq_some_iff, and_comm]

/-! ### Places -/

/-- A path leads to a file, as it is or with an end of a format behind its last name. -/
def Found (d : Disk) (path : String) : Prop :=
  (∃ bytes, d.read path = .ok bytes) ∨
    ∃ folder name, d.locate path = folder ++ [name] ∧ name ≠ ".." ∧
      ∃ format : Format, ∃ e ∈ format.extensions,
        ∃ bytes, readPlace d (folder ++ [name ++ "." ++ e]) = .ok bytes

variable {p : Platform} {d : Disk} {env : Environment} {path : String} {bytes : Bytes}

theorem readPlace_eq_ok_iff {l : Location} : readPlace d l = .ok bytes ↔
    ∃ place, d.walk [] l = .ok place ∧ d.file? place = some bytes := by
  cases hwalk : d.walk [] l with
  | error fault => simp [readPlace, hwalk, bind, Except.bind]
  | ok place =>
      cases hfile : d.file? place with
      | none => simp [readPlace, hwalk, hfile, bind, Except.bind, throw, throwThe, MonadExceptOf.throw]
      | some found => simp [readPlace, hwalk, hfile, bind, Except.bind, pure, Except.pure]

theorem readPlace_locate (h : d.read path = .ok bytes) :
    readPlace d (d.locate path) = .ok bytes := by
  obtain ⟨place, hresolve, hfile⟩ := Disk.read_eq_ok_iff.mp h
  exact readPlace_eq_ok_iff.mpr ⟨place, (Disk.resolve_eq_ok_iff.mp hresolve).2.1, hfile⟩

theorem firstFile?_eq_none_iff {places : List (Location × Format)} : firstFile? d places = none ↔
    ∀ place ∈ places, ∀ bytes, readPlace d place.1 ≠ .ok bytes := by
  have hplace (l : Location) :
      (readPlace d l).toOption = none ↔ ∀ bytes, readPlace d l ≠ .ok bytes := by
    cases readPlace d l with
    | error fault => simp
    | ok found => simp
  simp only [firstFile?, List.findSome?_eq_none_iff, Option.map_eq_none_iff, hplace]

/-- The places of a path that is no file itself. -/
theorem places_of_unread {folder : Location} {name : String} {fault : Disk.Fault}
    (hread : d.read path = .error fault) (hlocate : d.locate path = folder ++ [name])
    (hup : name ≠ "..") :
    places p d path = .ok (p.ends.map fun e => (folder ++ [name ++ "." ++ e.1], e.2)) := by
  simp [places, hread, hlocate, hup]

/-- A settings file is missing if there is none at its places. -/
theorem readFile_eq_missing_iff_of_places {ps : List (Location × Format)}
    (h : places p d path = .ok ps) : readFile p d path = .error (.missing path) ↔
      ∀ place ∈ ps, ∀ bytes, readPlace d place.1 ≠ .ok bytes := by
  rw [readFile, h, ok_bind, ← firstFile?_eq_none_iff]
  cases hfirst : firstFile? d ps with
  | none => exact iff_of_true rfl rfl
  | some found =>
      refine iff_of_false (fun hmissing => ?_) nofun
      dsimp only at hmissing
      split at hmissing <;> cases hmissing

/-- **A settings file is missing exactly if its path leads to none.** -/
theorem readFile_eq_missing_iff :
    readFile p d path = .error (.missing path) ↔ ¬Found d path := by
  cases hread : d.read path with
  | ok bytes =>
      refine iff_of_false (fun hmissing => ?_) (not_not_intro (.inl ⟨bytes, hread⟩))
      cases hformat : p.formatOf? ((d.locate path).getLast?.getD "") with
      | none =>
          have hplaces : places p d path = .error (.unknownFormat (fromRoot d path)) := by
            simp only [places, hread, hformat]
          rw [readFile, hplaces] at hmissing
          cases hmissing
      | some format =>
          have hplaces : places p d path = .ok [(d.locate path, format)] := by
            simp only [places, hread, hformat]
          exact (readFile_eq_missing_iff_of_places hplaces).mp hmissing _ List.mem_cons_self bytes
            (readPlace_locate hread)
  | error fault =>
      have hunread : ¬∃ bytes, d.read path = .ok bytes := by simp [hread]
      rw [Found, or_iff_right hunread]
      obtain hnil | ⟨folder, name, hlocate⟩ := List.eq_nil_or_concat (d.locate path)
      · have hplaces : places p d path = .ok [] := by simp [places, hread, hnil]
        rw [readFile_eq_missing_iff_of_places hplaces, hnil]
        simp
      · rw [List.concat_eq_append] at hlocate
        by_cases hup : name = ".."
        · have hplaces : places p d path = .ok [] := by simp [places, hread, hlocate, hup]
          rw [readFile_eq_missing_iff_of_places hplaces, hlocate]
          simp [hup]
        · rw [readFile_eq_missing_iff_of_places (places_of_unread hread hlocate hup), hlocate,
            List.forall_mem_map, Prod.forall, forall_comm]
          simp [hup, Platform.mem_ends_iff]

theorem readFile_of_firstFile {ps : List (Location × Format)} {l : Location} {format : Format}
    {entries : List (String × Tree)} (hplaces : places p d path = .ok ps)
    (hfirst : firstFile? d ps = some (l, format, bytes))
    (hentries : p.entries? (d.relative l) (contentText bytes) format = some entries) :
    readFile p d path = .ok entries := by
  rw [readFile, hplaces, ok_bind, hfirst]
  simp only [hentries]
  rfl

/-- A file with an end of a format in its name gives the entries that it has in that format. -/
theorem readFile_of_read {name : String} {format : Format} {entries : List (String × Tree)}
    (h : d.read path = .ok bytes) (hname : (d.locate path).getLast? = some name)
    (hformat : ∃ e ∈ format.extensions, extension? name = some e)
    (hentries : p.entries? (d.relative (d.locate path)) (contentText bytes) format = some entries) :
    readFile p d path = .ok entries := by
  have hplaces : places p d path = .ok [(d.locate path, format)] := by
    simp only [places, h, hname, Option.getD_some, Platform.formatOf?_eq_some_iff.mpr hformat]
  refine readFile_of_firstFile hplaces ?_ hentries
  simp [firstFile?, readPlace_locate h]

theorem readFile_of_empty {name : String} (h : d.read path = .ok [])
    (hname : (d.locate path).getLast? = some name) (hformat : extension? name = some "toml") :
    readFile p d path = .ok [] := by
  have htoml : ∃ e ∈ Format.extensions .toml, extension? name = some e :=
    ⟨"toml", by decide, hformat⟩
  refine readFile_of_read h hname htoml ?_
  have hcontent : contentText [] = "" := rfl
  rw [Platform.entries?, hcontent, Toml.parse?_empty]
  rfl

/-! ### The file of a user -/

theorem exists_of_userFile (h : userFile? p env = some path) :
    ∃ folder, path = Disk.join folder "config.toml" := by
  obtain ⟨folder, -, rfl⟩ := Option.map_eq_some_iff.mp h
  exact ⟨_, rfl⟩

/-- A file of a user that is not there gives no settings. -/
theorem fileEntries_of_not_found (h : ∀ path, userFile? p env = some path → ¬Found d path) :
    fileEntries p d env none = .ok [] := by
  rw [fileEntries]
  split
  · rfl
  next path hpath => rw [readFile_eq_missing_iff.mpr (h path hpath)]

/-- A file of a user with nothing in it gives no settings. -/
theorem fileEntries_of_empty (h : ∀ path, userFile? p env = some path → d.read path = .ok []) :
    fileEntries p d env none = .ok [] := by
  rw [fileEntries]
  split
  · rfl
  next path hpath =>
      obtain ⟨folder, rfl⟩ := exists_of_userFile hpath
      have hname : (d.locate (Disk.join folder "config.toml")).getLast? = some "config.toml" := by
        have hfile : Disk.IsFileName "config.toml" := ⟨by decide, by decide, by decide, by decide⟩
        rw [Disk.locate, hfile.namesOf_join]
        split <;> simp
      rw [readFile_of_empty (h _ hpath) hname (by decide)]

end Settings

end AppAdmin
