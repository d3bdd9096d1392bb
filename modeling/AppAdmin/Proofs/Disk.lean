import AppAdmin.Disk
import AppAdmin.Proofs.Url.Rereading

/-!
Paths and files. A file name put behind a folder is the last part of the path, and the file is found
in that folder. What is written to a file is all that is read from it, and no other file changes.
-/

namespace AppAdmin.Disk

/-! ### Parts of a path -/

/-- A name that is one part of a path: no way, no folder that every folder has, and not nothing. -/
structure IsFileName (name : String) : Prop where
  ne_empty : name ≠ ""
  unslashed : '/' ∉ name.toList
  ne_here : name ≠ "."
  ne_up : name ≠ ".."

theorem pieces_of_unslashed {name : String} (h : '/' ∉ name.toList) : pieces name = [name] := by
  have hunmarked : ∀ c ∈ name.toList, (c == '/') = false := by
    intro c hc
    rw [beq_eq_false_iff_ne]
    rintro rfl
    exact h hc
  rw [pieces, Url.pieces_of_unmarked hunmarked, List.map_singleton, String.ofList_toList]

theorem unslashed_of_mem_pieces {path name : String} (h : name ∈ pieces path) :
    '/' ∉ name.toList := by
  obtain ⟨piece, hpiece, rfl⟩ := List.mem_map.mp h
  rw [String.toList_ofList]
  intro hc
  exact absurd (Url.mem_pieces hpiece hc).2 (by simp)

theorem pieces_slash (before behind : String) :
    pieces (before ++ "/" ++ behind) = pieces before ++ pieces behind := by
  have hsplit : (before ++ "/" ++ behind).toList = before.toList ++ '/' :: behind.toList := by simp
  rw [pieces, hsplit, Url.pieces_append_mark rfl, List.map_append, pieces, pieces]

theorem pieces_ne_nil (path : String) : pieces path ≠ [] := by
  rw [pieces, ne_eq, List.map_eq_nil_iff]
  exact Url.pieces_ne_nil _ _

theorem namesOf_slash (before behind : String) :
    namesOf (before ++ "/" ++ behind) = namesOf before ++ namesOf behind := by
  rw [namesOf, pieces_slash, List.filter_append, namesOf, namesOf]

theorem beginning_slash (before behind : String) :
    beginning (before ++ "/" ++ behind) = beginning (before ++ "/") := by
  have habsolute : isAbsolute (before ++ "/" ++ behind) = isAbsolute (before ++ "/") := by
    simp [isAbsolute, List.head?_append]
  have hempty : before ++ "/" = before ++ "/" ++ "" := (String.append_empty).symm
  have hhead : (pieces (before ++ "/" ++ behind)).head? = (pieces (before ++ "/")).head? := by
    rw [pieces_slash, hempty, pieces_slash, List.head?_append_of_ne_nil _ (pieces_ne_nil _),
      List.head?_append_of_ne_nil _ (pieces_ne_nil _)]
  rw [beginning, habsolute, hhead, beginning]

theorem beginning_concat_slash {path : String} (h : path ≠ "") :
    beginning (path ++ "/") = beginning path := by
  have hne : path.toList ≠ [] := fun hnil => h (String.toList_inj.mp hnil)
  have habsolute : isAbsolute (path ++ "/") = isAbsolute path := by
    rw [isAbsolute, String.toList_append, List.head?_append_of_ne_nil _ hne, isAbsolute]
  have hempty : path ++ "/" = path ++ "/" ++ "" := (String.append_empty).symm
  have hhead : (pieces (path ++ "/")).head? = (pieces path).head? := by
    rw [hempty, pieces_slash, List.head?_append_of_ne_nil _ (pieces_ne_nil _)]
  rw [beginning, habsolute, hhead, beginning]

/-- A path below a folder has one slash behind the folder, be it new or not. -/
theorem exists_join_eq {folder path : String} (hfolder : folder ≠ "")
    (hpath : isAbsolute path = false) :
    ∃ before, join folder path = before ++ "/" ++ path ∧
      namesOf folder = namesOf before ∧ beginning folder = beginning (before ++ "/") := by
  have hno : ¬(isAbsolute path = true ∨ folder = "") := by simp [hpath, hfolder]
  rw [join, if_neg hno]
  split
  next hlast =>
      obtain ⟨front, hfront⟩ := List.getLast?_eq_some_iff.mp hlast
      have heq : folder = String.ofList front ++ "/" := by
        rw [← String.toList_inj, hfront]
        simp
      refine ⟨String.ofList front, by rw [heq], ?_, by rw [heq]⟩
      have hnames := namesOf_slash (String.ofList front) ""
      rwa [String.append_empty, ← heq, show namesOf "" = [] from rfl, List.append_nil] at hnames
  next => exact ⟨folder, rfl, rfl, (beginning_concat_slash hfolder).symm⟩

section FileName

variable {name : String} (h : IsFileName name)

include h

theorem IsFileName.isAbsolute_eq : isAbsolute name = false := by
  rw [isAbsolute, beq_eq_false_iff_ne]
  exact fun hhead => h.unslashed (List.mem_of_head? hhead)

theorem IsFileName.namesOf_eq : namesOf name = [name] := by
  simp [namesOf, pieces_of_unslashed h.unslashed, h.ne_empty, h.ne_here]

theorem IsFileName.parts_eq : parts name = [.name name] := by
  have hbeginning : beginning name = [] := by
    simp [beginning, h.isAbsolute_eq, pieces_of_unslashed h.unslashed, h.ne_here]
  simp [parts, hbeginning, h.namesOf_eq, Part.ofName, h.ne_up]

theorem IsFileName.namesOf_join (folder : String) :
    namesOf (join folder name) = namesOf folder ++ [name] := by
  by_cases hfolder : folder = ""
  · rw [join, if_pos (Or.inr hfolder), h.namesOf_eq, hfolder]
    rfl
  · obtain ⟨before, hjoin, hnames, -⟩ := exists_join_eq hfolder h.isAbsolute_eq
    rw [hjoin, namesOf_slash, h.namesOf_eq, hnames]

theorem IsFileName.beginning_join (folder : String) :
    beginning (join folder name) = beginning folder := by
  by_cases hfolder : folder = ""
  · have hparts := h.parts_eq
    rw [parts, h.namesOf_eq] at hparts
    rw [join, if_pos (Or.inr hfolder), hfolder]
    exact List.append_left_eq_self.mp (hparts.trans (by simp [Part.ofName, h.ne_up]))
  · obtain ⟨before, hjoin, -, hbeginning⟩ := exists_join_eq hfolder h.isAbsolute_eq
    rw [hjoin, beginning_slash, hbeginning]

/-- A file name put behind a folder is the last part of the path, and the folder is all the rest. -/
theorem IsFileName.parts_join (folder : String) :
    parts (join folder name) = parts folder ++ [.name name] := by
  rw [parts, h.beginning_join, h.namesOf_join, List.map_append, parts, List.append_assoc]
  simp [Part.ofName, h.ne_up]

end FileName

/-- The names that are the last name of themselves are those of files. -/
theorem lastName?_eq_self_iff {name : String} : lastName? name = some name ↔ IsFileName name := by
  constructor
  · intro h
    have hlast : (parts name).getLast? = some (.name name) := by
      rw [lastName?] at h
      split at h
      next s hs =>
          cases h
          exact hs
      next => cases h
    have hmem := List.mem_of_getLast? hlast
    rw [parts, List.mem_append] at hmem
    have hnames : name ∈ namesOf name ∧ name ≠ ".." := by
      obtain hmem | hmem := hmem
      · rw [beginning] at hmem
        grind
      · obtain ⟨other, hother, heq⟩ := List.mem_map.mp hmem
        rw [Part.ofName] at heq
        split at heq
        · cases heq
        next hup =>
            cases heq
            exact ⟨hother, hup⟩
    rw [namesOf, List.mem_filter] at hnames
    obtain ⟨⟨hpiece, hcounts⟩, hup⟩ := hnames
    rw [Bool.and_eq_true, bne_iff_ne, bne_iff_ne] at hcounts
    exact ⟨hcounts.1, unslashed_of_mem_pieces hpiece, hcounts.2, hup⟩
  · intro h
    rw [lastName?, h.parts_eq]
    rfl

/-! ### Ways to a place -/

variable {d : Disk} {here place : Location} {names : List String}

/-- All that lies on the way to a location from the root is a folder. -/
def LeadsTo (d : Disk) (l : Location) : Prop := ∀ l', l' <+: l → l' ≠ l → d.isFolder l' = true

theorem leadsTo_root (d : Disk) : d.LeadsTo [] := by
  intro l hl hne
  exact absurd (List.prefix_nil.mp hl) hne

theorem LeadsTo.dropLast (h : d.LeadsTo here) : d.LeadsTo here.dropLast := by
  intro l hl hne
  have hup := List.dropLast_prefix here
  refine h l (hl.trans hup) ?_
  rintro rfl
  exact hne (hl.eq_of_length_le hup.length_le)

theorem LeadsTo.concat (h : d.LeadsTo here) (hfolder : d.isFolder here = true) (name : String) :
    d.LeadsTo (here ++ [name]) := by
  intro l hl hne
  by_cases hhere : l = here
  · rw [hhere]
    exact hfolder
  · refine h l ?_ hhere
    rw [List.prefix_concat_iff] at hl
    exact hl.resolve_left hne

/-- One step of a way. -/
theorem walk_cons_eq_ok_iff {name : String} : d.walk here (name :: names) = .ok place ↔
    d.file? here = none ∧ d.isFolder here = true ∧
      d.walk (if name = ".." then here.dropLast else here ++ [name]) names = .ok place := by
  rw [walk]
  cases d.file? here with
  | some bytes => simp
  | none => cases d.isFolder here <;> by_cases hup : name = ".." <;> simp [hup]

theorem leadsTo_of_walk (hhere : d.LeadsTo here) (h : d.walk here names = .ok place) :
    d.LeadsTo place := by
  induction names generalizing here with
  | nil =>
      cases h
      exact hhere
  | cons name names ih =>
      obtain ⟨-, hfolder, hwalk⟩ := walk_cons_eq_ok_iff.mp h
      refine ih ?_ hwalk
      split
      · exact hhere.dropLast
      · exact hhere.concat hfolder name

theorem walk_concat {name : String} (hup : name ≠ "..")
    (h : d.walk here (names ++ [name]) = .ok place) :
    ∃ folder, d.walk here names = .ok folder ∧ d.file? folder = none ∧
      d.isFolder folder = true ∧ place = folder ++ [name] := by
  induction names generalizing here with
  | nil =>
      obtain ⟨hfile, hfolder, hwalk⟩ := walk_cons_eq_ok_iff.mp h
      rw [if_neg hup] at hwalk
      cases hwalk
      exact ⟨here, rfl, hfile, hfolder, rfl⟩
  | cons first names ih =>
      obtain ⟨hfile, hfolder, hwalk⟩ := walk_cons_eq_ok_iff.mp h
      obtain ⟨folder, hnames, hfound⟩ := ih hwalk
      exact ⟨folder, walk_cons_eq_ok_iff.mpr ⟨hfile, hfolder, hnames⟩, hfound⟩

theorem resolve_eq_ok_iff {path : String} : d.resolve path = .ok place ↔
    '\x00' ∉ path.toList ∧ d.walk [] (d.locate path) = .ok place ∧
      (namesFolder path = true → d.file? place = none) := by
  by_cases hzero : '\x00' ∈ path.toList
  · simp [resolve, hzero, throw, throwThe, MonadExceptOf.throw, bind, Except.bind]
  · cases hwalk : d.walk [] (d.locate path) with
    | error fault => simp [resolve, hzero, hwalk, bind, Except.bind]
    | ok there =>
        by_cases hbad : namesFolder path = true ∧ (d.file? there).isSome = true
        · have hresolve : d.resolve path = .error .notFolder := by
            simp [resolve, hzero, hwalk, hbad, bind, Except.bind, throw, throwThe,
              MonadExceptOf.throw]
          rw [hresolve]
          refine ⟨nofun, ?_⟩
          rintro ⟨-, heq, hnone⟩
          cases heq
          exact absurd (hnone hbad.1) (Option.isSome_iff_ne_none.mp hbad.2)
        · have hresolve : d.resolve path = .ok there := by
            simp [resolve, hzero, hwalk, hbad, bind, Except.bind, pure, Except.pure]
          rw [hresolve]
          constructor
          · intro heq
            cases heq
            exact ⟨hzero, rfl, by simpa using hbad⟩
          · exact fun h => h.2.1

theorem isAbsolute_iff_beginning {path : String} :
    isAbsolute path = true ↔ beginning path = [.root] := by
  rw [beginning]
  grind

theorem subset_join {folder path : String} (hpath : isAbsolute path = false) :
    folder.toList ⊆ (join folder path).toList := by
  by_cases hfolder : folder = ""
  · simp [hfolder]
  · rw [join, if_neg (by simp [hpath, hfolder])]
    split <;> simp

/-- A file in a folder is found where the folder is. -/
theorem IsFileName.resolve_join {folder name : String} (h : IsFileName name)
    (hplace : d.resolve (join folder name) = .ok place) :
    ∃ l, d.resolve folder = .ok l ∧ d.isFolder l = true ∧ place = l ++ [name] := by
  obtain ⟨hzero, hwalk, -⟩ := resolve_eq_ok_iff.mp hplace
  have habsolute : isAbsolute (join folder name) = isAbsolute folder := by
    rw [Bool.eq_iff_iff, isAbsolute_iff_beginning, isAbsolute_iff_beginning, h.beginning_join]
  have hlocate : d.locate (join folder name) = d.locate folder ++ [name] := by
    rw [locate, locate, habsolute, h.namesOf_join]
    split
    · rfl
    · rw [List.append_assoc]
  rw [hlocate] at hwalk
  obtain ⟨l, hl, hfile, hfolder, rfl⟩ := walk_concat h.ne_up hwalk
  refine ⟨l, resolve_eq_ok_iff.mpr ⟨?_, hl, fun _ => hfile⟩, hfolder, rfl⟩
  exact fun hmem => hzero (subset_join h.isAbsolute_eq hmem)

/-! ### Writing and reading -/

/-- The disk on which a place has a file with some bytes. -/
def put (d : Disk) (place : Location) (bytes : Bytes) : Disk :=
  { d with files := d.files.filter (·.1 != place) ++ [(place, bytes)] }

theorem write_eq_ok_iff {path : String} {bytes : Bytes} {d' : Disk} :
    d.write path bytes = .ok d' ↔ ∃ place, d.resolve path = .ok place ∧
      d.isFolder place = false ∧ namesFolder path = false ∧ d' = d.put place bytes := by
  cases hplace : d.resolve path with
  | error fault => simp [write, hplace, bind, Except.bind]
  | ok place =>
      by_cases hfolder : d.isFolder place = true ∨ namesFolder path = true
      · have hwrite : d.write path bytes = .error .isFolder := by
          simp [write, hplace, hfolder, bind, Except.bind, throw, throwThe, MonadExceptOf.throw]
        rw [hwrite]
        refine ⟨nofun, ?_⟩
        rintro ⟨_, heq, hfree, hname, -⟩
        cases heq
        simp [hfree, hname] at hfolder
      · rw [not_or, Bool.not_eq_true, Bool.not_eq_true] at hfolder
        have hwrite : d.write path bytes = .ok (d.put place bytes) := by
          simp [write, hplace, hfolder, bind, Except.bind, pure, Except.pure, put]
        simp [hwrite, hfolder, eq_comm (a := d')]

theorem file?_put (d : Disk) (place l : Location) (bytes : Bytes) :
    (d.put place bytes).file? l = if l = place then some bytes else d.file? l := by
  rw [file?, put, List.find?_append]
  by_cases hl : l = place
  · have hnone : (d.files.filter (·.1 != place)).find? (·.1 == place) = none := by
      simp [List.find?_eq_none]
    rw [hl, hnone]
    simp
  · have hother : (d.files.filter (·.1 != place)).find? (·.1 == l) = d.files.find? (·.1 == l) := by
      rw [List.find?_filter]
      congr 1
      funext f
      by_cases hf : f.1 = l <;> simp [hf, hl]
    have hplace : (place == l) = false := by
      rw [beq_eq_false_iff_ne]
      exact fun heq => hl heq.symm
    rw [hother, if_neg hl, List.find?_singleton, hplace]
    simp [file?]

theorem put_put (d : Disk) (place : Location) (bytes more : Bytes) :
    (d.put place bytes).put place more = d.put place more := by
  simp [put, List.filter_append]

/-- Whether a folder is known by what is in it. -/
theorem isFolder_eq_true_iff {l : Location} : d.isFolder l = true ↔
    l <+: d.directory ∨ (∃ folder ∈ d.folders, l <+: folder) ∨
      ∃ file ∈ d.files, l <+: file.1 ∧ l ≠ file.1 := by
  simp only [isFolder, Bool.or_eq_true, List.any_eq_true, List.isPrefixOf_iff_prefix,
    Bool.and_eq_true, bne_iff_ne, or_assoc, ne_comm]

/-- A file among folders makes no folder, and takes none away. -/
theorem LeadsTo.isFolder_put (h : d.LeadsTo place) (bytes : Bytes) (l : Location) :
    (d.put place bytes).isFolder l = d.isFolder l := by
  rw [Bool.eq_iff_iff]
  constructor
  · intro hfolder
    obtain hfolder | hfolder | ⟨file, hfile, hprefix, hne⟩ := isFolder_eq_true_iff.mp hfolder
    · exact isFolder_eq_true_iff.mpr (.inl hfolder)
    · exact isFolder_eq_true_iff.mpr (.inr (.inl hfolder))
    · rw [put, List.mem_append, List.mem_singleton] at hfile
      obtain hold | rfl := hfile
      · exact isFolder_eq_true_iff.mpr
          (.inr (.inr ⟨file, (List.mem_filter.mp hold).1, hprefix, hne⟩))
      · exact h l hprefix hne
  · intro hfolder
    obtain hfolder | hfolder | ⟨file, hfile, hprefix, hne⟩ := isFolder_eq_true_iff.mp hfolder
    · exact isFolder_eq_true_iff.mpr (.inl hfolder)
    · exact isFolder_eq_true_iff.mpr (.inr (.inl hfolder))
    · refine isFolder_eq_true_iff.mpr (.inr (.inr ?_))
      by_cases hplace : file.1 = place
      · rw [hplace] at hprefix hne
        exact ⟨(place, bytes), by simp [put], hprefix, hne⟩
      · exact ⟨file, by simp [put, hfile, hplace], hprefix, hne⟩

/-- The way to a place stays open when a file is put there. -/
theorem walk_put (h : d.LeadsTo place) (hplace : d.isFolder place = false) (bytes : Bytes)
    (hwalk : d.walk here names = .ok place) :
    (d.put place bytes).walk here names = .ok place := by
  induction names generalizing here with
  | nil => exact hwalk
  | cons name names ih =>
      obtain ⟨hfile, hfolder, hrest⟩ := walk_cons_eq_ok_iff.mp hwalk
      have hne : here ≠ place := by
        rintro rfl
        rw [hplace] at hfolder
        cases hfolder
      rw [walk_cons_eq_ok_iff, file?_put, if_neg hne, h.isFolder_put]
      exact ⟨hfile, hfolder, ih hrest⟩

/-- What a write does: it gives one place new bytes, and leaves all others alone. -/
structure Writes (d : Disk) (path : String) (bytes : Bytes) (d' : Disk) (place : Location) :
    Prop where
  found : d.resolve path = .ok place
  same : d'.resolve path = .ok place
  read : d'.read path = .ok bytes
  directory : d'.directory = d.directory
  folders : d'.folders = d.folders
  others : ∀ l, l ≠ place → d'.file? l = d.file? l

theorem resolve_put {path : String} (hplace : d.resolve path = .ok place)
    (hfolder : d.isFolder place = false) (hnames : namesFolder path = false) (bytes : Bytes) :
    (d.put place bytes).resolve path = .ok place := by
  obtain ⟨hzero, hwalk, -⟩ := resolve_eq_ok_iff.mp hplace
  have hleads := leadsTo_of_walk d.leadsTo_root hwalk
  refine resolve_eq_ok_iff.mpr ⟨hzero, walk_put hleads hfolder bytes hwalk, fun hbad => ?_⟩
  rw [hnames] at hbad
  cases hbad

theorem read_eq_ok_iff {path : String} {bytes : Bytes} : d.read path = .ok bytes ↔
    ∃ place, d.resolve path = .ok place ∧ d.file? place = some bytes := by
  cases hplace : d.resolve path with
  | error fault => simp [read, hplace, bind, Except.bind]
  | ok place =>
      cases hfile : d.file? place <;>
        simp [read, hplace, hfile, bind, Except.bind, pure, Except.pure, throw, throwThe,
          MonadExceptOf.throw]

theorem exists_writes {path : String} {bytes : Bytes} {d' : Disk}
    (h : d.write path bytes = .ok d') : ∃ place, d.Writes path bytes d' place := by
  obtain ⟨place, hplace, hfolder, hnames, rfl⟩ := write_eq_ok_iff.mp h
  have hsame := resolve_put hplace hfolder hnames bytes
  have hread : (d.put place bytes).read path = .ok bytes :=
    read_eq_ok_iff.mpr ⟨place, hsame, by rw [file?_put, if_pos rfl]⟩
  exact ⟨place, hplace, hsame, hread, rfl, rfl, fun l hl => by rw [file?_put, if_neg hl]⟩

/-- The last of two writes to a file is the one that counts, and it succeeds if the first does. -/
theorem write_write {path : String} {bytes : Bytes} {d' : Disk}
    (h : d.write path bytes = .ok d') (more : Bytes) : d'.write path more = d.write path more := by
  obtain ⟨place, hplace, hfolder, hnames, rfl⟩ := write_eq_ok_iff.mp h
  obtain ⟨-, hwalk, -⟩ := resolve_eq_ok_iff.mp hplace
  have hleads := leadsTo_of_walk d.leadsTo_root hwalk
  have hagain : (d.put place bytes).isFolder place = false := by
    rw [hleads.isFolder_put, hfolder]
  have hfirst : d.write path more = .ok (d.put place more) :=
    write_eq_ok_iff.mpr ⟨place, hplace, hfolder, hnames, rfl⟩
  have hsecond : (d.put place bytes).write path more = .ok ((d.put place bytes).put place more) :=
    write_eq_ok_iff.mpr ⟨place, resolve_put hplace hfolder hnames bytes, hagain, hnames, rfl⟩
  rw [hfirst, hsecond, put_put]

/-- Whether a file can be created has nothing to do with its bytes. -/
theorem exists_write {path : String} {bytes : Bytes} {d' : Disk}
    (h : d.write path bytes = .ok d') (more : Bytes) : ∃ d'', d.write path more = .ok d'' := by
  obtain ⟨place, hplace, hfolder, hnames, -⟩ := write_eq_ok_iff.mp h
  exact ⟨_, write_eq_ok_iff.mpr ⟨place, hplace, hfolder, hnames, rfl⟩⟩

end AppAdmin.Disk
