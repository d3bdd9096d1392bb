import AppAdmin.Json.Record
import AppAdmin.Proofs.Json.Passing
import AppAdmin.Proofs.Json.Shape

/-!
Readers of known types. A reader means a type of values: it takes exactly the trees that say such a
value, with any blanks in front, and is then at the end of the tree. The meaning of a list or a record
follows from that of its parts.
-/

namespace AppAdmin.Json

variable {α β σ : Type}

/-- The reader takes a tree as what it means, and nothing more. -/
def Reads (read : Reader α) (means : Tree → Option α) : Prop :=
  ∀ (t : Tree) (gap : Blanks) (rest : Bytes), Ended rest →
    (read (gap.bytes ++ (t.bytes ++ rest))).toOption = (means t).map fun a => (a, rest)

theorem Reads.apply {read : Reader α} {means : Tree → Option α} (h : Reads read means) (t : Tree)
    {rest : Bytes} (hrest : Ended rest) :
    (read (t.bytes ++ rest)).toOption = (means t).map fun a => (a, rest) :=
  h t .none rest hrest

theorem Reads.map {read : Reader α} {means : Tree → Option α} (h : Reads read means) (f : α → β) :
    Reads (fun s => (read s).map fun (a, rest) => (f a, rest)) fun t => (means t).map f := by
  intro t gap rest hrest
  dsimp only
  rw [toOption_map, h t gap rest hrest, Option.map_map, Option.map_map]
  rfl

theorem reads_text : Reads text Tree.text? := by
  intro t gap rest _
  obtain ⟨b, s, hbytes, hopens⟩ := t.exists_opens
  by_cases htext : b = 0x22
  · obtain ⟨spelling, rfl⟩ := hopens.text htext
    rw [Tree.bytes, List.cons_append, List.append_assoc, List.singleton_append, text,
      skipBlank_blanks, skipBlank_cons rfl]
    exact readText_spelling spelling rest
  · have hnone : t.text? = none := by
      cases t with
      | text s' => exact absurd (List.cons.inj hbytes).1.symm htext
      | _ => rfl
    rw [hbytes, List.cons_append, text, skipBlank_blanks, skipBlank_cons hopens.blank, hnone]
    dsimp only
    rw [if_neg htext]
    rfl

theorem Reads.orDefault {read : Reader α} {means : Tree → Option α} (h : Reads read means)
    (default : α) : Reads (orDefault default read) (Tree.orNull default means) := by
  intro t gap rest hrest
  obtain ⟨b, s, hbytes, hopens⟩ := t.exists_opens
  rw [Json.orDefault, skipBlank_blanks, Tree.orNull]
  by_cases hnull : b = 0x6E
  · rw [hopens.null hnull]
    rfl
  · have hvalue : ¬t.isNull = true := by
      cases t with
      | null => exact absurd (List.cons.inj hbytes).1.symm hnull
      | _ => exact Bool.false_ne_true
    have hread := h.apply t hrest
    rw [hbytes, List.cons_append] at hread
    rw [if_neg hvalue, hbytes, List.cons_append, skipBlank_cons hopens.blank]
    dsimp only
    rw [if_neg hnull]
    exact hread

/-! ### Lists -/

/-- An item begins behind its blanks and its comma. -/
theorem nextItem_tree (gap lead : Blanks) (first : Bool) (t : Tree) (rest : Bytes) :
    nextItem first (gap.bytes ++ (commaBytes first ++ (lead.bytes ++ (t.bytes ++ rest)))) =
      .ok (.item (t.bytes ++ rest)) := by
  obtain ⟨b, s, hbytes, hopens⟩ := t.exists_opens
  rw [hbytes]
  exact gap.nextItem_item lead first _ hopens.blank hopens.close

theorem Reads.listFrom {item : Reader α} {means : Tree → Option α} (h : Reads item means) :
    ∀ (items : Items) (fuel : Nat) (first : Bool) (rest : Bytes), items.toList.length < fuel →
      (listFrom item fuel first (items.bytes first ++ rest)).toOption =
        (items.toList.mapM means).map fun as => (as, rest)
  | _, 0, _, _, hfuel => absurd hfuel (Nat.not_lt_zero _)
  | .close gap, fuel + 1, first, rest, _ => by
    rw [Items.bytes, List.append_assoc, List.singleton_append, Json.listFrom, gap.nextItem_close]
    rfl
  | .item gap lead value items, fuel + 1, first, rest, hfuel => by
    have hvalue := h.apply value (items.ended rest)
    have hitems := h.listFrom items fuel false rest (Nat.lt_of_succ_lt_succ hfuel)
    simp only [Items.bytes, List.append_assoc]
    rw [Json.listFrom, nextItem_tree]
    simp only [ok_bind, toOption_bind, toOption_pure, hvalue, Items.toList, List.mapM_cons]
    cases means value with
    | none => rfl
    | some a =>
        simp only [Option.map_some, Option.bind_some, hitems]
        cases items.toList.mapM means <;> rfl

theorem Reads.list {item : Reader α} {means : Tree → Option α} (h : Reads item means) :
    Reads (list item) (Tree.list? means) := by
  intro t gap rest _
  obtain ⟨b, s, hbytes, hopens⟩ := t.exists_opens
  by_cases hlist : b = 0x5B
  · obtain ⟨items, rfl⟩ := hopens.list hlist
    have hlength := items.length_lt true
    rw [Tree.bytes, List.cons_append, Json.list, skipBlank_blanks, skipBlank_cons rfl]
    refine h.listFrom items _ true rest ?_
    rw [List.length_append]
    omega
  · have hnone : t.list? means = none := by
      cases t with
      | list items => exact absurd (List.cons.inj hbytes).1.symm hlist
      | _ => rfl
    rw [hbytes, List.cons_append, Json.list, skipBlank_blanks, skipBlank_cons hopens.blank, hnone]
    dsimp only
    rw [if_neg hlist]
    rfl

/-! ### Records -/

/-- The fields read what the shape says, each into its own place. -/
structure Shape.Fits (shape : Shape σ β) (fields : List (Field σ)) (blank : σ) : Prop where
  names : fields.map Field.name = shape.names
  blank : blank = shape.build fun _ => shape.default
  reads : ∀ field ∈ fields, ∃ set : β → σ → σ,
    Reads field.read (fun t => (t.orNull shape.default shape.means).map set) ∧
      ∀ g v, set v (shape.build g) = shape.build (Function.update g field.name v)

theorem endOfList_of_ne {s : Bytes} {b : UInt8} (hhead : (skipBlank s).head? = some b)
    (hclose : b ≠ 0x5D) : (endOfList s).toOption = none := by
  obtain ⟨after, hskip⟩ := List.head?_eq_some_iff.mp hhead
  rw [endOfList, hskip]
  dsimp only
  rw [if_neg hclose]
  split
  · split
    · split <;> rfl
    · rfl
  · rfl

/-- A record that is written as a list may end before its last field, but not behind it. -/
theorem endOfList_items (items : Items) (first : Bool) (rest : Bytes) :
    (endOfList (items.bytes first ++ rest)).toOption =
      if items.toList = [] then some rest else none := by
  cases items with
  | close gap =>
      rw [Items.bytes, List.append_assoc, List.singleton_append, endOfList, skipBlank_blanks,
        skipBlank_cons rfl]
      rfl
  | item gap lead value items =>
      obtain ⟨b, s, hbytes, hopens⟩ := value.exists_opens
      rw [Items.bytes, hbytes, List.append_assoc, if_neg (by simp [Items.toList])]
      cases first with
      | true =>
          refine endOfList_of_ne ?_ hopens.close
          rw [skipBlank_blanks, commaBytes, if_pos rfl, List.nil_append, List.append_assoc,
            skipBlank_blanks, List.cons_append, List.cons_append, skipBlank_cons hopens.blank]
          rfl
      | false =>
          refine endOfList_of_ne (b := 0x2C) ?_ (by decide)
          rw [skipBlank_blanks]
          rfl

section Record

variable {shape : Shape σ β} {fields : List (Field σ)} {blank : σ}

theorem Shape.Fits.find?_none (h : shape.Fits fields blank) {name : String}
    (hname : name ∉ shape.names) : fields.find? (·.name == name) = none := by
  rw [List.find?_eq_none]
  intro field hfield heq
  refine hname ?_
  rw [← h.names, ← beq_iff_eq.mp heq]
  exact List.mem_map_of_mem hfield

theorem Shape.Fits.find?_some (h : shape.Fits fields blank) {name : String}
    (hname : name ∈ shape.names) :
    ∃ field ∈ fields, fields.find? (·.name == name) = some field ∧ field.name = name := by
  rw [← h.names] at hname
  obtain ⟨field, hfield, heq⟩ := List.mem_map.mp hname
  cases hfind : fields.find? (·.name == name) with
  | none => exact absurd (beq_iff_eq.mpr heq) (List.find?_eq_none.mp hfind field hfield)
  | some found =>
      have hfound := List.find?_some (p := fun field : Field σ => field.name == name) hfind
      exact ⟨found, List.mem_of_find?_eq_some hfind, rfl, beq_iff_eq.mp hfound⟩

/-- The members of a record are taken one after the other. -/
theorem Shape.Fits.membersFrom (h : shape.Fits fields blank) : ∀ (members : Members)
    (fuel : Nat) (first : Bool) (seen : List String) (g : String → β) (rest : Bytes),
    members.toList.length < fuel →
      (membersFrom fields fuel first seen (shape.build g) (members.bytes first ++ rest)).toOption =
        (shape.gather seen g members.rows).map fun g' => (shape.build g', rest)
  | _, 0, _, _, _, _, hfuel => absurd hfuel (Nat.not_lt_zero _)
  | .close gap, fuel + 1, first, seen, g, rest, _ => by
    rw [Members.bytes, List.append_assoc, List.singleton_append, Json.membersFrom,
      gap.nextMember_close]
    rfl
  | .member gap lead name colon space value members, fuel + 1, first, seen, g, rest, hfuel => by
    have hfuel := Nat.lt_of_succ_lt_succ hfuel
    have hname := readText_spelling name (colon.bytes ++ 0x3A :: (space.bytes ++
      (value.bytes ++ (members.bytes false ++ rest))))
    have hrows : (Members.member gap lead name colon space value members).rows =
        (name.text?, value) :: members.rows := rfl
    simp only [Members.bytes, List.append_assoc, List.cons_append]
    rw [Json.membersFrom, gap.nextMember_item]
    simp only [ok_bind, toOption_bind, hname, hrows]
    cases name.text? with
    | none => rfl
    | some key =>
        simp only [Option.map_some, Option.bind_some]
        by_cases hkey : key ∈ shape.names
        · obtain ⟨field, hfield, hfind, rfl⟩ := h.find?_some hkey
          obtain ⟨set, hread, hset⟩ := h.reads field hfield
          have hvalue := hread value space _ (members.ended rest)
          rw [hfind, Shape.gather, if_pos hkey]
          dsimp only
          by_cases hseen : field.name ∈ seen
          · rw [if_pos hseen, if_pos (List.contains_iff_mem.mpr hseen)]
            rfl
          · rw [if_neg hseen, if_neg fun hmem => hseen (List.contains_iff_mem.mp hmem)]
            simp only [colon.readColon, ok_bind, toOption_bind, hvalue]
            cases value.orNull shape.default shape.means with
            | none => rfl
            | some v =>
                simp only [Option.map_some, Option.bind_some, hset]
                exact h.membersFrom members fuel false (field.name :: seen)
                  (Function.update g field.name v) rest hfuel
        · have hskip := skipValue_tree value space (members.ended rest)
          rw [h.find?_none hkey, Shape.gather, if_neg hkey]
          simp only [colon.readColon, hskip, ok_bind]
          exact h.membersFrom members fuel false seen g rest hfuel

/-- The values of a record that is written as a list are taken one after the other. -/
theorem Shape.Fits.positionalFrom (h : shape.Fits fields blank) (left : List (Field σ))
    (items : Items) (first : Bool) (seen : List String) (g : String → β) (rest : Bytes)
    (hleft : ∀ field ∈ left, field ∈ fields) (hnodup : (left.map Field.name).Nodup)
    (hseen : ∀ field ∈ left, field.name ∉ seen) :
    (positionalFrom left first (shape.build g) (items.bytes first ++ rest)).toOption =
      if items.toList.length ≤ left.length then
        (shape.gather seen g (((left.map Field.name).map some).zip items.toList)).map
          fun g' => (shape.build g', rest)
      else none := by
  induction left generalizing items first seen g with
  | nil =>
      rw [Json.positionalFrom, toOption_map, endOfList_items]
      cases items with
      | close gap => rfl
      | item gap lead value items =>
          rw [if_neg (by simp [Items.toList])]
          rfl
  | cons field left ih =>
      obtain ⟨hfield, hleft⟩ := List.forall_mem_cons.mp hleft
      obtain ⟨hnew, hseen⟩ := List.forall_mem_cons.mp hseen
      rw [List.map_cons, List.nodup_cons] at hnodup
      obtain ⟨hother, hnodup⟩ := hnodup
      have hkey : field.name ∈ shape.names := by
        rw [← h.names]
        exact List.mem_map_of_mem hfield
      cases items with
      | close gap =>
          rw [Items.bytes, List.append_assoc, List.singleton_append, Json.positionalFrom,
            gap.nextItem_close]
          rfl
      | item gap lead value items =>
          obtain ⟨set, hread, hset⟩ := h.reads field hfield
          have hvalue := hread.apply value (items.ended rest)
          have hlater : ∀ field' ∈ left, field'.name ∉ field.name :: seen := by
            intro field' hfield'
            rw [List.mem_cons, not_or]
            exact ⟨fun heq => hother (heq ▸ List.mem_map_of_mem hfield'), hseen field' hfield'⟩
          simp only [Items.bytes, List.append_assoc]
          rw [Json.positionalFrom, nextItem_tree]
          simp only [ok_bind, toOption_bind, hvalue, Items.toList, List.length_cons, List.map_cons,
            List.zip_cons_cons, Nat.succ_le_succ_iff]
          rw [Shape.gather, if_pos hkey, if_neg hnew]
          cases value.orNull shape.default shape.means with
          | none => exact (ite_self none).symm
          | some v =>
              simp only [Option.map_some, Option.bind_some, hset]
              exact ih items false (field.name :: seen) _ hleft hnodup hlater

theorem Shape.Fits.record_members (h : shape.Fits fields blank) (title : String)
    (members : Members) (gap : Blanks) (rest : Bytes) :
    (record title fields blank (gap.bytes ++ ((Tree.record members).bytes ++ rest))).toOption =
      (shape.tree? (.record members)).map fun a => (a, rest) := by
  have hlength := members.length_lt true
  have hread := h.membersFrom members ((members.bytes true ++ rest).length + 1) true []
    (fun _ => shape.default) rest (by rw [List.length_append]; omega)
  rw [Tree.bytes, List.cons_append, record, skipBlank_blanks, skipBlank_cons rfl, Shape.tree?,
    ← Shape.gather_build, Option.map_map, h.blank]
  exact hread

theorem Shape.Fits.record_items (h : shape.Fits fields blank) (title : String) (items : Items)
    (gap : Blanks) (rest : Bytes) :
    (record title fields blank (gap.bytes ++ ((Tree.list items).bytes ++ rest))).toOption =
      (shape.tree? (.list items)).map fun a => (a, rest) := by
  have hnodup := shape.nodup
  rw [← h.names] at hnodup
  have hread := h.positionalFrom fields items true [] (fun _ => shape.default) rest
    (fun _ hfield => hfield) hnodup fun _ _ => List.not_mem_nil
  rw [h.names, ← List.length_map (f := Field.name), h.names] at hread
  rw [Tree.bytes, List.cons_append, record, skipBlank_blanks, skipBlank_cons rfl, Shape.tree?,
    ← Shape.gather_build, h.blank]
  refine Eq.trans hread ?_
  split
  · rw [Option.map_map]
    rfl
  · rfl

/-- A record is read by its members, and a list by the order of the fields. -/
theorem Shape.Fits.reads_record (h : shape.Fits fields blank) (title : String) :
    Reads (record title fields blank) shape.tree? := by
  intro t gap rest _
  obtain ⟨b, s, hbytes, hopens⟩ := t.exists_opens
  by_cases hrecord : b = 0x7B
  · obtain ⟨members, rfl⟩ := hopens.record hrecord
    exact h.record_members title members gap rest
  · by_cases hlist : b = 0x5B
    · obtain ⟨items, rfl⟩ := hopens.list hlist
      exact h.record_items title items gap rest
    · have hnone : shape.tree? t = none := by
        cases t with
        | list items => exact absurd (List.cons.inj hbytes).1.symm hlist
        | record members => exact absurd (List.cons.inj hbytes).1.symm hrecord
        | _ => rfl
      rw [hbytes, List.cons_append, record, skipBlank_blanks, skipBlank_cons hopens.blank, hnone]
      dsimp only
      rw [if_neg hrecord, if_neg hlist]
      rfl

end Record

/-! ### Whole texts -/

/-- Blanks are all that may stand behind the value of a text. -/
theorem decodeWith_script {read : Bytes → Except Fault (α × Bytes)} {script : Script}
    {value : Option α}
    (h : (read script.bytes).toOption = value.map fun a => (a, script.after.bytes)) :
    (decodeWith read script.bytes).toOption = value := by
  have hend : skipBlank script.after.bytes = [] := by
    have hskip := skipBlank_blanks script.after []
    rwa [List.append_nil] at hskip
  rw [Json.decodeWith]
  simp only [toOption_mapError, toOption_bind, h]
  cases value with
  | none => rfl
  | some a =>
      simp only [Option.map_some, Option.bind_some, expectEnd, hend]
      rfl

theorem Script.ended_after (script : Script) : Ended script.after.bytes := by
  have hended := Ended.nil.blanks script.after
  rwa [List.append_nil] at hended

/-- A whole text is read as its value means. -/
theorem Reads.decodeWith {read : Reader α} {means : Tree → Option α} (h : Reads read means)
    (script : Script) : (decodeWith read script.bytes).toOption = means script.value :=
  decodeWith_script (h script.value script.before script.after.bytes script.ended_after)

end AppAdmin.Json
