import AppAdmin.Settings.Field

/-!
Settings laid over each other, entry by entry. Where keys are plain, an entry of the upper layer meets
the entry below that has its key and no other; a value takes the place of what is below, and a table is
no more of a value over something than it is alone.
-/

namespace AppAdmin.Settings

/-- A key that leads into no table and no list. -/
def Plain (key : String) : Prop := '.' ∉ key.toList ∧ '[' ∉ key.toList

instance (key : String) : Decidable (Plain key) :=
  inferInstanceAs (Decidable ('.' ∉ key.toList ∧ '[' ∉ key.toList))

namespace KeyPath

theorem readSteps?_cons {c : Char} (hdot : c ≠ '.') (hbracket : c ≠ '[') (fuel : Nat)
    (rest : List Char) : readSteps? fuel (c :: rest) = none := by
  cases fuel with
  | zero => rfl
  | succ fuel => simp [readSteps?, hdot, hbracket]

theorem ofText_of_plain {key : String} (h : Plain key) : ofText key = ⟨key, []⟩ := by
  rw [ofText, parse?]
  split
  · rfl
  · cases hrest : key.toList.dropWhile isKeyChar with
    | nil =>
        have hall : key.toList.takeWhile isKeyChar = key.toList := by
          have hsplit := List.takeWhile_append_dropWhile (p := isKeyChar) (l := key.toList)
          rwa [hrest, List.append_nil] at hsplit
        simp [readSteps?, hall]
    | cons c rest =>
        have hmem : c ∈ key.toList := by
          apply (List.dropWhile_suffix isKeyChar).subset
          rw [hrest]
          exact List.mem_cons_self
        have hdot : c ≠ '.' := fun hc => h.1 (hc ▸ hmem)
        have hbracket : c ≠ '[' := fun hc => h.2 (hc ▸ hmem)
        rw [readSteps?_cons hdot hbracket]
        rfl

end KeyPath

namespace Tree

variable {key k : String} {t : Tree} {es : List (String × Tree)}

theorem find?_cons (key k : String) (t : Tree) (es : List (String × Tree)) :
    find? key ((k, t) :: es) = if k = key then some t else find? key es := by
  rw [find?, List.find?_cons]
  by_cases h : k = key
  · simp [h]
  · rw [beq_eq_false_iff_ne.mpr h, if_neg h]
    rfl

theorem find?_eq_none_iff : find? key es = none ↔ ∀ e ∈ es, e.1 ≠ key := by
  simp [find?]

/-- Where no key comes twice, what is found under a key is what stands there. -/
theorem find?_eq_some_iff (h : Distinct es) : find? key es = some t ↔ (key, t) ∈ es := by
  induction es with
  | nil => simp [find?]
  | cons e es ih =>
      obtain ⟨name, old⟩ := e
      obtain ⟨hnew, hes⟩ := List.nodup_cons.mp h
      rw [find?_cons, List.mem_cons, Prod.mk.injEq]
      split
      next heq =>
          have hnotMem : (key, t) ∉ es := fun hmem =>
            hnew (List.mem_map.mpr ⟨(key, t), hmem, heq.symm⟩)
          simp [hnotMem, heq, eq_comm]
      next hne => simp [Ne.symm hne, ih hes]

/-- A change of one entry: it is made from what was there, and the others are as before. -/
theorem find?_change (key k : String) (f : Tree → Tree) (es : List (String × Tree)) :
    find? k (change key f es)
      = if key = k then some (f ((find? key es).getD absent)) else find? k es := by
  induction es with
  | nil => exact find?_cons k key (f absent) []
  | cons e es ih =>
      obtain ⟨name, old⟩ := e
      rw [change, find?_cons key]
      split
      next heq =>
          subst heq
          rw [find?_cons, find?_cons]
          split <;> rfl
      next hne =>
          rw [find?_cons, find?_cons, ih]
          split
          next hname => rw [if_neg fun hkey => hne (hname.trans hkey.symm)]
          next => rfl

theorem layer_cons_of_plain (h : Plain key) (t : Tree) (below above : List (String × Tree)) :
    layer below ((key, t) :: above) = layer (change key (cover t) below) above := by
  change layer (change (KeyPath.ofText key).key (changeAt (cover t) (KeyPath.ofText key).steps) below)
    above = _
  rw [KeyPath.ofText_of_plain h]
  rfl

/-- **One layer over another.** An entry of the upper layer covers the one below it, and where there is
none the lower layer is seen. -/
theorem find?_layer {above : List (String × Tree)} (hplain : ∀ e ∈ above, Plain e.1)
    (hdistinct : Distinct above) (below : List (String × Tree)) (key : String) :
    find? key (layer below above) = (find? key above).elim (find? key below)
      fun t => some (cover t ((find? key below).getD absent)) := by
  induction above generalizing below with
  | nil => rfl
  | cons e above ih =>
      obtain ⟨name, t⟩ := e
      obtain ⟨hname, hplain⟩ := List.forall_mem_cons.mp hplain
      obtain ⟨hnew, hdistinct⟩ := List.nodup_cons.mp hdistinct
      rw [layer_cons_of_plain hname, ih hplain hdistinct, find?_change, find?_cons]
      split
      next heq =>
          -- The key does not come again, so nothing is laid over the entry that was just changed.
          have hnone : find? key above = none := by
            rw [find?_eq_none_iff]
            intro e he hkey
            exact hnew (List.mem_map.mpr ⟨e, he, hkey.trans heq.symm⟩)
          rw [hnone, heq]
          rfl
      next => rfl

/-! ### One entry among the others -/

theorem layer_append (below front back : List (String × Tree)) :
    layer below (front ++ back) = layer (layer below front) back :=
  List.foldl_append

/-- Keys that lead elsewhere leave an entry as it is. -/
theorem find?_layer_of_elsewhere {above : List (String × Tree)}
    (h : ∀ e ∈ above, (KeyPath.ofText e.1).key ≠ key) (below : List (String × Tree)) :
    find? key (layer below above) = find? key below := by
  induction above generalizing below with
  | nil => rfl
  | cons e above ih =>
      obtain ⟨he, h⟩ := List.forall_mem_cons.mp h
      calc
        find? key (layer below (e :: above))
          = find? key (change (KeyPath.ofText e.1).key
              (changeAt (cover e.2) (KeyPath.ofText e.1).steps) below) := ih h _
        _ = find? key below := by rw [find?_change, if_neg he]

/-- Tables that differ in one entry at most. -/
def AgreeBeside (key : String) (es es' : List (String × Tree)) : Prop :=
  ∀ k, k ≠ key → find? k es = find? k es'

theorem agreeBeside_change (key : String) (f g : Tree → Tree) (es : List (String × Tree)) :
    AgreeBeside key (change key f es) (change key g es) := by
  intro k hk
  rw [find?_change, find?_change, if_neg hk.symm, if_neg hk.symm]

/-- A layer over tables that differ in one entry lets no other entry differ. -/
theorem AgreeBeside.layer {below below' : List (String × Tree)} (h : AgreeBeside key below below')
    (above : List (String × Tree)) :
    AgreeBeside key (Tree.layer below above) (Tree.layer below' above) := by
  induction above generalizing below below' with
  | nil => exact h
  | cons e above ih =>
      refine ih fun k hk => ?_
      rw [find?_change, find?_change]
      split
      next heq => rw [h _ (heq.symm ▸ hk)]
      next => exact h k hk

/-- A value that is laid over a table is what counts, unless a later key leads to its entry. -/
theorem find?_layer_leaf (hkey : Plain key) {front back : List (String × Tree)}
    (hback : ∀ e ∈ back, (KeyPath.ofText e.1).key ≠ key) (below : List (String × Tree))
    (source : Option String) (value : Scalar) :
    find? key (layer below (front ++ (key, .leaf source value) :: back))
      = some (.leaf source value) := by
  rw [layer_append, layer_cons_of_plain hkey, find?_layer_of_elsewhere hback, find?_change,
    if_pos rfl]
  rfl

/-- Of two layers that differ in one setting the tables differ in its entry at most. -/
theorem agreeBeside_layer (hkey : Plain key) (below front back : List (String × Tree))
    (t t' : Tree) :
    AgreeBeside key (layer below (front ++ (key, t) :: back))
      (layer below (front ++ (key, t') :: back)) := by
  rw [layer_append, layer_append, layer_cons_of_plain hkey, layer_cons_of_plain hkey]
  exact (agreeBeside_change key _ _ _).layer back

end Tree

namespace Field

/-- What lies below a setting does not count when it is read as a text. -/
theorem text_cover (key : String) (t below : Tree) : text key (Tree.cover t below) = text key t := by
  cases t with
  | leaf => rfl
  | list => rfl
  | table => rfl

/-- What lies below a setting does not count when it is read as a number. -/
theorem number_cover (key : String) (t below : Tree) :
    number key (Tree.cover t below) = number key t := by
  cases t with
  | leaf => rfl
  | list => rfl
  | table => rfl

end Field

end AppAdmin.Settings
