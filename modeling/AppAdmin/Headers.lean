import AppAdmin.Text.Ascii
import AppAdmin.Text.Outline

/-!
Header fields in the order of their arrival. Names may repeat, and the case of ASCII letters in
them does not matter.
-/

namespace AppAdmin

structure Header where
  name : String
  value : String
deriving DecidableEq

def Header.isNamed (h : Header) (name : String) : Bool :=
  Text.sameName h.name name

/-- Header fields in order. -/
structure Headers where
  items : List Header
deriving DecidableEq

namespace Headers

def empty : Headers := ⟨[]⟩

/-- Adds a field behind the others. -/
def append (hs : Headers) (name value : String) : Headers :=
  ⟨hs.items ++ [⟨name, value⟩]⟩

/-- Replaces all fields of a name by one, which stands last. -/
def insert (hs : Headers) (name value : String) : Headers :=
  ⟨hs.items.filter (fun h => !h.isNamed name) ++ [⟨name, value⟩]⟩

/-- The fields that have none of some names. -/
def without (hs : Headers) (names : List String) : Headers :=
  ⟨hs.items.filter fun h => !names.any (h.isNamed ·)⟩

/-- The fields of a name, in order. -/
def named (hs : Headers) (name : String) : List Header :=
  hs.items.filter (·.isNamed name)

/-- The value of the first field of a name. -/
def get? (hs : Headers) (name : String) : Option String :=
  (hs.items.find? (·.isNamed name)).map (·.value)

theorem get?_eq_head?_named (hs : Headers) (name : String) :
    hs.get? name = (hs.named name).head?.map (·.value) := by
  simp [get?, named, List.head?_filter]

theorem named_append (hs : Headers) (name value key : String) :
    (hs.append name value).named key
      = hs.named key ++ if Text.sameName name key then [⟨name, value⟩] else [] := by
  simp only [named, append, List.filter_append, List.append_cancel_left_eq]
  cases h : Text.sameName name key <;> simp [Header.isNamed, h]

def outline (hs : Headers) : String :=
  let item (h : Header) := Text.outline "Header"
    [("name", Text.quoted h.name), ("value", Text.quoted h.value)] true
  Text.outline "Headers" [("items", Text.outlineList (hs.items.map item))] true

end Headers

end AppAdmin
