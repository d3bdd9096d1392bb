/-!
Named parameters as a list sorted by name without repetition, so that equal sets of parameters are
equal values.
-/

namespace AppAdmin

/-- Parameters sorted by name. -/
structure Parameters where
  entries : List (String × String)
deriving DecidableEq

namespace Parameters

def empty : Parameters := ⟨[]⟩

/-- Puts an entry into a sorted list in place of an entry of the same name. -/
def put (name value : String) : List (String × String) → List (String × String)
  | [] => [(name, value)]
  | (key, old) :: rest =>
    if name < key then (name, value) :: (key, old) :: rest
    else if name = key then (name, value) :: rest
    else (key, old) :: put name value rest

/-- The value under a name in a list of entries. -/
def find (name : String) : List (String × String) → Option String
  | [] => none
  | (key, value) :: rest => if name = key then some value else find name rest

/-- The parameters with the value of one name set. -/
def insert (params : Parameters) (name value : String) : Parameters :=
  ⟨put name value params.entries⟩

/-- The value of a name. -/
def get? (params : Parameters) (name : String) : Option String :=
  find name params.entries

theorem find_put (name key value : String) (entries : List (String × String)) :
    find key (put name value entries) = if key = name then some value else find key entries := by
  induction entries with
  | nil => simp [put, find]
  | cons entry rest ih =>
    obtain ⟨other, old⟩ := entry
    unfold put
    split
    · simp [find]
    · split
      · subst_vars
        by_cases h : key = other <;> simp [find, h]
      · rename_i hne
        by_cases h : key = other
        · subst h
          simp [find, Ne.symm hne]
        · simp [find, h, ih]

/-- What is set is found, and nothing else changes. -/
theorem get?_insert (params : Parameters) (name key value : String) :
    (params.insert name value).get? key = if key = name then some value else params.get? key :=
  find_put name key value params.entries

end Parameters

end AppAdmin
