import AppAdmin.Toml.Statement

/-!
TOML documents, read as tables of values.
-/

namespace AppAdmin.Toml

/-- A document under way: its entries, and the table that assignments go to. -/
structure Draft where
  entries : Section.Entries
  current : List String

/-- Follows a statement. -/
def Draft.follow (d : Draft) : Statement → Option Draft
  | .header keys => do return ⟨← Section.declare keys d.entries, keys⟩
  | .itemHeader keys => do return ⟨← Section.declareItem keys d.entries, keys⟩
  | .assignment keys value => do
    return { d with
      entries := ← Section.changeAt false (Section.assign keys value) d.current d.entries }

def parse? (s : String) : Option (List (String × Value)) := do
  let statements ← readStatements? s.toList
  let draft ← statements.foldlM Draft.follow ⟨[], []⟩
  return Section.toEntries draft.entries

end AppAdmin.Toml
