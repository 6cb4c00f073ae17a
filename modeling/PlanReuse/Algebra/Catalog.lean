/-!
# Catalog

The tables that plans may scan. A table's number and name enter the shape of every plan that scans it.
-/

namespace PlanReuse

/-- A table, known by its database and its number there. -/
structure TableId where
  database : Int
  table : Int
deriving DecidableEq

def TableId.text (t : TableId) : String := toString t.database ++ ":" ++ toString t.table

structure Table where
  id : TableId
  name : String
  columns : List String
deriving DecidableEq

/-- The known tables, no two with one number. -/
structure Catalog where
  tables : List Table

namespace Catalog

def empty : Catalog := ⟨[]⟩

def find? (c : Catalog) (id : TableId) : Option Table := c.tables.find? (·.id = id)

/-- Adds a table in the place of one with the same number. -/
def insert (c : Catalog) (t : Table) : Catalog := ⟨t :: c.tables.filter (·.id ≠ t.id)⟩

def erase (c : Catalog) (id : TableId) : Catalog := ⟨c.tables.filter (·.id ≠ id)⟩

def size (c : Catalog) : Nat := c.tables.length

theorem find?_insert_self (c : Catalog) (t : Table) : (c.insert t).find? t.id = some t := by
  simp [find?, insert]

theorem find?_erase_self (c : Catalog) (id : TableId) : (c.erase id).find? id = none := by
  simp [find?, erase]

end Catalog

end PlanReuse
