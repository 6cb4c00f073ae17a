/-!
# TOML values

A TOML document is a table of values. While a document is put together a table remembers how it came to
be, since that decides whether a later line may still add to it.
-/

namespace PlanReuse.Toml

/-- How a table came to be. -/
inductive Origin
  /-- By its own header; the document itself counts as one. -/
  | header
  /-- By the header of a table inside it. -/
  | implied
  /-- By a dotted key. -/
  | dotted
  /-- Between braces. -/
  | braces
deriving DecidableEq

inductive Value
  | string (s : String)
  /-- An integer; none if it is not written in digits of its base. -/
  | integer (n : Option Int)
  /-- A float, and whether it is in the range of doubles. -/
  | float (inRange : Bool)
  | boolean (b : Bool)
  | datetime
  | array (items : List Value)
  | table (origin : Origin) (entries : List (String × Value))
  /-- Tables collected by headers in double brackets. -/
  | tables (items : List Value)

/-- The entries of a table, in the order of the document. -/
abbrev Entries := List (String × Value)

/-- A line of a document that says something. -/
inductive Item
  | header (path : List String) (key : String)
  | arrayHeader (path : List String) (key : String)
  | entry (path : List String) (key : String) (value : Value)

/-! ### Numbers without a value -/

mutual

/-- Whether all numbers in a value are well written and ones that a reader can hold. -/
def Value.isReadable : Value → Bool
  | .integer (some n) => decide (-(Nat.pow 2 127 : Int) ≤ n) && decide (n < Nat.pow 2 128)
  | .integer none => false
  | .float inRange => inRange
  | .array items => readableItems items
  | .tables items => readableItems items
  | .table _ entries => readableEntries entries
  | .string _ | .boolean _ | .datetime => true

def readableItems : List Value → Bool
  | [] => true
  | v :: vs => v.isReadable && readableItems vs

def readableEntries : List (String × Value) → Bool
  | [] => true
  | (_, v) :: es => v.isReadable && readableEntries es

end

end PlanReuse.Toml
