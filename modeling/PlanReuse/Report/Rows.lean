import PlanReuse.Text.Blank

/-!
# Rows of delimited text

A row ends at a line feed or a carriage return, a field at a comma. A field that begins with a quote runs
to the closing quote; inside it a doubled quote is one quote. Blank lines are no rows. A row is told its
line: the line on which the reader stood when it began to look for the row, counted by line feeds, so
blank lines before the row, and the line feed after a carriage return, come after that.
-/

namespace PlanReuse.Report

structure Row where
  line : Nat
  fields : List (List Char)
deriving DecidableEq

/-- Where the reader is. -/
inductive Place
  | betweenRows
  | fieldStart
  | inField
  | inQuotes
  /-- After a quote inside quotes: the closing one, or the first of two. -/
  | afterQuote
deriving DecidableEq

/-- The reader in the middle of its work. Characters, fields and rows are held latest first. -/
structure Reading where
  place : Place
  field : List Char
  fields : List (List Char)
  rows : List Row
  /-- The line of the row being read. -/
  rowLine : Nat
  /-- The line of the next character. -/
  line : Nat

namespace Reading

def start : Reading := ⟨.betweenRows, [], [], [], 1, 1⟩

def push (r : Reading) (c : Char) (place : Place) : Reading :=
  { r with field := c :: r.field, place }

def endField (r : Reading) : Reading :=
  { r with place := .fieldStart, field := [], fields := r.field.reverse :: r.fields }

def endRow (r : Reading) : Reading :=
  let r := r.endField
  { r with
    place := .betweenRows, fields := [], rows := ⟨r.rowLine, r.fields.reverse⟩ :: r.rows,
    rowLine := r.line }

def isLineEnd (c : Char) : Bool := c == '\n' || c == '\r'

/-- A character outside quotes that may end the field or the row. -/
def plain (r : Reading) (c : Char) : Reading :=
  if c = ',' then r.endField else if isLineEnd c then r.endRow else r.push c .inField

/-- The first character of a field. -/
def opening (r : Reading) (c : Char) : Reading :=
  if c = '"' then { r with place := .inQuotes } else r.plain c

/-- Takes in one character. -/
def step (r : Reading) (c : Char) : Reading :=
  let r := if c = '\n' then { r with line := r.line + 1 } else r
  match r.place with
  | .betweenRows => if isLineEnd c then r else r.opening c
  | .fieldStart => r.opening c
  | .inField => r.plain c
  | .inQuotes => if c = '"' then { r with place := .afterQuote } else r.push c .inQuotes
  | .afterQuote => if c = '"' then r.push c .inQuotes else r.plain c

/-- The rows read, when no character is left; a row that has begun is complete. -/
def finish (r : Reading) : List Row :=
  match r.place with
  | .betweenRows => r.rows.reverse
  | _ => r.endRow.rows.reverse

end Reading

/-- The rows of a text. -/
def rows (text : List Char) : List Row := ((Text.dropMark text).foldl Reading.step .start).finish

/-- A row with the blanks around its fields cut off. -/
def Row.trim (r : Row) : Row := { r with fields := r.fields.map Text.trim }

theorem rows_nil : rows [] = [] := rfl

end PlanReuse.Report
