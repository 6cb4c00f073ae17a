import PlanReuse.Log
import PlanReuse.Number.Word
import PlanReuse.Numbering.Shape

/-!
# Numbering of shapes

Every shape gets a number, the same one each time it is met, so that a plan can be written as a list of
numbers. The table has a limit in bytes, at a fixed price per shape. When a new shape would exceed it,
the whole table is dropped and numbers start again from zero. Each time the table is dropped a new
generation begins: a number means a shape only together with its generation.
-/

namespace PlanReuse

structure Numbering where
  /-- The numbered shapes, each with its number. -/
  entries : List (Shape × Nat)
  /-- The next number to give out. -/
  next : Nat
  generation : Nat
  /-- The bytes that the table may take. -/
  limit : Nat
  /-- The price of one shape. -/
  shapeBytes : Nat
  /-- How often a new shape did not fit. -/
  overflows : Nat

/-- The numbers of several shapes, all of one generation. -/
structure Numbers where
  numbers : List Nat
  generation : Nat
deriving DecidableEq

namespace Numbering

/-- Two words of eight bytes, one for each direction of look-up. -/
def defaultShapeBytes : Nat := 2 * 8

def defaultLimit : Nat := 1000000000

def empty (limit shapeBytes : Nat) : Numbering :=
  { entries := [], next := 0, generation := 0, limit, shapeBytes, overflows := 0 }

/-! ### Looking up -/

def numberOf? (c : Numbering) (s : Shape) : Option Nat := c.entries.lookup s

def shapeOf? (c : Numbering) (n : Nat) : Option Shape :=
  (c.entries.find? fun e => e.2 = n).map Prod.fst

/-- The number of shapes in the table. -/
def size (c : Numbering) : Nat := c.entries.length

/-- The bytes that the table is taken to occupy. -/
def bytes (c : Numbering) : Nat := c.size * c.shapeBytes

/-! ### Changing -/

/-- Drops all numbers and begins a new generation. -/
def clear (c : Numbering) : Numbering :=
  { c with entries := [], next := 0, generation := c.generation + 1 }

/-- A lower limit drops nothing by itself; the next new shape will find no room. -/
def setLimit (c : Numbering) (limit : Nat) : Numbering := { c with limit }

/-- Whether one more shape fits. -/
def hasRoom (c : Numbering) : Bool := min ((c.size + 1) * c.shapeBytes) maxWord ≤ c.limit

/-- Gives the next number to a shape that has none. -/
def push (c : Numbering) (s : Shape) : Numbering :=
  { c with entries := (s, c.next) :: c.entries, next := c.next + 1 }

/-- The number of a shape, a new one if need be; none if it does not fit, and then all is dropped. -/
def assign (c : Numbering) (s : Shape) : Option Nat × Numbering :=
  match c.numberOf? s with
  | some n => (some n, c)
  | none => if c.hasRoom then (some c.next, c.push s) else (none, c.clear)

/-- The numbers of a list of shapes in turn, up to the first that does not fit. -/
def assignAll : Numbering → List Shape → Option (List Nat) × Numbering
  | c, [] => (some [], c)
  | c, s :: ss =>
    match c.assign s with
    | (none, c') => (none, c')
    | (some n, c') =>
      match assignAll c' ss with
      | (none, c'') => (none, c'')
      | (some ns, c'') => (some (n :: ns), c'')

/-- The numbers of a list of shapes and their generation. If one does not fit, all that the call has
numbered is void with the rest of the table, and the overflow is counted. -/
def resolve (c : Numbering) (ss : List Shape) : Option Numbers × Numbering :=
  match c.assignAll ss with
  | (some ns, c') => (some ⟨ns, c'.generation⟩, c')
  | (none, c') => (none, { c' with overflows := c'.overflows + 1 })

/-- The number of one shape. -/
def resolveOne (c : Numbering) (s : Shape) : Option Nat × Numbering :=
  let (r, c') := c.resolve [s]
  (r.bind fun ns => ns.numbers.head?, c')

/-! ### Lines of the log -/

/-- What a resolution says, seen from the table after it. -/
def resolveLines (found : Bool) (after : Numbering) : List Log.Line :=
  if found then []
  else [Log.info ("DAG 缓存超出容量上限 " ++ toString after.limit ++ " 字节，已清空全部节点，进入第 "
    ++ toString after.generation ++ " 代")]

def setLimitLine (limit : Nat) : Log.Line :=
  Log.debug ("DAG 缓存容量上限调整为 " ++ toString limit ++ " 字节")

def clearLine (after : Numbering) : Log.Line :=
  Log.debug ("DAG 缓存已清空，进入第 " ++ toString after.generation ++ " 代")

/-! ### What each change does to a look-up -/

@[simp] theorem numberOf?_clear (c : Numbering) (s : Shape) : c.clear.numberOf? s = none := rfl

@[simp] theorem numberOf?_setLimit (c : Numbering) (limit : Nat) (s : Shape) :
    (c.setLimit limit).numberOf? s = c.numberOf? s := rfl

theorem numberOf?_push (c : Numbering) (s t : Shape) :
    (c.push s).numberOf? t = if t = s then some c.next else c.numberOf? t := by
  by_cases h : t = s
  · simp [numberOf?, push, h]
  · have : (t == s) = false := by simpa using h
    simp [numberOf?, push, List.lookup_cons, this, h]

theorem shapeOf?_push (c : Numbering) (s : Shape) (n : Nat) :
    (c.push s).shapeOf? n = if c.next = n then some s else c.shapeOf? n := by
  by_cases h : c.next = n
  · simp [shapeOf?, push, h]
  · simp [shapeOf?, push, h]

@[simp] theorem size_push (c : Numbering) (s : Shape) : (c.push s).size = c.size + 1 := rfl

@[simp] theorem size_clear (c : Numbering) : c.clear.size = 0 := rfl

end Numbering

end PlanReuse
