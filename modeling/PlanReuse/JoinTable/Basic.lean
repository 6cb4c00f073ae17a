import PlanReuse.Pool.Reuse

/-!
# Join tables

A join table finds the rows of the inner side of a join by their key. A perfect table has one slot for
every integer between the least and the greatest key; a baseline table groups the rows of equal
composite keys; an overlaps table is for range joins. All three are artifacts of a pool.
-/

namespace PlanReuse

inductive JoinTableKind
  | perfect (least greatest : Int)
  | baseline (components : Nat)
  | overlaps (buckets : List Binary64)
deriving DecidableEq

/-- The slots of a one-to-one table hold a row for each key; those of a one-to-many table hold, one
after the other, the offset of each key's rows, their number, and the rows. -/
structure JoinTable where
  kind : JoinTableKind
  layout : JoinLayout
  key : Option ArtifactKey
  device : DeviceId
  entryCount : Nat
  slots : Array Int
deriving DecidableEq

namespace JoinTable

/-- The mark of a slot that no row has. -/
def emptySlot : Int := -1

/-- Bytes of one slot. -/
def slotBytes : Nat := 4

def artifactClass (t : JoinTable) : ArtifactClass :=
  match t.kind with
  | .perfect .. => .perfect
  | .baseline _ => .baseline
  | .overlaps _ => .overlaps

def size (t : JoinTable) : Nat := t.slots.size * slotBytes

instance : Artifact JoinTable where
  artifactClass := artifactClass
  size := size
  key? := key
  device := device

/-! ### Equality -/

/-- Equality of bucket sizes, compared as numbers. -/
def sameBuckets : List Binary64 → List Binary64 → Bool
  | [], [] => true
  | x :: xs, y :: ys => x.sameNumber y && sameBuckets xs ys
  | _, _ => false

def sameKind : JoinTableKind → JoinTableKind → Bool
  | .overlaps xs, .overlaps ys => sameBuckets xs ys
  | k, l => decide (k = l)

/-- Equality of tables; a bucket size that is a NaN is not equal to itself. -/
def same (t u : JoinTable) : Bool :=
  sameKind t.kind u.kind && decide (t.layout = u.layout) && decide (t.key = u.key) &&
    decide (t.device = u.device) && t.entryCount == u.entryCount && t.slots == u.slots

/-! ### Probing -/

inductive Probe
  | row (row : Int)
  | absent
  /-- The table says it covers the key and has no slot for it. -/
  | outOfSlots
deriving DecidableEq

/-- The row of a key in a one-to-one perfect table; other tables have none to tell. -/
def probe (t : JoinTable) (value : Int) : Probe :=
  match t.kind, t.layout with
  | .perfect least greatest, .oneToOne =>
    if least ≤ value ∧ value ≤ greatest then
      match t.slots[(value - least).toNat]? with
      | none => .outOfSlots
      | some slot => if slot = emptySlot then .absent else .row slot
    else .absent
  | _, _ => .absent

end JoinTable

end PlanReuse
