import PlanReuse.Number.Word
import PlanReuse.Pool.Usage

/-!
# Partitions

The artifacts of one class on one device, oldest first, and the bytes they occupy. Room is made by
evicting one artifact after the other in the order of eviction, no more of them than needed.
-/

namespace PlanReuse

/-- A kept artifact and its record. -/
structure Entry (α : Type) where
  item : α
  usage : Usage

structure Partition (α : Type) where
  /-- In the order of insertion. -/
  entries : List (Entry α)
  /-- The bytes in use, kept up to date by every change. -/
  occupied : Nat

/-- The outcome of making room: whether it was made, what was evicted, first to last, and what stays. -/
structure Eviction (α : Type) where
  made : Bool
  evicted : List (Entry α)
  rest : Partition α

namespace Partition

variable {α : Type}

def empty : Partition α := ⟨[], 0⟩

def find? (q : Partition α) (key : ArtifactKey) : Option (Entry α) :=
  q.entries.find? (·.usage.key = key)

def holds (q : Partition α) (key : ArtifactKey) : Bool := (q.find? key).isSome

def count (q : Partition α) : Nat := q.entries.length

/-- Adds an entry behind all others. The bytes are summed exactly: under a total of the largest word, which
lets everything in, a sum that is kept in one word overflows where this one goes on. -/
def push (q : Partition α) (e : Entry α) : Partition α :=
  ⟨q.entries ++ [e], q.occupied + e.usage.size⟩

/-- Takes out the entry with a key. -/
def take? (q : Partition α) (key : ArtifactKey) : Option (Entry α × Partition α) :=
  (q.find? key).map fun e =>
    (e, ⟨q.entries.eraseP (·.usage.key = key), q.occupied - e.usage.size⟩)

/-- Records one more use of the entry with a key. -/
def touch (q : Partition α) (key : ArtifactKey) : Partition α :=
  { q with
    entries := q.entries.map fun e =>
      if e.usage.key = key then { e with usage := e.usage.touch } else e }

/-! ### Eviction -/

/-- The entry of a list that is evicted first. -/
def firstOut? : List (Entry α) → Option (Entry α)
  | [] => none
  | e :: es =>
    match firstOut? es with
    | none => some e
    | some f => if f.usage.before e.usage then some f else some e

/-- Whether `needed` more bytes stay within a limit. The sum stops at the largest word. -/
def fits (q : Partition α) (needed limit : Nat) : Bool :=
  decide (min (q.occupied + needed) maxWord ≤ limit)

/-- Evicts until `needed` more bytes fit, at most as many entries as the first argument says. -/
def makeRoomUpTo (needed limit : Nat) : Nat → Partition α → Eviction α
  | 0, q => ⟨q.fits needed limit, [], q⟩
  | n + 1, q =>
    if q.fits needed limit then ⟨true, [], q⟩
    else
      match firstOut? q.entries with
      | none => ⟨false, [], q⟩
      | some e =>
        match q.take? e.usage.key with
        | none => ⟨false, [], q⟩
        | some (e, q) =>
          let r := makeRoomUpTo needed limit n q
          { r with evicted := e :: r.evicted }

/-- Evicts until `needed` more bytes fit. Every step takes out an entry, so there are as many steps as
entries at most. -/
def makeRoom (q : Partition α) (needed limit : Nat) : Eviction α :=
  makeRoomUpTo needed limit q.entries.length q

/-! ### Small facts -/

@[simp] theorem entries_push (q : Partition α) (e : Entry α) :
    (q.push e).entries = q.entries ++ [e] := rfl

@[simp] theorem occupied_push (q : Partition α) (e : Entry α) :
    (q.push e).occupied = q.occupied + e.usage.size := rfl

@[simp] theorem occupied_touch (q : Partition α) (key : ArtifactKey) :
    (q.touch key).occupied = q.occupied := rfl

@[simp] theorem count_touch (q : Partition α) (key : ArtifactKey) : (q.touch key).count = q.count := by
  simp [count, touch]

theorem firstOut?_eq_none_iff (es : List (Entry α)) : firstOut? es = none ↔ es = [] := by
  cases es with
  | nil => simp [firstOut?]
  | cons e es =>
    simp only [firstOut?]
    split
    · simp
    · split <;> simp

end Partition

end PlanReuse
