import PlanReuse.Number.Arithmetic
import PlanReuse.Number.Word
import PlanReuse.Pool.Budget

/-!
# Tally

Counts of what a pool has done. The counts are exact; a snapshot shows them as 64-bit words, which wrap.
-/

namespace PlanReuse

structure Tally where
  hits : Nat
  misses : Nat
  accepted : Nat
  rejected : Nat
  evictions : Nat
  evictedBytes : Nat
  perfectHits : Nat
  baselineHits : Nat
  overlapsHits : Nat
deriving DecidableEq

namespace Tally

def zero : Tally := ⟨0, 0, 0, 0, 0, 0, 0, 0, 0⟩

def hitsOf (t : Tally) : ArtifactClass → Nat
  | .perfect => t.perfectHits
  | .baseline => t.baselineHits
  | .overlaps => t.overlapsHits

def hit (t : Tally) (c : ArtifactClass) : Tally :=
  let t := { t with hits := t.hits + 1 }
  match c with
  | .perfect => { t with perfectHits := t.perfectHits + 1 }
  | .baseline => { t with baselineHits := t.baselineHits + 1 }
  | .overlaps => { t with overlapsHits := t.overlapsHits + 1 }

def miss (t : Tally) : Tally := { t with misses := t.misses + 1 }

def accept (t : Tally) : Tally := { t with accepted := t.accepted + 1 }

def reject (t : Tally) : Tally := { t with rejected := t.rejected + 1 }

/-- One artifact evicted, and the bytes it gave back. -/
def evict (t : Tally) (bytes : Nat) : Tally :=
  { t with evictions := t.evictions + 1, evictedBytes := t.evictedBytes + bytes }

theorem hits_hit (t : Tally) (c : ArtifactClass) : (t.hit c).hits = t.hits + 1 := by
  cases c <;> rfl

theorem hitsOf_hit (t : Tally) (c d : ArtifactClass) :
    (t.hit c).hitsOf d = if d = c then t.hitsOf d + 1 else t.hitsOf d := by
  cases c <;> cases d <;> rfl

end Tally

/-- A tally as it is shown. -/
structure Snapshot where
  hits : Nat
  misses : Nat
  accepted : Nat
  rejected : Nat
  evictions : Nat
  evictedBytes : Nat
  /-- The classes that were hit at all, in order. -/
  hitsByClass : List (ArtifactClass × Nat)
deriving DecidableEq

def Tally.snapshot (t : Tally) : Snapshot :=
  { hits := wrapWord t.hits
    misses := wrapWord t.misses
    accepted := wrapWord t.accepted
    rejected := wrapWord t.rejected
    evictions := wrapWord t.evictions
    evictedBytes := wrapWord t.evictedBytes
    hitsByClass :=
      (ArtifactClass.all.filter fun c => t.hitsOf c ≠ 0).map fun c => (c, wrapWord (t.hitsOf c)) }

/-- The share of look-ups that hit; zero before the first look-up. -/
def Snapshot.hitRate (s : Snapshot) : Binary64 :=
  let total := s.hits + s.misses
  if total = 0 then Binary64.ofNat 0
  else (Binary64.ofNat s.hits).div (.ofNat total)

end PlanReuse
