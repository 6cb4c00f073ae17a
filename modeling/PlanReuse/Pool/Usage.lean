import PlanReuse.Pool.Budget
import PlanReuse.Pool.Key

/-!
# Usage of artifacts

What is recorded about a kept artifact. Its insertion is its first use. The least used artifact is
evicted first, and of two used equally often the one inserted earlier.
-/

namespace PlanReuse

structure Usage where
  key : ArtifactKey
  artifactClass : ArtifactClass
  device : DeviceId
  size : Nat
  /-- The place in the order of insertions into the pool. -/
  seq : Nat
  uses : Nat
deriving DecidableEq

namespace Usage

/-- The record of an artifact just inserted. -/
def fresh (key : ArtifactKey) (artifactClass : ArtifactClass) (device : DeviceId) (size seq : Nat) :
    Usage :=
  { key, artifactClass, device, size, seq, uses := 1 }

/-- One more use. -/
def touch (u : Usage) : Usage := { u with uses := u.uses + 1 }

/-- The order of eviction: by number of uses, then by age. -/
def before (u v : Usage) : Bool :=
  decide (u.uses < v.uses) || (u.uses == v.uses && decide (u.seq < v.seq))

/-- Nothing else changes by use. -/
@[simp] theorem touch_seq (u : Usage) : u.touch.seq = u.seq := rfl

@[simp] theorem touch_size (u : Usage) : u.touch.size = u.size := rfl

@[simp] theorem touch_key (u : Usage) : u.touch.key = u.key := rfl

end Usage

/-- The places of a list in the order of eviction; equal records keep their order. -/
def evictionOrder (us : List Usage) : List Nat :=
  let places := us.zip (List.range us.length)
  (places.mergeSort fun a b => !b.1.before a.1).map Prod.snd

end PlanReuse
