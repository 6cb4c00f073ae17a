import PlanReuse.Costing.Sample
import PlanReuse.Number.Arithmetic

/-!
# Curves

A curve predicts a time for a size from samples: a straight line between the two samples around the
size, and beyond the samples the line through the first two or the last two. It is one way to make a
forecast from samples; an estimator may be given another.
-/

namespace PlanReuse

/-- A predicted time for each size. -/
abbrev Forecast := Nat → Binary64

/-- How a forecast is made from samples. -/
abbrev Extrapolation := List Sample → Except CostError Forecast

/-- Samples in ascending order, at least two. -/
structure Curve where
  samples : List Sample
  two_le : 2 ≤ samples.length

namespace Curve

/-- The curve through a list of samples in any order. -/
def fit (ss : List Sample) : Except CostError Curve :=
  if h : 2 ≤ (Sample.sort ss).length then .ok ⟨Sample.sort ss, h⟩
  else .error (.insufficientSamples ss.length)

/-- How many samples are not larger than a size. -/
def upTo (c : Curve) (size : Nat) : Nat := (c.samples.takeWhile fun s => s.size ≤ size).length

/-- The place of the left one of the two samples that a prediction uses; the right one is next to it. -/
def leftPlace (c : Curve) (size : Nat) : Nat :=
  let k := c.upTo size
  if k = 0 then 0 else if k = c.samples.length then c.samples.length - 2 else k - 1

theorem upTo_le (c : Curve) (size : Nat) : c.upTo size ≤ c.samples.length :=
  (List.takeWhile_sublist _).length_le

/-- Both places are places of samples. -/
theorem leftPlace_lt (c : Curve) (size : Nat) : c.leftPlace size + 1 < c.samples.length := by
  have := c.two_le
  have := c.upTo_le size
  simp only [leftPlace]
  split
  · omega
  · split <;> omega

/-- The value at a size of the line through two samples. Samples whose sizes are one double give no
line; the first of them is the answer. -/
def line (p q : Sample) (size : Nat) : Binary64 :=
  let x1 := Binary64.ofNat p.size
  let x2 := Binary64.ofNat q.size
  if x2.sameNumber x1 then p.time
  else
    let share := ((Binary64.ofNat size).sub x1).div (x2.sub x1)
    p.time.add (share.mul (q.time.sub p.time))

def predict (c : Curve) (size : Nat) : Binary64 :=
  have h := c.leftPlace_lt size
  line (c.samples.get ⟨c.leftPlace size, by omega⟩) (c.samples.get ⟨c.leftPlace size + 1, h⟩) size

/-- The forecast of the curve through the samples. -/
def extrapolation : Extrapolation := fun ss => (fit ss).map predict

end Curve

end PlanReuse
