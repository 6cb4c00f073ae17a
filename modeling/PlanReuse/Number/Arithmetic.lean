import PlanReuse.Number.Binary64

/-!
# Arithmetic of doubles

Sum, difference, product and quotient, each the double nearest to the exact result. A finite double is a
whole number times a power of two, so exact results are fractions of integers. A result that is not a
number is always the same NaN.
-/

namespace PlanReuse.Binary64

/-- The result of an operation without one. -/
def nan : Binary64 := ofParts false nanBits

def infinity (negative : Bool) : Binary64 := ofParts negative infinityBits

def isZero (x : Binary64) : Bool := x.magnitude == 0

/-- The number with the other sign. -/
def negate (x : Binary64) : Binary64 := ofParts (!x.isNegative) x.magnitude

/-- The double nearest to a fraction with a sign. -/
def nearest (negative : Bool) (num den : Nat) : Binary64 := ofParts negative (nearestMagnitude num den)

/-- The double nearest to a whole number times a power of two. One that has no more digits than a double
needs no rounding. -/
def nearestScaled (negative : Bool) (n : Nat) (power : Int) : Binary64 :=
  let lead := n.log2
  let place := power + lead + 1022
  if n ≠ 0 ∧ lead ≤ 52 ∧ 0 ≤ place ∧ place < 2046 then
    ofParts negative (place.toNat * hiddenBit + n * Nat.pow 2 (52 - lead))
  else
    let (a, b) := shiftQuotient n 1 power
    nearest negative a b

/-- A significand with a sign, in steps of a power of two that is not above its own. -/
def steps (negative : Bool) (significand : Nat) (power low : Int) : Int :=
  let n := significand * Nat.pow 2 (power - low).toNat
  if negative then -(n : Int) else n

/-- The sum. Numbers that cancel give `0`; only `-0` and `-0` give `-0`. -/
def add (x y : Binary64) : Binary64 :=
  if x.isNaN || y.isNaN then nan
  else if x.isInfinite then
    if y.isInfinite && x.isNegative != y.isNegative then nan else x
  else if y.isInfinite then y
  else
    let (m, p) := x.scaled
    let (n, q) := y.scaled
    let low := min p q
    let sum := steps x.isNegative m p low + steps y.isNegative n q low
    if sum = 0 then ofParts (x.isNegative && y.isNegative) 0
    else nearestScaled (decide (sum < 0)) sum.natAbs low

def sub (x y : Binary64) : Binary64 := add x y.negate

def mul (x y : Binary64) : Binary64 :=
  let negative := x.isNegative != y.isNegative
  if x.isNaN || y.isNaN then nan
  else if x.isInfinite || y.isInfinite then
    if x.isZero || y.isZero then nan else infinity negative
  else
    let (m, p) := x.scaled
    let (n, q) := y.scaled
    nearestScaled negative (m * n) (p + q)

def div (x y : Binary64) : Binary64 :=
  let negative := x.isNegative != y.isNegative
  if x.isNaN || y.isNaN then nan
  else if x.isInfinite then
    if y.isInfinite then nan else infinity negative
  else if y.isInfinite then ofParts negative 0
  else if y.isZero then
    if x.isZero then nan else infinity negative
  else
    let (m, p) := x.scaled
    let (n, q) := y.scaled
    let (a, b) := shiftQuotient m n (p - q)
    nearest negative a b

end PlanReuse.Binary64
