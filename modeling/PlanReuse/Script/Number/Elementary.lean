import PlanReuse.Number.Arithmetic

/-!
# Elementary functions of doubles

Powers, roots, exponentials, logarithms and the functions of the circle. They are worked out in integers,
with many more binary places than a double has, and then rounded.
-/

namespace PlanReuse.Binary64

/-! ### Numbers with a set number of places -/

/-- A finite magnitude as a fraction. -/
def fraction (x : Binary64) : Nat × Nat :=
  let (m, q) := x.scaled
  shiftQuotient m 1 q

/-- A sign put before a number. -/
def signed (negative : Bool) (n : Nat) : Int := if negative then -(n : Int) else n

/-- The binary places that are worked out. -/
def places : Nat := 256

/-- The number one with its places. -/
def unit : Int := (Nat.pow 2 places : Nat)

def timesUnits (a b : Int) : Int := Int.tdiv (a * b) unit

/-- A finite number, with its places. -/
def toPlaces (x : Binary64) : Int :=
  let (a, b) := x.fraction
  signed x.isNegative (a * unit.toNat / b)

/-- The double nearest to a number with places times a power of two. -/
def ofPlaces (n power : Int) : Binary64 := nearestScaled (n < 0) n.natAbs (power - places)

/-- The sum of `t ^ (2 * i + 1) / (2 * i + 1)` from a term on, the signs all plus or in turn. -/
def oddSeries (sign square : Int) : Nat → Nat → Int → Int
  | 0, _, _ => 0
  | fuel + 1, i, power =>
    if power = 0 then 0
    else Int.tdiv power (2 * i + 1) + oddSeries sign square fuel (i + 1) (sign * timesUnits power square)

/-- The sum of products: each term is the one before, times a factor, over the next of some divisors. -/
def productSeries (factor : Int) (divisor : Nat → Nat) : Nat → Nat → Int → Int
  | 0, _, _ => 0
  | fuel + 1, i, term =>
    if term = 0 then 0
    else term + productSeries factor divisor fuel (i + 1) (Int.tdiv (timesUnits term factor) (divisor i))

/-- The area tangent of a number of at most a third. -/
def areaTangent (t : Int) : Int := oddSeries 1 (timesUnits t t) places 0 t

/-- The angle with a tangent of at most a fifth. -/
def smallAngle (t : Int) : Int := oddSeries (-1) (timesUnits t t) places 0 t

/-- The natural logarithm of two. -/
def logTwo : Int := 2 * areaTangent (unit / 3)

/-- Half the way around the circle. -/
def halfTurn : Int := 16 * smallAngle (unit / 5) - 4 * smallAngle (unit / 239)

/-! ### Roots -/

/-- The whole part of a square root, from a number that is not below it. -/
def rootFrom (n : Nat) : Nat → Nat → Nat
  | 0, g => g
  | fuel + 1, g =>
    let h := (g + n / g) / 2
    if h < g then rootFrom n fuel h else g

def floorRoot (n : Nat) : Nat :=
  if n = 0 then 0 else rootFrom n (n.log2 + 4) (Nat.pow 2 (n.log2 / 2 + 1))

/-- The result of an operation outside its domain. -/
def undefined : Binary64 := ofParts true nanBits

def sqrt (x : Binary64) : Binary64 :=
  if x.isNaN || x.isZero then x
  else if x.isNegative then undefined
  else if x.isInfinite then x
  else
    let (m, q) := x.scaled
    let (m, q) := if q % 2 = 0 then (m, q) else (2 * m, q - 1)
    let n := m * Nat.pow 4 64
    let r := floorRoot n
    nearestScaled false (if r * r = n then 2 * r else 2 * r + 1) (q / 2 - 65)

/-! ### Whole parts -/

/-- The whole number in front of the point. -/
def whole (x : Binary64) : Int := signed x.isNegative (x.fraction.1 / x.fraction.2)

def isWhole (x : Binary64) : Bool := !x.isNaN && !x.isInfinite && x.fraction.1 % x.fraction.2 == 0

/-- The number without its fraction. -/
def truncate (x : Binary64) : Binary64 :=
  if x.isNaN || x.isInfinite then x else nearest x.isNegative x.whole.natAbs 1

/-- What is left by a division with a whole quotient; it has the sign of the dividend. -/
def rem (x y : Binary64) : Binary64 :=
  if x.isNaN || y.isNaN then nan
  else if x.isInfinite || y.isZero then undefined
  else if y.isInfinite then x
  else
    let (m, p) := x.scaled
    let (n, q) := y.scaled
    let low := min p q
    let rest := (steps false m p low).toNat % (steps false n q low).toNat
    nearestScaled x.isNegative rest low

/-! ### Exponentials and logarithms -/

/-- The exponential of a number with places. -/
def expOf (n : Int) : Binary64 :=
  if 800 * unit < n then infinity false
  else if n < -800 * unit then ofParts false 0
  else
    let k := Int.fdiv n logTwo
    ofPlaces (productSeries (n - k * logTwo) (· + 1) places 0 unit) k

/-- The logarithm of a positive number, with places. -/
def logOf (x : Binary64) : Int :=
  let (m, q) := x.scaled
  let e := m.log2
  let f := (m : Int) * unit / (Nat.pow 2 e : Nat)
  (q + e) * logTwo + 2 * areaTangent ((f - unit) * unit / (f + unit))

def exp (x : Binary64) : Binary64 :=
  if x.isNaN then x
  else if x.isInfinite then if x.isNegative then ofParts false 0 else x
  else expOf x.toPlaces

def log (x : Binary64) : Binary64 :=
  if x.isNaN then x
  else if x.isZero then infinity true
  else if x.isNegative then undefined
  else if x.isInfinite then x
  else ofPlaces x.logOf 0

/-! ### Powers -/

/-- The largest exponent for which a power is worked out exactly. -/
def exactPowers : Nat := 1024

/-- The power of a finite number that is not zero with a whole exponent. -/
def wholePower (x : Binary64) (n : Int) : Binary64 :=
  let negative := x.isNegative && n % 2 != 0
  if n.natAbs ≤ exactPowers then
    let (m, q) := x.scaled
    let (a, b) := shiftQuotient (Nat.pow m n.natAbs) 1 (q * n.natAbs)
    if n < 0 then nearest negative b a else nearest negative a b
  else
    let y := expOf (logOf (ofParts false x.magnitude) * n)
    if negative then y.negate else y

def pow (x y : Binary64) : Binary64 :=
  if y.isZero then ofNat 1
  else if x.isNaN || y.isNaN then nan
  else if x = ofNat 1 then x
  else if y.isInfinite then
    let grows := !((ofParts false x.magnitude).less (ofNat 1))
    if x.magnitude = (ofNat 1).magnitude then ofNat 1
    else if grows != y.isNegative then infinity false else ofParts false 0
  else
    let odd := y.isWhole && y.whole % 2 != 0
    if x.isZero || x.isInfinite then
      let negative := x.isNegative && odd
      if x.isZero != y.isNegative then ofParts negative 0 else infinity negative
    else if y.isWhole then wholePower x y.whole
    else if x.isNegative then undefined
    else
      let (a, b) := y.fraction
      expOf (Int.tdiv (x.logOf * signed y.isNegative a) b)

/-! ### The circle -/

/-- Whether a number is so small that its sine and tangent are the number itself. -/
def isSlight (x : Binary64) : Bool := x.fraction.1 * Nat.pow 2 30 < x.fraction.2

/-- The sine of an angle of at most a quarter turn, and the cosine. -/
def sineOf (r : Int) : Int := productSeries (-timesUnits r r) (fun i => (2 * i + 2) * (2 * i + 3)) places 0 r

def cosineOf (r : Int) : Int :=
  productSeries (-timesUnits r r) (fun i => (2 * i + 1) * (2 * i + 2)) places 0 unit

/-- The sine of an angle some quarter turns ahead. -/
def sineAhead (quarters : Int) (x : Binary64) : Binary64 :=
  let quarter := halfTurn / 2
  let n := Int.fdiv x.toPlaces quarter
  let r := x.toPlaces - n * quarter
  let value := match (n + quarters) % 4 with
    | 0 => sineOf r
    | 1 => cosineOf r
    | 2 => -sineOf r
    | _ => -cosineOf r
  ofPlaces value 0

def sin (x : Binary64) : Binary64 :=
  if x.isNaN then x else if x.isInfinite then undefined else if x.isSlight then x else sineAhead 0 x

def cos (x : Binary64) : Binary64 :=
  if x.isNaN then x else if x.isInfinite then undefined else sineAhead 1 x

/-- Half the tangent's angle: the tangent of half the angle with a tangent. -/
def halveTangent (t : Int) : Int :=
  t * unit / (unit + floorRoot ((unit + timesUnits t t) * unit).toNat)

/-- The angle with a tangent of at most one. -/
def angle (t : Int) : Int := 4 * smallAngle (halveTangent (halveTangent t))

/-- The angle of the point with coordinates `x` and `y`. -/
def atan2 (y x : Binary64) : Binary64 :=
  let beside (n : Int) : Binary64 := if y.isNegative then ofPlaces (-n) 0 else ofPlaces n 0
  if x.isNaN || y.isNaN then nan
  else if y.isZero then if x.isNegative then beside halfTurn else y
  else if y.isInfinite then
    if x.isInfinite then beside (if x.isNegative then 3 * halfTurn / 4 else halfTurn / 4)
    else beside (halfTurn / 2)
  else if x.isInfinite then if x.isNegative then beside halfTurn else ofParts y.isNegative 0
  else if x.isZero then beside (halfTurn / 2)
  else
    let a := y.fraction.1 * x.fraction.2
    let b := x.fraction.1 * y.fraction.2
    if !x.isNegative && a * Nat.pow 2 30 < b then y.div x
    else
      let t := if a ≤ b then angle (a * unit / b) else halfTurn / 2 - angle (b * unit / a)
      beside (if x.isNegative then halfTurn - t else t)

/-! ### Small facts -/

theorem pow_zero_right (x : Binary64) : x.pow (ofParts false 0) = ofNat 1 := by
  have h : (ofParts false 0).isZero = true := by decide +kernel
  simp [pow, h]

end PlanReuse.Binary64
