import PlanReuse.Number.Binary64

/-!
# Decimal text of a double

`shortest` finds the fewest decimal digits that read back as the number, and of those the nearest.
`Layout` holds what a format adds to the digits: where positional notation begins and ends. `fixed`
writes a set number of places.
-/

namespace PlanReuse.Decimal

/-- The decimal digits of a natural number. -/
def digits (n : Nat) : List Char := Nat.toDigits 10 n

/-! ### Fewest digits that read back -/

/-- The reals that round to a double, in quarter steps of its unit: the number is `4 * m` steps. -/
structure Neighbourhood where
  below : Nat
  centre : Nat
  above : Nat
  /-- Both ends round to the number too. -/
  closed : Bool

/-- The lower neighbour of a power of two is half as far away as the upper one. -/
def neighbourhood (m : Nat) (q : Int) : Neighbourhood :=
  { below := if m = Binary64.hiddenBit ∧ -1074 < q then 4 * m - 1 else 4 * m - 2
    centre := 4 * m
    above := 4 * m + 2
    closed := m % 2 == 0 }

/-- The exponent of the leading decimal digit of `m * 2 ^ q`, for a positive `m`. -/
def leadingExponent (m : Nat) (q : Int) : Int :=
  let guess := ((m.log2 : Int) + q) * 30103 / 100000
  let next := guess + 1
  let (a, b) := Binary64.shiftQuotient m 1 q
  let reached := if 0 ≤ next then Nat.pow 10 next.toNat * b ≤ a else b ≤ a * Nat.pow 10 (-next).toNat
  if reached then next else guess

/-- The two neighbours of the number on the grid of `10 ^ k` that lie in its neighbourhood: the nearer
one, the upper one on a tie, or none. -/
def onGrid (hood : Neighbourhood) (q k : Int) : Option Nat :=
  let (unit, step) := Binary64.shiftQuotient 1 1 (q - 2)
  let (unit, step) := if 0 ≤ k then (unit, step * Nat.pow 10 k.toNat) else (unit * Nat.pow 10 (-k).toNat, step)
  let low := hood.centre * unit / step
  let inside (d : Nat) : Bool :=
    if hood.closed then hood.below * unit ≤ d * step && d * step ≤ hood.above * unit
    else hood.below * unit < d * step && d * step < hood.above * unit
  let lowGap := hood.centre * unit - low * step
  let highGap := (low + 1) * step - hood.centre * unit
  match inside low, inside (low + 1) with
  | true, true => some (if lowGap < highGap then low else low + 1)
  | true, false => some low
  | false, true => some (low + 1)
  | false, false => none

/-- The first grid with a hit, trying one more digit each time. -/
def firstHit (hood : Neighbourhood) (q : Int) (lead : Int) : Nat → Nat → Nat × Int
  | _, 0 => (0, 0)
  | count, fuel + 1 =>
    let k := lead - count + 1
    match onGrid hood q k with
    | some d => (d, k)
    | none => firstHit hood q lead (count + 1) fuel

/-- Moves trailing zeros from the digits into the exponent. -/
def dropZeros : Nat → Nat → Int → Nat × Int
  | 0, d, k => (d, k)
  | fuel + 1, d, k => if d ≠ 0 ∧ d % 10 = 0 then dropZeros fuel (d / 10) (k + 1) else (d, k)

/-- The fewest digits that read back as the positive number `m * 2 ^ q`, and the exponent of the last. -/
def shortest (m : Nat) (q : Int) : Nat × Int :=
  let (d, k) := firstHit (neighbourhood m q) q (leadingExponent m q) 1 17
  dropZeros 18 d k

/-! ### Layouts -/

/-- The decisions of a number format. -/
structure Layout where
  /-- Least exponent of the leading digit that is written positionally. -/
  least : Int
  /-- Greatest such exponent. -/
  greatest : Int

/-- Digits with a point among them, and zeros where needed: `d * 10 ^ k` with at least one place. -/
def positional (ds : List Char) (lead : Int) : List Char :=
  if lead < 0 then ['0', '.'] ++ List.replicate (-lead - 1).toNat '0' ++ ds
  else
    let whole := lead.toNat + 1
    let front := ds.take whole
    let back := ds.drop whole
    front ++ List.replicate (whole - front.length) '0' ++ ['.'] ++ (if back.isEmpty then ['0'] else back)

/-- One digit, the others after a point, and the exponent. -/
def scientific (ds : List Char) (lead : Int) : List Char :=
  ds.take 1 ++ (if ds.length ≤ 1 then [] else '.' :: ds.drop 1) ++ ['e'] ++
    (if lead < 0 then ['-'] else []) ++ digits lead.natAbs

/-- A finite magnitude `m * 2 ^ q` in a layout. -/
def magnitudeText (layout : Layout) (m : Nat) (q : Int) : List Char :=
  if m = 0 then ['0', '.', '0']
  else
    let (d, k) := shortest m q
    let ds := digits d
    let lead := k + ds.length - 1
    if layout.least ≤ lead ∧ lead ≤ layout.greatest then positional ds lead else scientific ds lead

/-- The text of a double. A NaN has no sign. -/
def text (layout : Layout) (x : Binary64) : List Char :=
  if x.isNaN then ['N', 'a', 'N']
  else
    (if x.isNegative then ['-'] else []) ++
      if x.isInfinite then ['i', 'n', 'f'] else magnitudeText layout x.scaled.1 x.scaled.2

/-! ### A set number of places -/

/-- The text of a double with `places` decimals, a half going to the even neighbour. -/
def fixed (places : Nat) (x : Binary64) : List Char :=
  if x.isNaN then ['N', 'a', 'N']
  else
    let sign := if x.isNegative then ['-'] else []
    if x.isInfinite then sign ++ ['i', 'n', 'f']
    else
      let (m, q) := x.scaled
      let (a, b) := Binary64.shiftQuotient (m * Nat.pow 10 places) 1 q
      let n := Binary64.roundHalfEven a b
      let back := digits (n % Nat.pow 10 places)
      sign ++ digits (n / Nat.pow 10 places) ++ '.' :: (List.replicate (places - back.length) '0' ++ back)

end PlanReuse.Decimal
