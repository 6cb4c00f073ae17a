import PlanReuse.Number.Read

/-!
# Numbers of extended precision

Numbers with 64 significant bits, as programs use them that print and step through numbers, and the
numerals that texts write. Every result is the nearest number, a half going to the even neighbour.
-/

namespace PlanReuse.Script

/-- How large a number is: a whole number times a power of two, or beyond all of them, or none at all. -/
inductive Size
  | finite (m : Nat) (q : Int)
  | infinite
  | undefined
deriving DecidableEq

/-- A number with a sign. -/
structure Extended where
  negative : Bool
  size : Size
deriving DecidableEq

namespace Extended

def zero : Extended := ⟨false, .finite 0 0⟩

/-- The bits of a significand. -/
def precision : Nat := 64

/-- From this power of two on a number is infinite. -/
def limit : Int := 16384

/-- The fraction rounded to the significant bits there are. -/
def nearestSize (num den : Nat) : Size :=
  if num = 0 then .finite 0 0
  else
    let low : Int := max ((num.log2 : Int) - den.log2 - precision) (-16445)
    let (a, b) := Binary64.shiftQuotient num den (-low)
    let (q, a, b) := if Nat.pow 2 precision * b ≤ a then (low + 1, a, 2 * b) else (low, a, b)
    let m := Binary64.roundHalfEven a b
    if limit ≤ q + m.log2 then .infinite else .finite m q

def nearest (negative : Bool) (num den : Nat) : Extended := ⟨negative, nearestSize num den⟩

/-- The number nearest to an integer times a power of two. -/
def ofSteps (n : Int) (q : Int) : Extended :=
  let (a, b) := Binary64.shiftQuotient n.natAbs 1 q
  nearest (decide (n < 0)) a b

def ofInt (n : Int) : Extended := ofSteps n 0

/-- A double as it is. -/
def ofDouble (x : Binary64) : Extended :=
  ⟨x.isNegative,
    if x.isNaN then .undefined
    else if x.isInfinite then .infinite
    else .finite x.scaled.1 x.scaled.2⟩

/-- A finite number in steps of a power of two that is not above its own. -/
def steps (negative : Bool) (m : Nat) (q low : Int) : Int :=
  let n := m * Nat.pow 2 (q - low).toNat
  if negative then -(n : Int) else n

def negate (x : Extended) : Extended := { x with negative := !x.negative }

def add (x y : Extended) : Extended :=
  match x.size, y.size with
  | .undefined, _ => x
  | _, .undefined => y
  | .infinite, .infinite => if x.negative = y.negative then x else ⟨false, .undefined⟩
  | .infinite, _ => x
  | _, .infinite => y
  | .finite m p, .finite n q =>
    let low := min p q
    let sum := steps x.negative m p low + steps y.negative n q low
    if sum = 0 then ⟨x.negative && y.negative, .finite 0 0⟩ else ofSteps sum low

def mul (x y : Extended) : Extended :=
  let negative := x.negative != y.negative
  match x.size, y.size with
  | .undefined, _ => x
  | _, .undefined => y
  | .infinite, .finite 0 _ | .finite 0 _, .infinite => ⟨false, .undefined⟩
  | .infinite, _ | _, .infinite => ⟨negative, .infinite⟩
  | .finite m p, .finite n q => { ofSteps (m * n) (p + q) with negative }

def div (x y : Extended) : Extended :=
  let negative := x.negative != y.negative
  match x.size, y.size with
  | .undefined, _ => x
  | _, .undefined => y
  | .infinite, .infinite | .finite 0 _, .finite 0 _ => ⟨false, .undefined⟩
  | .infinite, _ | _, .finite 0 _ => ⟨negative, .infinite⟩
  | _, .infinite => ⟨negative, .finite 0 0⟩
  | .finite m p, .finite n q =>
    let (a, b) := Binary64.shiftQuotient m n (p - q)
    nearest negative a b

/-- The order of numbers; what is no number has no place in it. -/
def compare? (x y : Extended) : Option Ordering :=
  match x.size, y.size with
  | .undefined, _ | _, .undefined => none
  | .infinite, .infinite => some (compare y.negative x.negative)
  | .infinite, _ => some (if x.negative then .lt else .gt)
  | _, .infinite => some (if y.negative then .gt else .lt)
  | .finite m p, .finite n q =>
    let low := min p q
    some (compare (steps x.negative m p low) (steps y.negative n q low))

theorem compare?_undefined (x y : Extended) (h : x.size = .undefined) : x.compare? y = none := by
  simp [compare?, h]

/-- The whole part of a finite number. -/
def truncate (x : Extended) : Int :=
  match x.size with
  | .finite m q =>
    let (a, b) := Binary64.shiftQuotient m 1 q
    let n : Int := a / b
    if x.negative then -n else n
  | _ => 0

end Extended

/-! ### Numerals -/

/-- What a numeral stands for, before it is rounded. -/
inductive Numeral
  /-- A whole number times a power of ten. -/
  | decimal (n : Nat) (e : Int)
  /-- A whole number times a power of two. -/
  | binary (n : Nat) (e : Int)
  | infinite
  | undefined

namespace Numeral

/-- The number as a fraction. A power far outside the ranges there are is not computed. -/
def size (round : Nat → Nat → Size) : Numeral → Size
  | .infinite => .infinite
  | .undefined => .undefined
  | .binary n e =>
    if 20000 < e then (if n = 0 then .finite 0 0 else .infinite)
    else if e + n.log2 < -20000 then .finite 0 0
    else
      let (a, b) := Binary64.shiftQuotient n 1 e
      round a b
  | .decimal n e =>
    let lead := ((Nat.toDigits 10 n).length : Int) + e
    if n = 0 ∨ lead < -6000 then .finite 0 0
    else if 6000 < lead then .infinite
    else if 0 ≤ e then round (n * Nat.pow 10 e.toNat) 1
    else round n (Nat.pow 10 (-e).toNat)

def extended (negative : Bool) (n : Numeral) : Extended := ⟨negative, n.size Extended.nearestSize⟩

def double (negative : Bool) (n : Numeral) : Binary64 :=
  .ofParts negative (match n with
    | .infinite => Binary64.infinityBits
    | .undefined => Binary64.nanBits
    | .decimal n e => Number.decimalMagnitude n e
    | .binary n e =>
      if n = 0 ∨ e + n.log2 < -1100 then 0
      else if 1100 < e + n.log2 then Binary64.infinityBits
      else
        let (a, b) := Binary64.shiftQuotient n 1 e
        Binary64.nearestMagnitude a b)

/-- Digits of a base with a point among them: their value and how many stand behind the point. -/
def readDigits (value? : Char → Option Nat) (base : Nat) : Option Nat → Nat → Nat → List Char →
    Nat × Nat × Nat × List Char
  | places, count, n, [] => (n, count, places.getD 0, [])
  | places, count, n, c :: r =>
    match value? c with
    | some d => readDigits value? base (places.map (· + 1)) (count + 1) (n * base + d) r
    | none =>
      if c = '.' ∧ places.isNone then
        readDigits value? base (some 0) count n r
      else (n, count, places.getD 0, c :: r)

/-- The exponent behind a letter; without digits there is none. -/
def readPower (letter : Char) (s : List Char) : Int × List Char :=
  match s with
  | c :: r =>
    if c.toLower = letter then
      let (negative, t) := Number.splitSign r
      let ds := t.takeWhile Char.isDigit
      if ds.isEmpty then (0, s)
      else (if negative then -(Number.ofDigits ds : Int) else Number.ofDigits ds, t.drop ds.length)
    else (0, s)
  | [] => (0, [])

def hexDigit? (c : Char) : Option Nat :=
  if c.isDigit then some (c.toNat - 48)
  else if 'a' ≤ c.toLower ∧ c.toLower ≤ 'f' then some (c.toLower.toNat - 87)
  else none

/-- The numeral in front of a text without a sign, and the rest. With `hex` there are hexadecimal ones
behind `0x`. -/
def read? (hex : Bool) (s : List Char) : Option (Numeral × List Char) :=
  let named := ["infinity", "inf", "nan"].find? fun n => n.toList.isPrefixOf (s.map Char.toLower)
  match named with
  | some n => some (if n = "nan" then .undefined else .infinite, s.drop n.length)
  | none =>
    let asHex : Option (Numeral × List Char) :=
      match s with
      | '0' :: x :: r =>
        if hex ∧ (x = 'x' ∨ x = 'X') then
          match readDigits hexDigit? 16 none 0 0 r with
          | (_, 0, _, _) => none
          | (n, _, places, rest) =>
            let (e, rest) := readPower 'p' rest
            some (.binary n (e - 4 * places), rest)
        else none
      | _ => none
    asHex <|>
      match readDigits (fun c => if c.isDigit then some (c.toNat - 48) else none) 10 none 0 0 s with
      | (_, 0, _, _) => none
      | (n, _, places, rest) =>
        let (e, rest) := readPower 'e' rest
        some (.decimal n (e - places), rest)

end Numeral

end PlanReuse.Script
