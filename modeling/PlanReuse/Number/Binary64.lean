/-!
# Double-precision numbers as bits

A time is kept as its 64 bits, so that two NaNs of different sign stay apart and samples have a total
order. Comparison looks at sign and magnitude; rounding an exact quotient to the nearest double is done
in natural numbers.
-/

namespace PlanReuse

/-- A number of the IEEE 754 binary64 format. -/
structure Binary64 where
  bits : UInt64
deriving DecidableEq

namespace Binary64

/-! ### Parts of a number -/

/-- The weight of the sign bit. -/
def signBit : Nat := 0x8000000000000000

/-- The weight of the exponent's lowest bit, and of the bit that normal numbers leave out. -/
def hiddenBit : Nat := 0x10000000000000

/-- The sign bit is set. -/
def isNegative (x : Binary64) : Bool := 0x8000000000000000 ≤ x.bits

/-- All bits but the sign. -/
def magnitude (x : Binary64) : Nat := (x.bits &&& 0x7FFFFFFFFFFFFFFF).toNat

theorem isNegative_eq (x : Binary64) : x.isNegative = decide (signBit ≤ x.bits.toNat) := rfl

theorem magnitude_eq (x : Binary64) : x.magnitude = x.bits.toNat % signBit := by
  rw [magnitude, UInt64.toNat_and]
  exact Nat.and_two_pow_sub_one_eq_mod x.bits.toNat 63

/-- The magnitude of infinity; all above it are NaN. -/
def infinityBits : Nat := 2047 * hiddenBit

/-- The magnitude of the usual NaN. -/
def nanBits : Nat := infinityBits + hiddenBit / 2

def isNaN (x : Binary64) : Bool := infinityBits < x.magnitude

def isInfinite (x : Binary64) : Bool := x.magnitude == infinityBits

/-- The significand and the power of two of a finite magnitude: the number is `fst * 2 ^ snd`. -/
def scaled (x : Binary64) : Nat × Int :=
  let field := x.magnitude / hiddenBit
  let fraction := x.magnitude % hiddenBit
  if field = 0 then (fraction, -1074) else (hiddenBit + fraction, Int.ofNat field - 1075)

/-! ### Order and equality -/

/-- The place in the total order: negative NaNs, negative numbers, `-0`, `0`, positive numbers, NaNs. -/
def rank (x : Binary64) : Nat :=
  if x.isNegative then signBit - 1 - x.magnitude else signBit + x.magnitude

/-- The total order loses no bit: equal places are equal numbers. -/
theorem rank_injective {x y : Binary64} (h : x.rank = y.rank) : x = y := by
  obtain ⟨a⟩ := x
  obtain ⟨b⟩ := y
  have ha := a.toNat_lt
  have hb := b.toNat_lt
  congr 1
  apply UInt64.toNat_inj.mp
  simp only [rank, isNegative_eq, magnitude_eq, decide_eq_true_eq] at h
  split at h <;> split at h <;> simp only [signBit] at * <;> omega

/-- The place in the order of numbers, in which both zeros have one place. -/
def place (x : Binary64) : Int := if x.isNegative then -(x.magnitude : Int) else x.magnitude

/-- Equality of numbers: the zeros are equal and a NaN is not equal to itself. -/
def sameNumber (x y : Binary64) : Bool := !x.isNaN && !y.isNaN && x.place == y.place

/-- The order of numbers; a NaN is neither less nor greater than anything. -/
def less (x y : Binary64) : Bool := !x.isNaN && !y.isNaN && decide (x.place < y.place)

theorem not_less_of_isNaN {x y : Binary64} (h : x.isNaN = true ∨ y.isNaN = true) : x.less y = false := by
  rcases h with h | h <;> simp [less, h]

theorem less_trans {x y z : Binary64} (h : x.less y = true) (h' : y.less z = true) :
    x.less z = true := by
  simp only [less, Bool.and_eq_true, decide_eq_true_eq] at h h' ⊢
  exact ⟨⟨h.1.1, h'.1.2⟩, by omega⟩

/-! ### Rounding -/

/-- The quotient rounded to the nearest integer, a half going to the even neighbour. -/
def roundHalfEven (num den : Nat) : Nat :=
  let q := num / den
  let r := num % den
  if 2 * r < den then q
  else if den < 2 * r then q + 1
  else if q % 2 = 0 then q else q + 1

/-- The number `n * 2 ^ e` over `den`, as numerator and denominator. -/
def shiftQuotient (num den : Nat) (e : Int) : Nat × Nat :=
  if 0 ≤ e then (num * Nat.pow 2 e.toNat, den) else (num, den * Nat.pow 2 (-e).toNat)

/-- The magnitude of the double nearest to `num / den`; beyond the largest one it is infinity. -/
def nearestMagnitude (num den : Nat) : Nat :=
  if num = 0 then 0
  else
    let low : Int := max ((num.log2 : Int) - den.log2 - 53) (-1074)
    let (a, b) := shiftQuotient num den (-low)
    let (q, a, b) := if 2 * hiddenBit * b ≤ a then (low + 1, a, 2 * b) else (low, a, b)
    min ((q + 1074).toNat * hiddenBit + roundHalfEven a b) infinityBits

/-- A number with a given sign and magnitude. -/
def ofParts (negative : Bool) (magnitude : Nat) : Binary64 :=
  ⟨UInt64.ofNat (if negative then signBit + magnitude else magnitude)⟩

/-- The double nearest to a natural number. -/
def ofNat (n : Nat) : Binary64 := ofParts false (nearestMagnitude n 1)

end Binary64

end PlanReuse
