import PlanReuse.Number.Binary64
import PlanReuse.Number.Word

/-!
# Reading numbers

The number fields of a report: a natural number below `2 ^ 64`, and a double in any of its usual
spellings, rounded to the nearest.
-/

namespace PlanReuse.Number

/-- The value of a list of decimal digits, read from the left. -/
def ofDigits (ds : List Char) : Nat := Nat.ofDigitChars 10 ds 0

/-- A plus sign in front counts for nothing. -/
def dropPlus : List Char → List Char
  | '+' :: r => r
  | s => s

/-- Digits of a number that fits 64 bits. -/
def wordOfDigits? (ds : List Char) : Option Nat :=
  if ds ≠ [] ∧ ds.all Char.isDigit ∧ ofDigits ds ≤ maxWord then some (ofDigits ds) else none

/-- A 64-bit word, with a plus sign if there is one. -/
def readWord? (s : List Char) : Option Nat := wordOfDigits? (dropPlus s)

theorem readWord?_le {s : List Char} {n : Nat} (h : readWord? s = some n) : n ≤ maxWord := by
  simp only [readWord?, wordOfDigits?] at h
  split at h
  · next hw => exact Option.some.inj h ▸ hw.2.2
  · exact absurd h (by simp)

/-! ### Doubles -/

/-- Splits a sign off; true is minus. -/
def splitSign : List Char → Bool × List Char
  | '-' :: r => (true, r)
  | '+' :: r => (false, r)
  | s => (false, s)

/-- The exponent part: nothing, or `e`, a sign if there is one, and digits. -/
def readExponent? : List Char → Option Int
  | [] => some 0
  | c :: r =>
    if c = 'e' ∨ c = 'E' then
      let (negative, ds) := splitSign r
      if ds ≠ [] ∧ ds.all Char.isDigit then
        some (if negative then -(ofDigits ds : Int) else ofDigits ds)
      else none
    else none

/-- The magnitude nearest to `d * 10 ^ e`. Far outside the range of doubles the power is not computed. -/
def decimalMagnitude (d : Nat) (e : Int) : Nat :=
  let lead := ((Nat.toDigits 10 d).length : Int) + e
  if d = 0 ∨ lead < -400 then 0
  else if 400 < lead then Binary64.infinityBits
  else if 0 ≤ e then Binary64.nearestMagnitude (d * Nat.pow 10 e.toNat) 1
  else Binary64.nearestMagnitude d (Nat.pow 10 (-e).toNat)

/-- Digits with at most one point among them, at least one digit, then an exponent if there is one. -/
def readDecimal? (s : List Char) : Option Nat :=
  let whole := s.takeWhile Char.isDigit
  let rest := s.dropWhile Char.isDigit
  let (places, rest) := match rest with
    | '.' :: r => (r.takeWhile Char.isDigit, r.dropWhile Char.isDigit)
    | _ => ([], rest)
  if whole = [] ∧ places = [] then none
  else (readExponent? rest).map fun e => decimalMagnitude (ofDigits (whole ++ places)) (e - places.length)

/-- The magnitudes that have a name, in any case of letters. -/
def readNamed? (s : List Char) : Option Nat :=
  let name := s.map Char.toLower
  if name = ['n', 'a', 'n'] then some Binary64.nanBits
  else if name = ['i', 'n', 'f'] ∨ name = ['i', 'n', 'f', 'i', 'n', 'i', 't', 'y'] then
    some Binary64.infinityBits
  else none

/-- A double, with a sign if there is one. -/
def readDouble? (s : List Char) : Option Binary64 :=
  let (negative, body) := splitSign s
  (readNamed? body <|> readDecimal? body).map (Binary64.ofParts negative)

end PlanReuse.Number
