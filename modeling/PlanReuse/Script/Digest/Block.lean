/-!
# Blocks of words

Digests take texts in blocks of words. Here are the words of a row of bytes in both orders of bytes, the
padding that makes whole blocks, and the words of numbers that nobody has chosen: the first binary places
of the roots of primes.
-/

namespace PlanReuse.Script.Hash

/-- The number that bytes write, the most significant first. -/
def ofBigEndian (bytes : List UInt8) : Nat := bytes.foldl (fun n b => n * 256 + b.toNat) 0

/-- The bytes of a number, the most significant first. -/
def bigEndian (width n : Nat) : List UInt8 :=
  ((List.range width).map fun i => UInt8.ofNat (n / Nat.pow 256 i % 256)).reverse

/-- Rows of a number of elements; the last one may be shorter. -/
def groups {α : Type} (size : Nat) : Nat → List α → List (List α)
  | 0, _ => []
  | fuel + 1, s => if s.isEmpty then [] else s.take size :: groups size fuel (s.drop size)

/-- The words of bytes. -/
def wordsOf (width : Nat) (bigFirst : Bool) (bytes : List UInt8) : List (BitVec width) :=
  (groups (width / 8) bytes.length bytes).map fun g =>
    BitVec.ofNat width (ofBigEndian (if bigFirst then g else g.reverse))

/-- Bytes with a one, zeros and their number of bits behind them, so that they fill blocks. -/
def padded (block lengthWidth : Nat) (bigFirst : Bool) (bytes : List UInt8) : List UInt8 :=
  let n := bytes.length
  let zeros := (2 * block - 1 - lengthWidth - n % block) % block
  let count := bigEndian lengthWidth (8 * n)
  bytes ++ 0x80 :: List.replicate zeros 0 ++ if bigFirst then count else count.reverse

/-- The digits of a byte. -/
def hexByte (b : UInt8) : List Char :=
  let digit (n : Nat) : Char := Nat.digitChar n
  [digit (b.toNat / 16), digit (b.toNat % 16)]

def hexText (bytes : List UInt8) : String := String.ofList (bytes.flatMap hexByte)

/-! ### Roots of primes -/

/-- The largest number whose power is not above another one, built bit by bit. -/
def rootBelow (power n : Nat) : Nat → Nat → Nat
  | 0, root => root
  | bit + 1, root =>
    let next := root + Nat.pow 2 bit
    rootBelow power n bit (if Nat.pow next power ≤ n then next else root)

def isPrime (n : Nat) : Bool := 2 ≤ n && (List.range n).all fun d => d < 2 || n % d ≠ 0

/-- The first primes; all of them are below the bound. -/
def primes (count : Nat) : List Nat := ((List.range 500).filter isPrime).take count

/-- The first binary places behind the point of a root of a number. -/
def rootPlaces (power places n : Nat) : Nat :=
  rootBelow power (n * Nat.pow 2 (places * power)) (places + 5) 0 % Nat.pow 2 places

theorem bigEndian_length (width n : Nat) : (bigEndian width n).length = width := by
  simp [bigEndian]

end PlanReuse.Script.Hash
