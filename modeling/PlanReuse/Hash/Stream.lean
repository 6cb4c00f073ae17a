/-!
# Byte streams

What is hashed is first laid out as bytes: words in little-endian order at their own width, and a text
as its UTF-8 bytes closed by `0xff`, a byte that UTF-8 never holds.
-/

namespace PlanReuse.Hash

/-- The `width` low bytes of a number, the least significant first. -/
def littleEndian : Nat → Nat → List UInt8
  | 0, _ => []
  | width + 1, n => UInt8.ofNat (n % 256) :: littleEndian width (n / 256)

/-- A 64-bit word. -/
def word (n : Nat) : List UInt8 := littleEndian 8 n

/-- A 32-bit signed number, in two's complement. -/
def word32 (n : Int32) : List UInt8 := littleEndian 4 n.toUInt32.toNat

/-- A text and the byte that ends it. -/
def terminated (s : String) : List UInt8 := s.toList.flatMap String.utf8EncodeChar ++ [0xff]

theorem length_littleEndian (width n : Nat) : (littleEndian width n).length = width := by
  induction width generalizing n with
  | zero => rfl
  | succ width ih => simp [littleEndian, ih]

end PlanReuse.Hash
