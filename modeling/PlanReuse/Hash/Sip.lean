/-!
# SipHash

The keyed hash SipHash with one compression round, three finishing rounds and the
zero key. Plan digests and artifact keys are its values.
-/

namespace PlanReuse.Hash

/-- The four lanes. -/
structure SipState where
  v0 : UInt64
  v1 : UInt64
  v2 : UInt64
  v3 : UInt64

namespace SipState

/-- The lanes for the zero key. -/
def start : SipState :=
  ⟨0x736f6d6570736575, 0x646f72616e646f6d, 0x6c7967656e657261, 0x7465646279746573⟩

def rotateLeft (x k : UInt64) : UInt64 := (x <<< k) ||| (x >>> (64 - k))

def round (s : SipState) : SipState :=
  let v0 := s.v0 + s.v1
  let v1 := rotateLeft s.v1 13 ^^^ v0
  let v0 := rotateLeft v0 32
  let v2 := s.v2 + s.v3
  let v3 := rotateLeft s.v3 16 ^^^ v2
  let v0 := v0 + v3
  let v3 := rotateLeft v3 21 ^^^ v0
  let v2 := v2 + v1
  let v1 := rotateLeft v1 17 ^^^ v2
  let v2 := rotateLeft v2 32
  ⟨v0, v1, v2, v3⟩

/-- Takes in one block. -/
def absorb (s : SipState) (block : UInt64) : SipState :=
  let s := round { s with v3 := s.v3 ^^^ block }
  { s with v0 := s.v0 ^^^ block }

def finish (s : SipState) : UInt64 :=
  let s := round (round (round { s with v2 := s.v2 ^^^ 0xff }))
  s.v0 ^^^ s.v1 ^^^ s.v2 ^^^ s.v3

end SipState

/-- The number whose bytes, the least significant first, are given. -/
def ofLittleEndian (bytes : List UInt8) : UInt64 :=
  bytes.foldr (fun b n => (n <<< 8) ||| b.toUInt64) 0

/-- Takes in whole blocks; the last, partial one carries the length of the stream in its top byte. -/
def absorbAll (total : Nat) (s : SipState) : List UInt8 → SipState
  | b0 :: b1 :: b2 :: b3 :: b4 :: b5 :: b6 :: b7 :: rest =>
    absorbAll total (s.absorb (ofLittleEndian [b0, b1, b2, b3, b4, b5, b6, b7])) rest
  | tail => s.absorb (ofLittleEndian tail ||| ((UInt64.ofNat total) <<< 56))

/-- The hash of a byte stream. -/
def sip (bytes : List UInt8) : UInt64 := (absorbAll bytes.length SipState.start bytes).finish

end PlanReuse.Hash
