import PlanReuse.Script.Digest.Block

/-!
# Secure hashes

The digests SHA-1 and SHA-2. Those of the second family differ in the width of their words, in the shifts
of their mixing functions and in where they start.
-/

namespace PlanReuse.Script.Hash

/-! ### The second family -/

/-- A mixing function: a word turned by some bits, and again, and again or shifted. -/
structure Mix where
  first : Nat
  second : Nat
  third : Nat
  shifts : Bool

def Mix.apply {w : Nat} (m : Mix) (x : BitVec w) : BitVec w :=
  x.rotateRight m.first ^^^ x.rotateRight m.second ^^^
    if m.shifts then x >>> m.third else x.rotateRight m.third

/-- A digest with words of some width. -/
structure Secure (w : Nat) where
  /-- The constants, one for each round. -/
  constants : Array (BitVec w)
  large : Mix
  largeSecond : Mix
  small : Mix
  smallSecond : Mix

namespace Secure

variable {w : Nat}

/-- The words of a block and those that follow from them. -/
def schedule (h : Secure w) : Nat → Array (BitVec w) → Array (BitVec w)
  | 0, ws => ws
  | count + 1, ws =>
    let n := ws.size
    let back (i : Nat) : BitVec w := ws.getD (n - i) 0
    h.schedule count (ws.push (h.smallSecond.apply (back 2) + back 7 + h.small.apply (back 15) + back 16))

/-- A round: a constant and a word are mixed into eight words. -/
def round (h : Secure w) (s : Array (BitVec w)) (k : BitVec w × BitVec w) : Array (BitVec w) :=
  let word (i : Nat) : BitVec w := s.getD i 0
  let e := word 4
  let choice := (e &&& word 5) ^^^ (~~~e &&& word 6)
  let a := word 0
  let majority := (a &&& word 1) ^^^ (a &&& word 2) ^^^ (word 1 &&& word 2)
  let x := word 7 + h.largeSecond.apply e + choice + k.1 + k.2
  #[x + h.large.apply a + majority, a, word 1, word 2, word 3 + x, e, word 5, word 6]

def block (h : Secure w) (s : Array (BitVec w)) (words : List (BitVec w)) : Array (BitVec w) :=
  let ws := h.schedule (h.constants.size - 16) words.toArray
  (s.zip ((h.constants.zip ws).foldl h.round s)).map fun (x, y) => x + y

/-- The digest of some bytes. -/
def digest (h : Secure w) (start : List (BitVec w)) (bytes : List UInt8) : List UInt8 :=
  let text := padded (2 * w) (w / 4) true bytes
  let blocks := groups 16 text.length (wordsOf w true text)
  ((blocks.foldl h.block start.toArray).toList).flatMap fun x => bigEndian (w / 8) x.toNat

end Secure

def secure32 : Secure 32 :=
  ⟨((primes 64).map fun p => BitVec.ofNat 32 (rootPlaces 3 32 p)).toArray,
    ⟨2, 13, 22, false⟩, ⟨6, 11, 25, false⟩, ⟨7, 18, 3, true⟩, ⟨17, 19, 10, true⟩⟩

def secure64 : Secure 64 :=
  ⟨((primes 80).map fun p => BitVec.ofNat 64 (rootPlaces 3 64 p)).toArray,
    ⟨28, 34, 39, false⟩, ⟨14, 18, 41, false⟩, ⟨1, 8, 7, true⟩, ⟨19, 61, 6, true⟩⟩

/-- The square roots of the first eight primes, and of the next eight. -/
def startWords (w : Nat) (isLater : Bool) : List (BitVec w) :=
  ((primes 16).drop (if isLater then 8 else 0)).take 8 |>.map fun p => BitVec.ofNat w (rootPlaces 2 64 p)

def sha256 (bytes : List UInt8) : List UInt8 :=
  secure32.digest ((startWords 64 false).map fun (x : BitVec 64) => (x >>> 32).setWidth 32) bytes

def sha224 (bytes : List UInt8) : List UInt8 :=
  (secure32.digest ((startWords 64 true).map fun (x : BitVec 64) => x.setWidth 32) bytes).take 28

def sha512 (bytes : List UInt8) : List UInt8 := secure64.digest (startWords 64 false) bytes

def sha384 (bytes : List UInt8) : List UInt8 := (secure64.digest (startWords 64 true) bytes).take 48

/-! ### The first one -/

def sha1Schedule : Nat → Array (BitVec 32) → Array (BitVec 32)
  | 0, ws => ws
  | count + 1, ws =>
    let back (i : Nat) : BitVec 32 := ws.getD (ws.size - i) 0
    sha1Schedule count (ws.push ((back 3 ^^^ back 8 ^^^ back 14 ^^^ back 16).rotateLeft 1))

def sha1Round (s : Array (BitVec 32)) (k : BitVec 32 × Nat) : Array (BitVec 32) :=
  let word (i : Nat) : BitVec 32 := s.getD i 0
  let b := word 1
  let c := word 2
  let d := word 3
  let (f, constant) : BitVec 32 × BitVec 32 :=
    if k.2 < 20 then ((b &&& c) ||| (~~~b &&& d), 0x5A827999)
    else if k.2 < 40 then (b ^^^ c ^^^ d, 0x6ED9EBA1)
    else if k.2 < 60 then ((b &&& c) ||| (b &&& d) ||| (c &&& d), 0x8F1BBCDC)
    else (b ^^^ c ^^^ d, 0xCA62C1D6)
  #[(word 0).rotateLeft 5 + f + word 4 + constant + k.1, word 0, b.rotateLeft 30, c, d]

def sha1Block (s : Array (BitVec 32)) (words : List (BitVec 32)) : Array (BitVec 32) :=
  let ws := sha1Schedule 64 words.toArray
  (s.zip (ws.zipIdx.foldl sha1Round s)).map fun (x, y) => x + y

def sha1 (bytes : List UInt8) : List UInt8 :=
  let text := padded 64 8 true bytes
  let start : Array (BitVec 32) := #[0x67452301, 0xEFCDAB89, 0x98BADCFE, 0x10325476, 0xC3D2E1F0]
  (((groups 16 text.length (wordsOf 32 true text)).foldl sha1Block start).toList).flatMap fun x =>
    bigEndian 4 x.toNat

end PlanReuse.Script.Hash
