import PlanReuse.Script.Digest.Block

/-!
# Plain digests and checksums

The digests MD5 and BLAKE2b, and checksums: the remainder of a polynomial, and sums of bytes.
-/

namespace PlanReuse.Script.Hash

/-! ### MD5 -/

/-- The places of the sines of the first numbers, in 32 bits. -/
def sineWords : Array (BitVec 32) :=
  #[0xd76aa478, 0xe8c7b756, 0x242070db, 0xc1bdceee, 0xf57c0faf, 0x4787c62a, 0xa8304613, 0xfd469501,
    0x698098d8, 0x8b44f7af, 0xffff5bb1, 0x895cd7be, 0x6b901122, 0xfd987193, 0xa679438e, 0x49b40821,
    0xf61e2562, 0xc040b340, 0x265e5a51, 0xe9b6c7aa, 0xd62f105d, 0x02441453, 0xd8a1e681, 0xe7d3fbc8,
    0x21e1cde6, 0xc33707d6, 0xf4d50d87, 0x455a14ed, 0xa9e3e905, 0xfcefa3f8, 0x676f02d9, 0x8d2a4c8a,
    0xfffa3942, 0x8771f681, 0x6d9d6122, 0xfde5380c, 0xa4beea44, 0x4bdecfa9, 0xf6bb4b60, 0xbebfbc70,
    0x289b7ec6, 0xeaa127fa, 0xd4ef3085, 0x04881d05, 0xd9d4d039, 0xe6db99e5, 0x1fa27cf8, 0xc4ac5665,
    0xf4292244, 0x432aff97, 0xab9423a7, 0xfc93a039, 0x655b59c3, 0x8f0ccc92, 0xffeff47d, 0x85845dd1,
    0x6fa87e4f, 0xfe2ce6e0, 0xa3014314, 0x4e0811a1, 0xf7537e82, 0xbd3af235, 0x2ad7d2bb, 0xeb86d391]

/-- By how much words are turned, in each quarter of the rounds. -/
def md5Turns : Array Nat := #[7, 12, 17, 22, 5, 9, 14, 20, 4, 11, 16, 23, 6, 10, 15, 21]

def md5Round (words : Array (BitVec 32)) (s : Array (BitVec 32)) (i : Nat) : Array (BitVec 32) :=
  let a := s.getD 0 0
  let b := s.getD 1 0
  let c := s.getD 2 0
  let d := s.getD 3 0
  let (f, g) : BitVec 32 × Nat :=
    if i < 16 then ((b &&& c) ||| (~~~b &&& d), i)
    else if i < 32 then ((d &&& b) ||| (~~~d &&& c), (5 * i + 1) % 16)
    else if i < 48 then (b ^^^ c ^^^ d, (3 * i + 5) % 16)
    else (c ^^^ (b ||| ~~~d), 7 * i % 16)
  let sum := a + f + sineWords.getD i 0 + words.getD g 0
  #[d, b + sum.rotateLeft (md5Turns.getD (i / 16 * 4 + i % 4) 0), b, c]

def md5Block (s : Array (BitVec 32)) (words : List (BitVec 32)) : Array (BitVec 32) :=
  (s.zip ((List.range 64).foldl (md5Round words.toArray) s)).map fun (x, y) => x + y

def md5 (bytes : List UInt8) : List UInt8 :=
  let text := padded 64 8 false bytes
  let start : Array (BitVec 32) := #[0x67452301, 0xefcdab89, 0x98badcfe, 0x10325476]
  (((groups 16 text.length (wordsOf 32 false text)).foldl md5Block start).toList).flatMap fun x =>
    (bigEndian 4 x.toNat).reverse

/-! ### BLAKE2b -/

/-- The orders in which words of a block are taken. -/
def blakeOrders : Array (Array Nat) :=
  #[#[0, 1, 2, 3, 4, 5, 6, 7, 8, 9, 10, 11, 12, 13, 14, 15],
    #[14, 10, 4, 8, 9, 15, 13, 6, 1, 12, 0, 2, 11, 7, 5, 3],
    #[11, 8, 12, 0, 5, 2, 15, 13, 10, 14, 3, 6, 7, 1, 9, 4],
    #[7, 9, 3, 1, 13, 12, 11, 14, 2, 6, 5, 10, 4, 0, 15, 8],
    #[9, 0, 5, 7, 2, 4, 10, 15, 14, 1, 11, 12, 6, 8, 3, 13],
    #[2, 12, 6, 10, 0, 11, 8, 3, 4, 13, 7, 5, 15, 14, 1, 9],
    #[12, 5, 1, 15, 14, 13, 4, 10, 0, 7, 6, 3, 9, 2, 8, 11],
    #[13, 11, 7, 14, 12, 1, 3, 9, 5, 0, 15, 4, 8, 6, 2, 10],
    #[6, 15, 14, 9, 11, 3, 0, 8, 12, 2, 13, 7, 1, 4, 10, 5],
    #[10, 2, 8, 4, 7, 6, 1, 5, 15, 11, 9, 14, 3, 12, 13, 0]]

def blakeStart : List (BitVec 64) := (primes 8).map fun p => BitVec.ofNat 64 (rootPlaces 2 64 p)

/-- Mixes two words into four. -/
def blakeMix (v : Array (BitVec 64)) (i j k l : Nat) (x y : BitVec 64) : Array (BitVec 64) :=
  let a := v.getD i 0 + v.getD j 0 + x
  let d := (v.getD l 0 ^^^ a).rotateRight 32
  let c := v.getD k 0 + d
  let b := (v.getD j 0 ^^^ c).rotateRight 24
  let a := a + b + y
  let d := (d ^^^ a).rotateRight 16
  let c := c + d
  let b := (b ^^^ c).rotateRight 63
  (((v.setIfInBounds i a).setIfInBounds j b).setIfInBounds k c).setIfInBounds l d

def blakeRound (words : Array (BitVec 64)) (v : Array (BitVec 64)) (r : Nat) : Array (BitVec 64) :=
  let order := blakeOrders.getD (r % 10) #[]
  let steps : List (Nat × Nat × Nat × Nat) :=
    [(0, 4, 8, 12), (1, 5, 9, 13), (2, 6, 10, 14), (3, 7, 11, 15), (0, 5, 10, 15), (1, 6, 11, 12), (2, 7, 8, 13),
      (3, 4, 9, 14)]
  steps.zipIdx.foldl (fun v ((i, j, k, l), n) =>
    blakeMix v i j k l (words.getD (order.getD (2 * n) 0) 0) (words.getD (order.getD (2 * n + 1) 0) 0)) v

/-- Takes in a block; `count` bytes have been taken then, and the last block is marked. -/
def blakeBlock (h : Array (BitVec 64)) (block : List UInt8) (count : Nat) (isLast : Bool) : Array (BitVec 64) :=
  let words := (wordsOf 64 false (block ++ List.replicate (128 - block.length) 0)).toArray
  let start := blakeStart.toArray
  let v := h ++ start
  let v := v.setIfInBounds 12 (start.getD 4 0 ^^^ BitVec.ofNat 64 count)
  let v := if isLast then v.setIfInBounds 14 (~~~(start.getD 6 0)) else v
  let v := (List.range 12).foldl (blakeRound words) v
  h.zipIdx.map fun (x, i) => x ^^^ v.getD i 0 ^^^ v.getD (i + 8) 0

/-- The digest of some bytes in a number of bytes. -/
def blake2b (size : Nat) (bytes : List UInt8) : List UInt8 :=
  let start := blakeStart.toArray
  let start := start.setIfInBounds 0 (start.getD 0 0 ^^^ BitVec.ofNat 64 (0x01010000 + size))
  let blocks := if bytes.isEmpty then [[]] else groups 128 bytes.length bytes
  let (h, _) := blocks.zipIdx.foldl (fun (h, count) (block, i) =>
    let count := count + block.length
    (blakeBlock h block count (i + 1 = blocks.length), count)) (start, 0)
  (h.toList.flatMap fun x => (bigEndian 8 x.toNat).reverse).take size

/-! ### Checksums -/

/-- The remainder of a byte in front of 32 bits that are zero. -/
def remainderOfByte (n : Nat) : UInt32 :=
  (List.range 8).foldl (fun (r : UInt32) _ => if r >>> 31 = 1 then (r <<< 1) ^^^ 0x04C11DB7 else r <<< 1)
    ((UInt32.ofNat n) <<< 24)

def remainders : Array UInt32 := ((List.range 256).map remainderOfByte).toArray

/-- The bytes of a length, the least significant first, without zeros at the end. -/
def lengthBytes : Nat → Nat → List UInt8
  | 0, _ => []
  | fuel + 1, n => if n = 0 then [] else UInt8.ofNat (n % 256) :: lengthBytes fuel (n / 256)

/-- The remainder of bytes and their number, turned over. -/
def remainder (bytes : List UInt8) : UInt32 :=
  let step (r : UInt32) (b : UInt8) : UInt32 :=
    (r <<< 8) ^^^ remainders.getD ((r >>> 24).toNat ^^^ b.toNat) 0
  ~~~((bytes ++ lengthBytes 16 bytes.length).foldl step 0)

/-- A sum in 16 bits that is turned before each byte. -/
def turnedSum (bytes : List UInt8) : Nat :=
  bytes.foldl (fun n b => (n / 2 + n % 2 * 32768 + b.toNat) % 65536) 0

/-- A sum whose carries are added to it. -/
def carriedSum (bytes : List UInt8) : Nat :=
  let n := bytes.foldl (fun n b => (n + b.toNat) % 4294967296) 0
  let r := n % 65536 + n / 65536
  r % 65536 + r / 65536

end PlanReuse.Script.Hash
