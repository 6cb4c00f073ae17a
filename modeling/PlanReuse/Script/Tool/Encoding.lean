import PlanReuse.Script.Tool.Lines

/-!
# Bytes in letters

Tools that write bytes in the letters of an alphabet, a number of bits in each, and read them back.
-/

namespace PlanReuse.Script.Tool

/-- An alphabet for bytes. -/
structure Alphabet where
  letters : String
  /-- The bits of a letter. -/
  bits : Nat
  /-- How many letters make a group; one that is not full is filled up with signs for nothing. -/
  group : Nat
  fills : Bool

namespace Alphabet

def large : String := "ABCDEFGHIJKLMNOPQRSTUVWXYZ"

def small : String := "abcdefghijklmnopqrstuvwxyz"

def sixtyFour (last : String) : Alphabet := ⟨large ++ small ++ "0123456789" ++ last, 6, 4, true⟩

def thirtyTwo : Alphabet := ⟨large ++ "234567", 5, 8, true⟩

def thirtyTwoHex : Alphabet := ⟨"0123456789ABCDEFGHIJKLMNOPQRSTUV", 5, 8, true⟩

def sixteen : Alphabet := ⟨"0123456789ABCDEF", 4, 2, false⟩

def two : Alphabet := ⟨"01", 1, 8, false⟩

/-- The bytes that a full group stands for. -/
def groupBytes (a : Alphabet) : Nat := a.group * a.bits / 8

/-- The letters of some bytes that make a group. -/
def encodeGroup (a : Alphabet) (bytes : List Char) : List Char :=
  let missing := a.groupBytes - bytes.length
  let n := (bytes ++ List.replicate missing (Char.ofNat 0)).foldl (fun n c => n * 256 + c.toNat) 0
  let letters := (List.range a.group).map fun i =>
    (a.letters.toList[n / Nat.pow 2 (a.bits * (a.group - 1 - i)) % Nat.pow 2 a.bits]?).getD '='
  let used := (bytes.length * 8 + a.bits - 1) / a.bits
  letters.take used ++ List.replicate (a.group - used) '='

def encode (a : Alphabet) : Nat → List Char → List Char
  | 0, _ => []
  | fuel + 1, s =>
    if s.isEmpty then [] else a.encodeGroup (s.take a.groupBytes) ++ encode a fuel (s.drop a.groupBytes)

/-- The bytes of a group of letters, and whether it is a right one. -/
def decodeGroup (a : Alphabet) (s : List Char) : List Char × Bool :=
  let values := (s.takeWhile fun c => a.letters.contains c).map fun c => (a.letters.toList.idxOf? c).getD 0
  let rest := s.drop values.length
  let count := values.length * a.bits / 8
  let isFull := s.length = a.group
  let n := values.foldl (fun n v => n * Nat.pow 2 a.bits + v) 0 / Nat.pow 2 (values.length * a.bits - count * 8)
  let bytes := (List.range count).map fun i => Char.ofNat (n / Nat.pow 256 (count - 1 - i) % 256)
  let right := isFull && count ≠ 0 && rest.all (· == '=') && (a.fills || rest.isEmpty) &&
    (count * 8 + a.bits - 1) / a.bits = values.length
  (if a.bits = 5 ∧ !isFull then [] else bytes, right)

/-- The bytes of letters up to the first group that is wrong, and whether there is one. -/
def decode (a : Alphabet) : Nat → List Char → List (List Char) × Bool
  | 0, _ => ([], true)
  | fuel + 1, s =>
    if s.isEmpty then ([], true)
    else
      match a.decodeGroup (s.take a.group) with
      | (bytes, false) => ([bytes], false)
      | (bytes, true) =>
        let (more, right) := decode a fuel (s.drop a.group)
        (bytes :: more, right)

theorem decode_nil (a : Alphabet) (fuel : Nat) : a.decode fuel [] = ([], true) := by
  cases fuel <;> simp [decode]

end Alphabet

/-- Letters in lines of some width. -/
def wrapped (width : Nat) (s : List Char) : List Char :=
  if width = 0 then s
  else
    let rec go : Nat → List Char → List Char
      | 0, _ => []
      | fuel + 1, s => if s.isEmpty then [] else s.take width ++ '\n' :: go fuel (s.drop width)
    go (s.length + 1) s

/-- Groups of four bytes in five letters. -/
def z85Letters : String :=
  "0123456789abcdefghijklmnopqrstuvwxyzABCDEFGHIJKLMNOPQRSTUVWXYZ.-:+=^!/*?&<>()[]\x7b\x7d@%$#"

def z85Encode : Nat → List Char → List Char
  | 0, _ => []
  | fuel + 1, s =>
    if s.isEmpty then []
    else
      let n := (s.take 4).foldl (fun n c => n * 256 + c.toNat) 0
      let letters := (List.range 5).map fun i => (z85Letters.toList[n / Nat.pow 85 (4 - i) % 85]?).getD '0'
      letters ++ z85Encode fuel (s.drop 4)

def z85Decode : Nat → List Char → List Char × Bool
  | 0, _ => ([], true)
  | fuel + 1, s =>
    if s.isEmpty then ([], true)
    else
      let group := s.take 5
      let values := group.filterMap fun c => z85Letters.toList.idxOf? c
      let n := values.foldl (fun n v => n * 85 + v) 0
      if values.length < 5 ∨ 4294967296 ≤ n then ([], false)
      else
        let bytes := (List.range 4).map fun i => Char.ofNat (n / Nat.pow 256 (3 - i) % 256)
        let (more, right) := z85Decode fuel (s.drop 5)
        (bytes ++ more, right)

/-- A byte with its bits in the other order. -/
def turnedByte (c : Char) : Char :=
  Char.ofNat ((List.range 8).foldl (fun n i => n * 2 + c.toNat / Nat.pow 2 i % 2) 0)

/-- Writes or reads bytes in an alphabet; without one, in groups of five letters. The bytes may be turned
before. -/
def encoding (alphabet : Option Alphabet) (turns : Bool) (a : Arguments) : Tool Unit := do
  let turned (s : List Char) : List Char := if turns then s.map turnedByte else s
  let width := match a.value? 'w' with
    | none => some 76
    | some v => match scanDigits 10 0 v.toList with
      | (n, _ + 1, []) => some n
      | _ => none
  match width with
  | none => complain ("invalid wrap size: " ++ quote ((a.value? 'w').getD ""))
  | some width =>
    match a.operands with
    | _ :: extra :: _ => misuse ("extra operand " ++ quote extra)
    | names =>
      match ← contentOf endless (names.headD "-") with
      | .error fault => complain (ofFault (names.headD "-") fault)
      | .ok text =>
        let s := text.toList
        if a.has 'd' then
          let isLetter (c : Char) : Bool := match alphabet with
            | some x => x.letters.contains c || (x.fills && c == '=')
            | none => z85Letters.contains c
          let s := if a.has 'i' then s.filter isLetter else s.filter (· ≠ '\n')
          let (bytes, right) := match alphabet with
            | some x =>
              let (parts, right) := x.decode (s.length + 1) s
              (turned parts.flatten, right)
            | none => z85Decode (s.length + 1) s
          put (String.ofList bytes)
          if !right then complain "invalid input"
        else
          match alphabet with
          | some x => put (String.ofList (wrapped width (x.encode (s.length + 1) (turned s))))
          | none =>
            if s.length % 4 ≠ 0 then complain "invalid input (length must be multiple of 4 characters)"
            else put (String.ofList (wrapped width (z85Encode (s.length + 1) s)))

/-- The alphabet that options ask for. -/
def basenc : Arguments → Tool Unit := fun a =>
  match a.lastOf "αβγδεζηθ" with
  | some 'α' => encoding (some (.sixtyFour "+/")) false a
  | some 'β' => encoding (some (.sixtyFour "-_")) false a
  | some 'γ' => encoding (some .thirtyTwo) false a
  | some 'δ' => encoding (some .thirtyTwoHex) false a
  | some 'ε' => encoding (some .sixteen) false a
  | some 'ζ' => encoding (some .two) false a
  | some 'η' => encoding (some .two) true a
  | some _ => encoding none false a
  | none => misuse "missing encoding type"

end PlanReuse.Script.Tool
