import PlanReuse.Number.Shortest
import PlanReuse.Script.Format
import PlanReuse.Script.Pattern
import PlanReuse.Script.Tool.Lines

/-!
# Characters

Tools that replace and remove characters, and one that shows the bytes of a text as numbers.
-/

namespace PlanReuse.Script.Tool

/-! ### Sets -/

/-- A part of a set. -/
inductive SetPart
  | char (c : Char)
  | range (first last : Char)
  | named (name : String)
  /-- A character that stands for all that sort like it, which is itself only. -/
  | alike (c : Char)
  /-- A character some times; without a number as often as is needed. -/
  | again (c : Char) (count : Option Nat)

/-- The characters of a set, each with whether a backslash stands before it. -/
def setChars : Nat → List Char → List (Char × Bool)
  | 0, _ => []
  | _ + 1, [] => []
  | fuel + 1, '\\' :: c :: r =>
    if isOctal c then
      let digits := ((c :: r).take 3).takeWhile isOctal
      let digits := if 255 < (scanDigits 8 0 digits).1 then digits.take 2 else digits
      (octalChar digits, true) :: setChars fuel ((c :: r).drop digits.length)
    else
      let d := ([('n', '\n'), ('t', '\t'), ('r', '\r'), ('a', '\x07'), ('b', '\x08'), ('f', '\x0c'),
        ('v', '\x0b')].lookup c).getD c
      (d, true) :: setChars fuel r
  | fuel + 1, c :: r => (c, false) :: setChars fuel r

/-- What is doubtful about the backslashes in a set. -/
def setWarnings : Nat → List Char → List String
  | 0, _ => []
  | _ + 1, [] => []
  | _ + 1, ['\\'] => ["an unescaped backslash at end of string is not portable"]
  | fuel + 1, '\\' :: c :: r =>
    let digits := ((c :: r).take 3).takeWhile isOctal
    if 255 < (scanDigits 8 0 digits).1 then
      let shown (cs : List Char) : String := String.ofList cs
      ("the ambiguous octal escape \\" ++ shown digits ++ " is being\n\tinterpreted as the 2-byte sequence \\0" ++
        shown (digits.take 2) ++ ", " ++ shown (digits.drop 2)) :: setWarnings fuel ((c :: r).drop 2)
    else setWarnings fuel ((c :: r).drop (max 1 digits.length))
  | fuel + 1, _ :: r => setWarnings fuel r

/-- What stands up to a sign with a closing bracket, and the rest. -/
def upToClosing? (sign : Char) : List (Char × Bool) → Option (List Char × List (Char × Bool))
  | (c, false) :: (']', false) :: r => if c = sign then some ([], r)
    else (upToClosing? sign ((']', false) :: r)).map fun (s, rest) => (c :: s, rest)
  | (c, _) :: r => (upToClosing? sign r).map fun (s, rest) => (c :: s, rest)
  | [] => none

def setClasses : List String :=
  ["alnum", "alpha", "blank", "cntrl", "digit", "graph", "lower", "print", "punct", "space", "upper", "xdigit"]

/-- A sign as an error shows it. -/
def shownSign (c : Char) : String :=
  if 0x20 ≤ c.toNat ∧ c.toNat < 0x7F then c.toString
  else
    let ds := Nat.toDigits 8 c.toNat
    String.ofList ('\\' :: (List.replicate (3 - ds.length) '0' ++ ds))

/-- How often a sign may be repeated at most. -/
def repeatLimit : Nat := 18446744073709551614

/-- As many repeated signs as can make a difference. -/
def mappedLimit : Nat := 65536

def repeatFault (text : List Char) : String :=
  "invalid repeat count " ++ quote (String.ofList text) ++ " in [c*n] construct"

/-- The parts of a set such as `a-z[:digit:]`. -/
def setParts : Nat → List (Char × Bool) → Except String (List SetPart)
  | 0, _ => .ok []
  | _ + 1, [] => .ok []
  | fuel + 1, s => do
    let single : Except String (List SetPart) :=
      match s with
      | (c, _) :: ('-', false) :: (d, _) :: r =>
        if d < c then
          .error ("range-endpoints of " ++ quote (shownSign c ++ "-" ++ shownSign d) ++
            " are in reverse collating sequence order")
        else (setParts fuel r).map (.range c d :: ·)
      | (c, _) :: r => (setParts fuel r).map (.char c :: ·)
      | [] => .ok []
    match s with
    | ('[', false) :: (':', false) :: r =>
      match upToClosing? ':' r with
      | some (name, rest) =>
        let name := String.ofList name
        if name.isEmpty then .error "missing character class name '[::]'"
        else if setClasses.contains name then (setParts fuel rest).map (.named name :: ·)
        else .error ("invalid character class " ++ quote name)
      | none => single
    | ('[', false) :: ('=', false) :: r =>
      match upToClosing? '=' r with
      | some ([c], rest) => (setParts fuel rest).map (.alike c :: ·)
      | some ([], _) => .error "missing equivalence class character '[==]'"
      | some (text, _) =>
        .error (String.ofList text ++ ": equivalence class operand must be a single character")
      | none => single
    | ('[', false) :: (c, _) :: ('*', false) :: r =>
      let inside := r.takeWhile fun m => !m.2 && m.1 ≠ ']'
      match r.drop inside.length with
      | (']', false) :: rest =>
        let digits := inside.map Prod.fst
        let bare := digits.dropWhile isSpace
        let base := if digits.head? = some '0' then 8 else 10
        match digits, scanDigits base 0 (if bare.head? = some '+' then bare.drop 1 else bare) with
        | [], _ => (setParts fuel rest).map (.again c none :: ·)
        | _, (n, _ + 1, []) =>
          if n < repeatLimit then (setParts fuel rest).map (.again c (if n = 0 then none else some n) :: ·)
          else .error (repeatFault digits)
        | _, _ => .error (repeatFault digits)
      | _ => single
    | _ => single

/-- All characters that bytes can be. -/
def allSigns : List Char := (List.range 256).map Char.ofNat

namespace SetPart

/-- The characters of a part; `missing` says how often one is repeated that may be repeated at will. -/
def members (missing : Nat) : SetPart → List Char
  | char c | alike c => [c]
  | range c d => (List.range (d.toNat + 1 - c.toNat)).map fun i => Char.ofNat (c.toNat + i)
  | named name => allSigns.filter (isInClass name)
  | again c (some n) => List.replicate (min n mappedLimit) c
  | again c none => List.replicate missing c

/-- Whether a part is that of the capital letters, or that of the small ones. -/
def case? : SetPart → Option Bool
  | named "upper" => some true
  | named "lower" => some false
  | _ => none

def isNamed : SetPart → Bool
  | named _ => true
  | _ => false

def isAlike : SetPart → Bool
  | alike _ => true
  | _ => false

def isOpen : SetPart → Bool
  | again _ none => true
  | _ => false

end SetPart

/-- The characters of a set. -/
def setMembers (missing : Nat) (parts : List SetPart) : List Char := parts.flatMap (SetPart.members missing)

/-- Leaves one of equal characters in a row, if the set has them. The last one is known. -/
def squeeze (set : Array Bool) : Option Char → List Char → List Char
  | _, [] => []
  | last, c :: r =>
    if last = some c ∧ set.getD c.toNat false then squeeze set last r else c :: squeeze set (some c) r

/-- Which characters a set has. -/
def membership (set : List Char) : Array Bool :=
  set.foldl (fun t c => t.set! c.toNat true) (Array.replicate 256 false)

/-- A character of a set, and where it stands in its part. -/
structure SetSign where
  char : Char
  case? : Option Bool
  isFirst : Bool
  /-- How many characters of its part follow. -/
  left : Nat

def setSigns (missing : Nat) (parts : List SetPart) : List SetSign :=
  parts.flatMap fun p =>
    let members := p.members missing
    members.zipIdx.map fun (c, i) => ⟨c, p.case?, i = 0, members.length - 1 - i⟩

/-- Which character each one of a set becomes, the last word on each last. A class of letters among the
images goes with one in the set, as a whole. -/
def imagesOf (longest : Nat) : List SetSign → List SetSign → Except String (List (Char × Char))
  | x, y :: ys =>
    match longest with
    | 0 => .ok []
    | longest + 1 =>
      let isClass (s : SetSign) : Bool := s.isFirst && s.case?.isSome
      if isClass y && !x.head?.any isClass then .error "misaligned [:upper:] and/or [:lower:] construct"
      else
        match x with
        | [] => .ok []
        | x :: xs =>
          let turn := (x.char, y.char)
          if isClass y then
            let both (capital small : List SetPart) := (setMembers 0 capital).zip (setMembers 0 small)
            let turns :=
              match x.case?, y.case? with
              | some true, some false => both [.named "upper"] [.named "lower"]
              | some false, some true => both [.named "lower"] [.named "upper"]
              | _, _ => [turn]
            (imagesOf longest (xs.drop x.left) (ys.drop y.left)).map (turns ++ ·)
          else (imagesOf longest xs ys).map (turn :: ·)
  | _, [] => .ok []

/-- What stands in for the images that are missing. -/
def fillImages (count : Nat) (others : List SetPart) : Except String (List SetPart) :=
  match others.getLast? with
  | none => .error "when not truncating set1, string2 must be non-empty"
  | some (.named _) =>
    .error ("when translating with string1 longer than string2,\n" ++
      "the latter string must not end with a character class")
  | some last =>
    match (last.members 1).getLast? with
    | none => .ok others
    | some c => .ok (others ++ [.again c (some count)])

/-- Why the parts of two sets may not stand where they do. -/
def partsFault? (deletes : Bool) (parts others : List SetPart) : Option String :=
  if parts.any SetPart.isOpen then some "the [c*] repeat construct may not appear in string1"
  else if 1 < others.countP SetPart.isOpen then
    some "only one [c*] repeat construct may appear in string2"
  else if deletes then
    if others.any SetPart.isOpen then some "the [c*] construct may appear in string2 only when translating"
    else none
  else if others.any SetPart.isAlike then
    some "[=c=] expressions may not appear in string2 when translating"
  else if others.any fun p => p.isNamed && p.case?.isNone then
    some ("when translating, the only character classes that may appear in\n" ++
      "string2 are 'upper' and 'lower'")
  else none

/-- How a text is changed by two sets: which character becomes which, and the images. Without
`cuts` the last image stands for all that are missing; with `complements` the set is that of all other
characters. -/
def turnsOf (cuts complements : Bool) (parts others : List SetPart) :
    Except String (List (Char × Char) × List Char) := do
  let plain := setMembers 0 parts
  let table := membership plain
  let set := if complements then allSigns.filter fun c => !table.getD c.toNat false else plain
  let missing := set.length - (setMembers 0 others).length
  let letters : List SetSign := setSigns 0 parts
  let _ ← if complements then pure [] else imagesOf (letters.length + 1) letters (setSigns missing others)
  let images := setMembers missing others
  let others ← if images.length < set.length ∧ !cuts then fillImages (set.length - images.length) others
    else pure others
  let images := setMembers missing others
  if complements && parts.any SetPart.isNamed &&
      !(images.length = set.length && images.all (· = images.headD ' ') && !images.isEmpty) then
    throw ("when translating with complemented character classes,\n" ++
      "string2 must map all characters in the domain to one")
  if complements then return (set.zip images, images)
  return (← imagesOf (letters.length + 1) letters (setSigns missing others), images)

/-- The parts of a set, with a warning about each doubtful sign in it. -/
def partsOfSet (text : String) : Tool (Except String (List SetPart)) := do
  (setWarnings (text.length + 1) text.toList).forM fun s => say ("warning: " ++ s)
  return setParts (text.length + 1) (setChars (text.length + 1) text.toList)

/-- Replaces, removes or squeezes by two sets. -/
def trBoth (a : Arguments) (first second : String) : Tool Unit := do
  let complements := a.has 'c' || a.has 'C'
  match ← partsOfSet first with
  | .error text => complain text
  | .ok parts =>
    match ← partsOfSet second with
    | .error text => complain text
    | .ok others =>
      match partsFault? (a.has 'd') parts others with
      | some text => complain text
      | none =>
        if a.has 'd' then
          let table := membership (setMembers 0 parts)
          let kept := (← takeInput).toList.filter fun c => table.getD c.toNat false == complements
          put (String.ofList (squeeze (membership (setMembers 0 others)) none kept))
        else
          match turnsOf (a.has 't') complements parts others with
          | .error text => complain text
          | .ok (turns, images) =>
            let table := turns.foldl (fun t (c, d) => t.set! c.toNat d) allSigns.toArray
            let text := (← takeInput).toList.map fun c => table.getD c.toNat c
            put (String.ofList (if a.has 's' then squeeze (membership images) none text else text))

def tr : Arguments → Tool Unit := fun a => do
  let deletes := a.has 'd'
  let squeezes := a.has 's'
  let refuse (about text : String) : Tool Unit := do
    complain about
    note (text ++ "Try 'tr --help' for more information.\n")
  match a.operands with
  | [] => misuse "missing operand"
  | [first] =>
    if deletes && squeezes then
      refuse ("missing operand after " ++ quote first)
        "Two strings must be given when both deleting and squeezing repeats.\n"
    else if !(deletes || squeezes) then
      refuse ("missing operand after " ++ quote first) "Two strings must be given when translating.\n"
    else
      match ← partsOfSet first with
      | .error text => complain text
      | .ok parts =>
        if let some text := partsFault? true parts [] then complain text else
        let set := membership (setMembers 0 parts)
        let set := if a.has 'c' || a.has 'C' then set.map not else set
        let s := (← takeInput).toList
        put (String.ofList (if deletes then s.filter fun c => !set.getD c.toNat false else squeeze set none s))
  | [first, second] =>
    if deletes && !squeezes then
      refuse ("extra operand " ++ quote second)
        "Only one string may be given when deleting without squeezing repeats.\n"
    else trBoth a first second
  | _ :: _ :: t :: _ => refuse ("extra operand " ++ quote t) ""

/-! ### Bytes as numbers -/

/-- How the bytes of a text are shown. -/
structure Dump where
  /-- One of `a`, `c`, `d`, `f`, `o`, `u` and `x`. -/
  kind : Char
  /-- How many bytes make one number. -/
  size : Nat
  /-- Whether the printed signs are shown too. -/
  signs : Bool

namespace Dump

/-- How wide a number is at most. -/
def width (d : Dump) : Nat :=
  let pick (a b c e : Nat) : Nat := if d.size = 1 then a else if d.size = 2 then b else if d.size = 4 then c else e
  match d.kind with
  | 'd' => pick 4 6 11 20
  | 'u' => pick 3 5 10 20
  | 'x' => 2 * d.size
  | 'o' => pick 3 6 11 22
  | 'f' => if d.size = 4 then 15 else 24
  | _ => 3

/-- Names of signs that are not printed. -/
def signNames : List String :=
  ["nul", "soh", "stx", "etx", "eot", "enq", "ack", "bel", "bs", "ht", "nl", "vt", "ff", "cr", "so", "si",
    "dle", "dc1", "dc2", "dc3", "dc4", "nak", "syn", "etb", "can", "em", "sub", "esc", "fs", "gs", "rs",
    "us", "sp"]

/-- Digits brought to a width by zeros. -/
def zeros (width : Nat) (digits : List Char) : List Char :=
  List.replicate (width - digits.length) '0' ++ digits

/-- A number rounded to the precision of four bytes. -/
def single (x : Binary64) : Binary64 :=
  let (m, q) := x.scaled
  let low : Int := max ((m.log2 : Int) + q - 23) (-149)
  let (a, b) := Binary64.shiftQuotient m 1 (q - low)
  let (a, b) := Binary64.shiftQuotient (Binary64.roundHalfEven a b) 1 low
  if x.isNaN || x.isInfinite then x else .ofParts x.isNegative (Binary64.nearestMagnitude a b)

/-- The number that four bytes stand for. -/
def ofSingle (bits : Nat) : Binary64 :=
  let negative := decide (0x80000000 ≤ bits)
  let field := bits / 0x800000 % 256
  let fraction := bits % 0x800000
  if field = 255 then .ofParts negative (if fraction = 0 then Binary64.infinityBits else Binary64.nanBits)
  else
    let (m, q) : Nat × Int := if field = 0 then (fraction, -149) else (fraction + 0x800000, (field : Int) - 150)
    let (a, b) := Binary64.shiftQuotient m 1 q
    .ofParts negative (Binary64.nearestMagnitude a b)

/-- The fewest digits that tell a number from all others of its precision. -/
def realText (isSingle : Bool) (x : Binary64) : List Char :=
  let shown (n : Nat) : List Char := ({ Layout.plain with precision := some n }).real 1 'g' (.ofDouble x)
  let readsBack (n : Nat) : Bool :=
    match scanReal (shown n) with
    | some (y, _) => (if isSingle then single y else y) == x || x.isNaN
    | none => false
  let most := if isSingle then 9 else 17
  shown ((((List.range most).map (· + 1)).find? readsBack).getD most)

/-- One number of a dump. -/
def text (d : Dump) (bytes : List Char) : List Char :=
  let n := bytes.foldr (fun c n => n * 256 + c.toNat) 0
  match d.kind with
  | 'a' =>
    let m := n % 128
    if m = 127 then ['d', 'e', 'l'] else ((signNames[m]?).map String.toList).getD [Char.ofNat m]
  | 'c' =>
    let c := Char.ofNat n
    match [('\x00', '0'), ('\x07', 'a'), ('\x08', 'b'), ('\x0c', 'f'), ('\n', 'n'), ('\r', 'r'), ('\t', 't'),
        ('\x0b', 'v')].lookup c with
    | some e => ['\\', e]
    | none => if isPrinted c then [c] else zeros 3 (Nat.toDigits 8 n)
  | 'd' =>
    let half := Nat.pow 2 (8 * d.size - 1)
    (toString (if n < half then (n : Int) else (n : Int) - 2 * half)).toList
  | 'u' => Nat.toDigits 10 n
  | 'x' => zeros d.width (Nat.toDigits 16 n)
  | 'f' => if d.size = 4 then realText true (ofSingle n) else realText false ⟨UInt64.ofNat n⟩
  | _ => zeros d.width (Nat.toDigits 8 n)

/-- The numbers of a block in a line, as wide as a line of the widest kind. -/
def row (d : Dump) (lineWidth perBlock : Nat) (block : List Char) : List Char :=
  let fields := perBlock / d.size
  let pad := lineWidth - d.width * fields
  let count := (block.length + d.size - 1) / d.size
  let filled := block ++ List.replicate (count * d.size - block.length) (Char.ofNat 0)
  let numbers := (List.range count).map fun i =>
    let before := pad * (fields - i) / fields
    let behind := pad * (fields - i - 1) / fields
    let s := d.text ((filled.drop (i * d.size)).take d.size)
    List.replicate (d.width + (before - behind) - s.length) ' ' ++ s
  let body := numbers.flatten
  if d.signs then
    let missing := (perBlock - block.length) / d.size * (d.width) + pad * (fields - count) / fields
    body ++ List.replicate missing ' ' ++ [' ', ' ', '>'] ++ block.map (fun c => if isPrinted c then c else '.') ++ ['>']
      |> fun s => s.dropLast ++ ['<']
  else body

end Dump

/-- The kinds of dumps that a text names. -/
def readDumps : Nat → List Char → Except Char (List Dump)
  | 0, _ => .ok []
  | _ + 1, [] => .ok []
  | fuel + 1, c :: r =>
    if c = 'a' ∨ c = 'c' then
      let z := r.head? == some 'z'
      (readDumps fuel (if z then r.tail else r)).map (⟨c, 1, z⟩ :: ·)
    else if "dfoux".contains c then
      let named := if c = 'f' then [('F', 4), ('D', 8), ('L', 8)] else [('C', 1), ('S', 2), ('I', 4), ('L', 8)]
      let (size, r) := match r with
        | d :: q =>
          match named.lookup d with
          | some n => (n, q)
          | none =>
            match scanDigits 10 0 r with
            | (_, 0, _) => (if c = 'f' then 8 else 4, r)
            | (n, _, rest) => (n, rest)
        | [] => (if c = 'f' then 8 else 4, [])
      let z := r.head? == some 'z'
      (readDumps fuel (if z then r.tail else r)).map (⟨c, size, z⟩ :: ·)
    else .error c

/-- The lines of a dump; lines that are the same as the one before are left out unless all are wanted. -/
def dumpLines (dumps : List Dump) (address : Nat → String) (addressWidth perBlock lineWidth : Nat) (all : Bool) :
    Nat → Nat → Option (List Char) → Bool → List Char → String
  | 0, _, _, _, _ => ""
  | fuel + 1, place, last, starred, s =>
    match s with
    | [] => ""
    | _ =>
      let block := s.take perBlock
      let rest := s.drop perBlock
      if !all ∧ last = some block ∧ block.length = perBlock then
        (if starred then "" else "*\n") ++
          dumpLines dumps address addressWidth perBlock lineWidth all fuel (place + perBlock) last true rest
      else
        let lines := dumps.zipIdx.map fun (d, i) =>
          (if i = 0 then address place else String.ofList (List.replicate addressWidth ' ')) ++
            String.ofList (d.row lineWidth perBlock block) ++ "\n"
        String.join lines ++
          dumpLines dumps address addressWidth perBlock lineWidth all fuel (place + perBlock) (some block) false rest

/-- The kinds that single letters ask for. -/
def dumpLetters : List (Char × String) :=
  [('a', "a"), ('b', "o1"), ('c', "c"), ('d', "u2"), ('D', "u4"), ('e', "f8"), ('f', "f4"), ('i', "d4"), ('l', "d8"),
    ('o', "o2"), ('s', "d2"), ('x', "x2"), ('X', "x4"), ('O', "o4"), ('h', "x2"), ('H', "x4")]

/-- A number of bytes, with its base and its unit, for an option. -/
def dumpCount (option : Char) (s : String) : Except String Nat :=
  match scanInteger 0 s.toList with
  | some (n, rest) =>
    if n < 0 then .error ("invalid -" ++ option.toString ++ " argument " ++ quote s)
    else
      match if rest == ['b'] then some 512 else unitSize? (String.ofList rest) with
      | some unit => .ok (n.toNat * unit)
      | none => .error ("invalid suffix in -" ++ option.toString ++ " argument " ++ quote s)
  | none => .error ("invalid -" ++ option.toString ++ " argument " ++ quote s)

def od : Arguments → Tool Unit := fun a => do
  if let some s := (a.values 'A').find? fun s => !"doxn".contains (s.toList.headD ' ') then
    complain ("invalid output address radix '" ++ (s.take 1).toString ++ "'; it must be one character from [doxn]")
    return ()
  let limits : Except String (Nat × Option Nat) := do
    return (((← (a.value? 'j').mapM (dumpCount 'j'))).getD 0, ← (a.value? 'N').mapM (dumpCount 'N'))
  match limits with
  | .error text => complain text
  | .ok (skip, count) =>
  let asked := a.options.filterMap fun (c, v) => if c = 't' then some v else dumpLetters.lookup c
  let kinds := (if asked.isEmpty then ["o2"] else asked).mapM fun s => readDumps (s.length + 1) s.toList
  match kinds with
  | .error c =>
    let text := (asked.find? fun s => (readDumps (s.length + 1) s.toList).toOption.isNone).getD ""
    complain ("invalid character " ++ quote c.toString ++ " in type string " ++ quote text)
  | .ok lists =>
    let dumps := lists.flatten
    match dumps.find? fun d => !([1, 2, 4, 8].contains d.size) with
    | some d =>
      complain ("invalid type string " ++ quote (asked.headD "") ++ ";\nthis system doesn't provide a " ++
        toString d.size ++ "-byte " ++ if d.kind = 'f' then "floating point type" else "integral type")
    | none =>
      let radix := ((a.value? 'A').getD "o").toList.headD 'o'
      let mut text := []
      let mut isRead := false
      for name in if a.operands.isEmpty then ["-"] else a.operands do
        match ← contentOf (max endless ((count.getD 0) + skip)) name with
        | .ok t =>
          text := text ++ t.toList
          isRead := true
        | .error fault => complain (ofFault name fault)
      if !isRead then return ()
      if text.length < skip then
        complain "cannot skip past end of combined input"
        return ()
      let body := text.drop skip
      let body := match count with
        | some n => body.take n
        | none => body
      let unit := (dumps.map Dump.size).foldl max 1
      let perBlock := match a.value? 'w' with
        | some "" => 32
        | some s => (countOf? s).getD 16
        | none => 16
      let isOdd := perBlock = 0 ∨ perBlock % unit ≠ 0
      if isOdd then say ("warning: invalid width " ++ toString perBlock ++ "; using " ++ toString unit ++ " instead")
      let perBlock := if isOdd then unit else perBlock
      let lineWidth := (dumps.map fun d => (d.width + 1) * (perBlock / d.size)).foldl max 0
      let address (n : Nat) : String :=
        match radix with
        | 'n' => ""
        | 'd' => String.ofList (Dump.zeros 7 (Nat.toDigits 10 n))
        | 'x' => String.ofList (Dump.zeros 6 (Nat.toDigits 16 n))
        | _ => String.ofList (Dump.zeros 7 (Nat.toDigits 8 n))
      let addressWidth := if radix = 'n' then 0 else if radix = 'x' then 6 else 7
      put (dumpLines dumps address addressWidth perBlock lineWidth (a.has 'v') (body.length + 1) skip none false body)
      if radix ≠ 'n' then putLine (address (skip + body.length))

end PlanReuse.Script.Tool
