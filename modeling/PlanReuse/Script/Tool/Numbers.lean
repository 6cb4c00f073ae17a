import PlanReuse.Script.Format
import PlanReuse.Script.Tool.Columns

/-!
# Numbers

Tools that count up, take numbers apart into primes and write them with units.
-/

namespace PlanReuse.Script.Tool

/-! ### Counting up -/

/-- A bound of a count: its value, how wide it is written and how many places it has; a number of places
is missing where the text does not say one. -/
structure Term where
  value : Extended
  width : Int
  places : Option Nat
  /-- The integer that the text writes in plain digits. -/
  whole : Option Int

/-- The exponent behind an `e`. -/
def exponentOf (s : List Char) : Option Int :=
  match s.dropWhile fun c => c ≠ 'e' && c ≠ 'E' with
  | _ :: r =>
    let (negative, digits) := splitSign r
    let n : Int := (scanDigits 10 0 digits).1
    some (if negative then -n else n)
  | [] => none

def term? (text : String) : Option Term :=
  match scanNumeral? true text.toList with
  | some (negative, n, []) =>
    let s := text.toList.dropWhile fun c => isSpace c || c == '+'
    let value := n.extended negative
    let isHex := s.any fun c => c == 'x' || c == 'X'
    let point := s.contains '.'
    let fraction := ((s.dropWhile (· ≠ '.')).drop 1).takeWhile fun c => c ≠ 'e' && c ≠ 'E'
    let isFinite := match n with
      | .decimal _ _ | .binary _ _ => true
      | _ => false
    let places : Option Nat := if !point ∧ !s.contains 'p' then some 0 else none
    if isHex ∨ !isFinite then some ⟨value, 0, places, none⟩
    else
      let front := s.takeWhile (· ≠ '.')
      let places := if point then some fraction.length else places
      let width : Int := s.length
      let width := if !point then width
        else if fraction.isEmpty then width - 1
        else if front.getLast?.any Char.isDigit then width else width + 1
      match exponentOf s with
      | none =>
        let (n, _, rest) := scanDigits 10 0 text.toList
        let whole : Option Int := if rest.isEmpty then some (n : Int)
          else if point ∨ value.compare? .zero = some .eq then none
          else integerOf? 10 (String.ofList s)
        some ⟨value, width, places, whole⟩
      | some e =>
        let tail := (s.dropWhile fun c => c ≠ 'e' && c ≠ 'E').length
        let width := width - tail
        let p : Int := (places.getD 0 : Nat)
        let places : Int := if e < 0 then p - e else p - min p e
        let width := if e < 0 then
            width + (if point then (if fraction.isEmpty then 1 else 0) else 1) - e
          else width - (if point ∧ places = 0 ∧ !fraction.isEmpty then 1 else 0) + (e - min (fraction.length : Int) e)
        some ⟨value, width, some places.toNat, none⟩
  | _ => none

/-- A format with one number in it: what stands before and behind, and how the number is written. -/
structure NumberFormat where
  front : List Char
  back : List Char
  layout : Layout
  letter : Char

/-- A text in which two percent signs stand for one, up to a single one. -/
def upToPercent : List Char → List Char × List Char
  | '%' :: '%' :: r =>
    let (s, rest) := upToPercent r
    ('%' :: s, rest)
  | '%' :: r => ([], '%' :: r)
  | c :: r =>
    let (s, rest) := upToPercent r
    (c :: s, rest)
  | [] => ([], [])

/-- Reads a format for numbers; anything else is an error. -/
def numberFormat (text : String) : Except String NumberFormat :=
  let about := "format " ++ quote text
  let (front, rest) := upToPercent text.toList
  match rest with
  | [] => .error (about ++ " has no % directive")
  | _ :: r =>
    let (d, rest) := readDirective (r.takeWhile (· == '\'') ++ r.dropWhile (· == '\''))
    match d with
    | .field layout width precision letter =>
      let extent : Extent → Option Nat
        | .number n => some n
        | _ => none
      if !"aefgAEFG".contains letter then .error (about ++ " has unknown %" ++ letter.toString ++ " directive")
      else
        let (back, more) := upToPercent rest
        if more.isEmpty then
          .ok ⟨front, back, { layout with width := (extent width).getD 0, precision := extent precision }, letter⟩
        else .error (about ++ " has too many % directives")
    | .cut => .error (about ++ " ends in %")
    | .unknown s => .error (about ++ " has unknown %" ++ (s.getLastD ' ').toString ++ " directive")
    | _ => .error (about ++ " has no % directive")

def NumberFormat.number (f : NumberFormat) (x : Extended) : List Char := f.layout.real 4 f.letter x

def NumberFormat.text (f : NumberFormat) (x : Extended) : List Char := f.front ++ f.number x ++ f.back

/-- Whether a number lies behind the end of a count. -/
def isBehind (step last x : Extended) : Bool :=
  if step.negative then x.compare? last == some .lt else x.compare? last == some .gt

/-- The numbers of a count from one on, as texts in reverse. The first one behind the end is written too
if it is written like the end itself. -/
def countFrom (f : NumberFormat) (first step last : Extended) : Nat → Nat → Extended → List (List Char) →
    List (List Char)
  | 0, _, _, acc => acc
  | fuel + 1, i, x, acc =>
    let acc := f.text x :: acc
    let next := first.add ((Extended.ofInt i).mul step)
    if !isBehind step last next then countFrom f first step last fuel (i + 1) next acc
    else
      let same := match scanNumeral? false (f.number next) with
        | some (negative, n, []) => (n.extended negative).compare? last == some .eq
        | _ => false
      if same && f.number next != f.number x then f.text next :: acc else acc

/-- How a count is written if nothing is said about it. -/
def standardFormat (isWide : Bool) (first step last : Term) : NumberFormat :=
  let plain (letter : Char) (width : Nat) (places : Option Nat) : NumberFormat :=
    ⟨[], [], { Layout.plain with zeros := isWide, width, precision := places }, letter⟩
  match first.places, step.places, last.places with
  | some p, some q, some r =>
    let places := max p q
    let firstWidth := first.width + ((places : Int) - p) + if p = 0 ∧ places ≠ 0 then 1 else 0
    let lastWidth := last.width + ((places : Int) - r) - (if r ≠ 0 ∧ places = 0 then 1 else 0) +
      if r = 0 ∧ places ≠ 0 then 1 else 0
    plain 'f' (if isWide then (max firstWidth lastWidth).toNat else 0) (some places)
  | _, _, _ => plain 'g' 0 none

/-- How many numbers of a count are written at most. -/
def mostNumbers : Nat := 2000000

/-- How many of them at most if they need not be integers. -/
def mostFractions : Nat := 400000

/-- A count of integers, written in plain digits. -/
def wholeCount (first step last : Int) (width : Nat) : List String :=
  let count := if (0 < step ∧ last < first) ∨ (step < 0 ∧ first < last) then 0
    else ((last - first) / step).toNat + 1
  (List.range (min count mostNumbers)).map fun (i : Nat) =>
    let n : Int := first + step * (i : Int)
    if width = 0 then toString n
    else
      let digits := (toString n.natAbs).toList
      let sign := if n < 0 then ['-'] else []
      String.ofList (sign ++ List.replicate (width - digits.length - sign.length) '0' ++ digits)

/-- Options in front of the numbers, of which the first may be negative. -/
def seqOptions : List String → List String × List String
  | [] => ([], [])
  | s :: rest =>
    match s.toList with
    | '-' :: c :: _ =>
      if c.isDigit ∨ c = '.' then ([], s :: rest)
      else if s = "--" then ([], rest)
      else if ["-s", "-f", "--separator", "--format"].contains s then
        match rest with
        | v :: rest =>
          let (os, operands) := seqOptions rest
          (s :: v :: os, operands)
        | [] => ([s], [])
      else
        let (os, operands) := seqOptions rest
        (s :: os, operands)
    | _ => ([], s :: rest)

/-- The numbers that operands name, up to one that is wrong. -/
def termsOf : Nat → List String → Except String (List Term)
  | _, [] => .ok []
  | i, s :: rest =>
    match term? s with
    | none => .error ("invalid floating point argument: " ++ quote s)
    | some t =>
      if (t.value.compare? t.value).isNone then .error ("invalid 'not-a-number' argument: " ++ quote s)
      else if i = 1 ∧ !rest.isEmpty ∧ t.value.compare? .zero = some .eq then
        .error ("invalid Zero increment value: " ++ quote s)
      else (termsOf (i + 1) rest).map (t :: ·)

def seqOf (a : Arguments) (operands : List String) : Tool Unit := do
  let separator := (a.value? 's').getD "\n"
  let one : Term := ⟨.ofInt 1, 1, some 0, some 1⟩
  let run (format : Option NumberFormat) (first step last : Term) : Tool Unit :=
    let end_ := if last.value.size == .infinite && !last.value.negative then some (Nat.pow 10 30 : Int) else last.whole
    let texts := match format, first.whole, step.whole, end_ with
      | none, some m, some d, some n =>
        wholeCount m d n (if a.has 'w' then (max first.width last.width).toNat else 0)
      | _, _, _, _ =>
        let f := format.getD (standardFormat (a.has 'w') first step last)
        if isBehind step.value last.value first.value then []
        else (countFrom f first.value step.value last.value mostFractions 1 first.value []).reverse.map String.ofList
    if texts.isEmpty then return () else put (separator.intercalate texts ++ "\n")
  if operands.isEmpty then misuse "missing operand"
  else if let some s := operands[3]? then misuse ("extra operand " ++ quote s)
  else
    match (a.value? 'f').mapM numberFormat with
    | .error text => complain text
    | .ok format =>
      if a.has 'f' && a.has 'w' then misuse "format string may not be specified when printing equal width strings"
      else
        match termsOf 0 operands with
        | .error text => misuse text
        | .ok [last] => run format one one last
        | .ok [first, last] => run format first one last
        | .ok [first, step, last] => run format first step last
        | .ok _ => return ()

def seq (arguments : List String) : Tool Unit :=
  let (options, operands) := seqOptions arguments
  withOptions ⟨"w", "sf", "", [("separator", 's'), ("format", 'f'), ("equal-width", 'w')]⟩ 1 options fun a =>
    seqOf a operands

/-! ### Primes -/

/-- The power of a number by a modulus. -/
def powMod (m : Nat) : Nat → Nat → Nat → Nat → Nat
  | 0, _, _, acc => acc
  | fuel + 1, base, e, acc =>
    if e = 0 then acc
    else powMod m fuel (base * base % m) (e / 2) (if e % 2 = 1 then acc * base % m else acc)

/-- Whether an odd number passes a test of primes with some witnesses; up to 2 ^ 64 these are enough. -/
def passesWitnesses (n : Nat) : Bool :=
  let rec split : Nat → Nat → Nat → Nat × Nat
    | 0, d, s => (d, s)
    | fuel + 1, d, s => if d % 2 = 0 ∧ 0 < d then split fuel (d / 2) (s + 1) else (d, s)
  let (d, s) := split (n.log2 + 1) (n - 1) 0
  [2, 3, 5, 7, 11, 13, 17, 19, 23, 29, 31, 37].all fun a =>
    if a % n = 0 then true
    else
      let x := powMod n (n.log2 + 2) (a % n) d (1 % n)
      let rec reaches : Nat → Nat → Bool
        | 0, _ => false
        | k + 1, y => y == n - 1 || reaches k (y * y % n)
      x == 1 || reaches (max s 1) x

/-- A factor of a composite number, found where two walks meet. -/
def walkFactor? (n c : Nat) : Nat → Nat → Nat → Option Nat
  | 0, _, _ => none
  | fuel + 1, x, y =>
    let step (x : Nat) : Nat := (x * x + c) % n
    let x := step x
    let y := step (step y)
    let g := Nat.gcd (if x < y then y - x else x - y) n
    if g = n then none else if 1 < g then some g else walkFactor? n c fuel x y

/-- The factors of a number without small ones. -/
def largeFactors : Nat → Nat → List Nat
  | 0, n => [n]
  | fuel + 1, n =>
    if n ≤ 1 then []
    else if passesWitnesses n then [n]
    else
      match [1, 3, 5, 7, 11, 13].findSome? fun c => walkFactor? n c 400000 2 2 with
      | some g => largeFactors fuel g ++ largeFactors fuel (n / g)
      | none => [n]

/-- Divides by candidates from one on as long as their squares are not too large. -/
def smallFactors : Nat → Nat → Nat → List Nat × Nat
  | 0, _, n => ([], n)
  | fuel + 1, p, n =>
    if n < p * p then ([], n)
    else if n % p = 0 then
      let (ps, rest) := smallFactors fuel p (n / p)
      (p :: ps, rest)
    else smallFactors fuel (if p = 2 then 3 else p + 2) n

/-- The prime factors of a number in order. -/
def primeFactors (n : Nat) : List Nat :=
  if n ≤ 1 then []
  else
    let (ps, rest) := smallFactors 40000 2 n
    ps ++ (largeFactors 64 rest).mergeSort fun a b => decide (a ≤ b)

def factor : Arguments → Tool Unit := fun a => do
  let words ← if a.operands.isEmpty then do
      let s := (← takeInput).toList.map fun c => if isSpace c then ' ' else c
      pure (((cutAt ' ' s).filter (· ≠ [])).map String.ofList)
    else pure a.operands
  words.forM fun s => do
    let digits := match s.toList.dropWhile isSpace with
      | '+' :: r => r
      | r => r
    match scanDigits 10 0 digits with
    | (n, _ + 1, []) =>
      let ps := primeFactors n
      let texts := if a.has 'h' then
          ps.eraseDups.map fun p =>
            let k := ps.count p
            toString p ++ if k = 1 then "" else "^" ++ toString k
        else ps.map toString
      putLine (toString n ++ ":" ++ String.join (texts.map (" " ++ ·)))
    | _ => complain (quote s ++ " is not a valid positive integer")

/-! ### Units -/

/-- The units that a number is read or written in. -/
inductive UnitScale
  | plain
  | auto
  /-- Steps of 1000. -/
  | decimal
  /-- Steps of 1024. -/
  | binary
  /-- Steps of 1024, with an `i` behind the letter. -/
  | binaryWithMark
deriving DecidableEq

def UnitScale.ofText? (s : String) : Option UnitScale :=
  [("none", UnitScale.plain), ("auto", .auto), ("si", .decimal), ("iec", .binary), ("iec-i", .binaryWithMark)].lookup s

def UnitScale.base : UnitScale → Nat
  | .binary | .binaryWithMark => 1024
  | _ => 1000

def unitLetters : List Char := "KMGTPEZY".toList

/-- How numbers are converted. -/
structure Conversion where
  source : UnitScale
  target : UnitScale
  sourceUnit : Nat
  targetUnit : Nat
  round : String
  padding : Option Int
  zeros : Bool
  precision : Option Nat
  front : List Char
  back : List Char
  suffix : String
  delimiter : Option Char
  fields : Option Ranges

/-- A number rounded to an integer in one of the ways there are. -/
def roundWay (way : String) (x : Extended) : Extended :=
  match x.size with
  | .finite m q =>
    let (a, b) := Binary64.shiftQuotient m 1 q
    let down := a / b
    let isWhole := a % b == 0
    let up := if isWhole then down else down + 1
    let n := match way with
      | "up" => if x.negative then down else up
      | "down" => if x.negative then up else down
      | "towards-zero" => down
      | "nearest" => (2 * a + b) / (2 * b)
      | _ => up
    { Extended.ofInt n with negative := x.negative }
  | _ => x

def Extended.scale (x : Extended) (n : Nat) : Extended := x.mul (.ofInt n)

/-- A number divided by a base as long as it is not below it, and how often. -/
def normalize (base : Extended) : Nat → Extended → Nat → Extended × Nat
  | 0, x, n => (x, n)
  | fuel + 1, x, n =>
    if ({ x with negative := false }.compare? base) == some .lt then (x, n)
    else normalize base fuel (x.div base) (n + 1)

/-- The text of a number with a unit. -/
def unitText (c : Conversion) (x : Extended) (places : Nat) : List Char :=
  let fixed (places : Nat) (x : Extended) : List Char :=
    ({ Layout.plain with precision := some places }).real 4 'f' x
  match c.target with
  | .plain =>
    let places := c.precision.getD places
    let ten : Extended := .ofInt (Nat.pow 10 places)
    fixed places ((roundWay c.round (x.mul ten)).div ten)
  | scale =>
    let base : Extended := .ofInt scale.base
    let isBelow (x : Extended) (bound : Nat) : Bool :=
      { x with negative := false }.compare? (.ofInt bound) == some .lt
    let (y, power) := normalize base 40 x 0
    let adjust := match c.precision with
      | some p => min (power * 3) p
      | none => if isBelow y 10 then 1 else 0
    let ten : Extended := .ofInt (Nat.pow 10 adjust)
    let y := (roundWay c.round (y.mul ten)).div ten
    let (y, power) := if isBelow y scale.base then (y, power) else (y.div base, power + 1)
    let hasPoint := y.compare? .zero ≠ some .eq ∧ isBelow y 10 ∧ 0 < power
    let places := c.precision.getD (if hasPoint then 1 else 0)
    fixed places y ++ (if power = 0 then [] else ((unitLetters[power - 1]?).toList)) ++
      if power ≠ 0 ∧ scale = .binaryWithMark then ['i'] else []

/-- The number that a text with a unit writes, and how many places it has. -/
def readUnit (c : Conversion) (text : String) : Except String (Extended × Nat) :=
  let s := text.toList
  let (negative, body) := match s with
    | '-' :: r => (true, r)
    | r => (false, r)
  let whole := body.takeWhile Char.isDigit
  let rest := body.drop whole.length
  let (places, rest) := match rest with
    | '.' :: r => (r.takeWhile Char.isDigit, r.dropWhile Char.isDigit)
    | r => ([], r)
  let isPointOnly := match body.drop whole.length with
    | ['.'] => true
    | _ => false
  if whole.isEmpty ∧ places.isEmpty ∨ isPointOnly then .error ("invalid number: " ++ quote text)
  else
    let n := (scanDigits 10 0 (whole ++ places)).1
    let value : Extended := (Numeral.decimal n (-(places.length : Int))).extended negative
    match rest.dropWhile fun c => c == ' ' || c == '\t' with
    | [] => match rest, c.source with
      | [], .binaryWithMark => .error ("missing 'i' suffix in input: " ++ quote text ++ " (e.g Ki/Mi/Gi)")
      | [], _ => .ok (value, places.length)
      | _, _ => .error ("invalid suffix in input: " ++ quote text)
    | letter :: more =>
      match unitLetters.idxOf? letter with
      | none => .error ("invalid suffix in input: " ++ quote text)
      | some i =>
        let result (base : Nat) : Except String (Extended × Nat) :=
          .ok (value.mul (.ofInt (Nat.pow base (i + 1))), 0)
        match c.source, more with
        | .plain, _ =>
          .error ("rejecting suffix in input: " ++ quote text ++ " (consider using --from)")
        | .auto, ['i'] | .binaryWithMark, ['i'] => result 1024
        | .binaryWithMark, _ =>
          .error ("missing 'i' suffix in input: " ++ quote text ++ " (e.g Ki/Mi/Gi)")
        | .auto, [] | .decimal, [] => result 1000
        | .binary, [] => result 1024
        | _, extra =>
          .error ("invalid suffix in input " ++ quote text ++ ": " ++ quote (String.ofList extra))

/-- A field with its number converted. -/
def convertField (c : Conversion) (number : Nat) (field : List Char) : Except String (List Char) :=
  let body := field.dropWhile fun c => c == ' ' || c == '\t'
  let skipped := field.length - body.length
  let suffix := c.suffix.toList
  let bare := if !suffix.isEmpty ∧ suffix.isSuffixOf body then body.take (body.length - suffix.length) else body
  (readUnit c (String.ofList bare)).map fun (x, places) =>
    let x := if c.sourceUnit ≠ 1 ∨ c.targetUnit ≠ 1 then
        (x.mul (.ofInt c.sourceUnit)).div (.ofInt c.targetUnit) else x
    let text := unitText c x places ++ suffix
    let padding : Int := match c.padding with
      | some n => n
      | none =>
        if c.delimiter.isNone ∧ (0 < skipped ∨ 1 < number) then field.length else 0
    let missing := padding.natAbs - text.length
    let padded := if padding < 0 then text ++ List.replicate missing ' '
      else if c.zeros then
        (match text with
          | '-' :: r => '-' :: (List.replicate missing '0' ++ r)
          | r => List.replicate missing '0' ++ r)
      else List.replicate missing ' ' ++ text
    c.front ++ padded ++ c.back

/-- The fields of a line, each with the blanks in front of it but for one. -/
def unitFields (delimiter : Option Char) : Nat → List Char → List (List Char)
  | 0, s => [s]
  | fuel + 1, s =>
    match delimiter with
    | some d => cutAt d s
    | none =>
      let isBlank (c : Char) : Bool := c == ' ' || c == '\t' || c == '\n'
      let blanks := s.takeWhile isBlank
      let word := (s.drop blanks.length).takeWhile fun c => !isBlank c
      match s.drop (blanks.length + word.length) with
      | [] => [blanks ++ word]
      | _ :: rest => (blanks ++ word) :: unitFields delimiter fuel rest

/-- A size of a unit such as `1000` or `1Ki`. -/
def unitValue? (s : String) : Option Nat :=
  match scanDigits 10 0 s.toList with
  | (n, digits, rest) =>
    let n := if digits = 0 then 1 else n
    match rest with
    | [] => if digits = 0 then none else some n
    | [c] => (unitLetters.idxOf? c).map fun i => n * Nat.pow 1000 (i + 1)
    | [c, 'i'] => (unitLetters.idxOf? c).map fun i => n * Nat.pow 1024 (i + 1)
    | _ => none

/-- What is wrong with a conversion that options ask for. -/
inductive ConversionFault
  /-- One of some words was expected. -/
  | choice (option given : String) (words : List String)
  | fields (fault : RangeFault)
  | other (text : String)

/-- How a format for converted numbers writes them. -/
structure UnitFormat where
  front : List Char
  back : List Char
  zeros : Bool
  /-- A width below zero is filled behind the number. -/
  width : Int
  precision : Option Nat

/-- The text in front of the directive of a format, and the rest behind its percent sign. Of two percent
signs one is counted, so that the text is cut at its end. -/
def directiveFront (whole : List Char) : Nat → List Char → Option (List Char × List Char)
  | _, [] => none
  | n, '%' :: '%' :: r => directiveFront whole (n + 1) r
  | n, '%' :: r => some (whole.take n, r)
  | n, _ :: r => directiveFront whole (n + 1) r

/-- Whether a single percent sign is left. -/
def hasDirective : List Char → Bool
  | '%' :: '%' :: r => hasDirective r
  | '%' :: _ => true
  | _ :: r => hasDirective r
  | [] => false

def UnitFormat.ofText (text : String) : Except String UnitFormat :=
  let isMark (c : Char) : Bool := c == ' ' || c == '\'' || c == '0'
  match directiveFront text.toList 0 text.toList with
  | none => .error ("format " ++ quote text ++ " has no % directive")
  | some (front, r) =>
    let marks := r.takeWhile isMark
    let (negative, digits) := splitSign (r.drop marks.length)
    let (n, count, rest) := scanDigits 10 0 digits
    let rest := if count = 0 then r.drop marks.length else rest
    let width : Int := if negative then -(n : Int) else n
    let precise : Except String (Option Nat × List Char) := match rest with
      | '.' :: r =>
        if r.head?.any fun c => c == ' ' || c == '\t' || c == '+' || c == '-' then
          .error ("invalid precision in format " ++ quote text)
        else
          let (p, _, rest) := scanDigits 10 0 r
          .ok (some p, rest)
      | rest => .ok (none, rest)
    if rest.isEmpty then .error ("format " ++ quote text ++ " ends in %")
    else
      match precise with
      | .error text => .error text
      | .ok (precision, 'f' :: back) =>
        if hasDirective back then .error ("format " ++ quote text ++ " has too many % directives")
        else .ok ⟨front, back, marks.contains '0' && 0 < width, if count = 0 then 0 else width, precision⟩
      | .ok _ => .error ("invalid format " ++ quote text ++ ", directive must be %[0]['][-][N][.][N]f")

/-- The ways to round. -/
def roundWays : List String := ["up", "down", "from-zero", "towards-zero", "nearest"]

/-- What may be done about a number that is none. -/
def unitModes : List String := ["abort", "fail", "warn", "ignore"]

/-- The way of converting that options ask for. -/
def conversion (a : Arguments) : Except ConversionFault Conversion := do
  let chosen (option standard : String) (c : Char) (words : List String) : Except ConversionFault String :=
    let s := (a.value? c).getD standard
    match choiceOf words s with
    | some w => .ok w
    | none => .error (.choice option s words)
  let scale (c : Char) (name : String) (words : List String) : Except ConversionFault UnitScale :=
    (chosen name "none" c words).map fun w => (UnitScale.ofText? w).getD .plain
  let unit (c : Char) : Except ConversionFault Nat :=
    match a.value? c with
    | none => .ok 1
    | some s => match unitValue? s with
      | some n => if n = 0 then .error (.other ("invalid unit size: " ++ quote s)) else .ok n
      | none => .error (.other ("invalid unit size: " ++ quote s))
  let source ← scale 'φ' "--from" ["none", "auto", "si", "iec", "iec-i"]
  let target ← scale 'τ' "--to" ["none", "si", "iec", "iec-i"]
  let round ← chosen "--round" "from-zero" 'ρ' roundWays
  discard (chosen "--invalid" "abort" 'ι' unitModes)
  let sourceUnit ← unit 'υ'
  let targetUnit ← unit 'ω'
  let fields : Option Ranges ← match a.value? 'χ' with
    | none => .ok (some [(1, some 1)])
    | some "-" => .ok none
    | some s => match readRanges s with
      | .ok r => .ok (some r)
      | .error fault => .error (.fields fault)
  let padding : Option Int ← match a.value? 'π' with
    | none => .ok none
    | some s => match integerOf? 10 s with
      | some 0 | none => .error (.other ("invalid padding value " ++ quote s))
      | some n => .ok (some n)
  let plain : Conversion := ⟨source, target, sourceUnit, targetUnit, round, padding,
    false, none, [], [], (a.value? 'σ').getD "", (a.value? 'd').map fun d => d.toList.headD ' ', fields⟩
  match a.value? 'μ' with
  | none => .ok plain
  | some f =>
    match UnitFormat.ofText f with
    | .error text => .error (.other text)
    | .ok n =>
      .ok { plain with
        padding := if n.width = 0 then padding else some n.width
        zeros := n.zeros
        precision := n.precision
        front := n.front
        back := n.back }

def numfmt : Arguments → Tool Unit := fun a => do
  let headers := (a.values 'η').map fun s => if s.isEmpty then some 1 else countOf? s
  match headers.find? (fun n => n = none ∨ n = some 0), conversion a with
  | some _, _ => complain ("invalid header value " ++ quote ((a.value? 'η').getD ""))
  | _, .error (.choice option s words) => misuseChoice option s words
  | _, .error (.fields fault) => misuse (fault.message true)
  | _, .error (.other text) => complain text
  | none, .ok c =>
    let ending := endingOfLines a
    let mode := (choiceOf unitModes ((a.value? 'ι').getD "abort")).getD "abort"
    let lines ← if a.operands.isEmpty then do
        pure (linesEndedBy ending (← takeInput).toList)
      else pure (a.operands.map String.toList)
    let header := (headers.getLast?.bind id).getD 0
    let header := if a.operands.isEmpty then header else 0
    let mut ended := false
    for (line, i) in lines.zipIdx do
      if !ended then
        if i < header then put (String.ofList (line ++ [ending]))
        else
          let glue := (c.delimiter.getD ' ').toString
          let mut parts : List String := []
          for (field, j) in (unitFields c.delimiter (line.length + 1) line).zipIdx do
            if !ended then
              let isChosen := match c.fields with
                | some r => r.any fun r => r.1 ≤ j + 1 && r.2.all (j + 1 ≤ ·)
                | none => true
              if isChosen then
                match convertField c (j + 1) field with
                | .ok s => parts := parts ++ [String.ofList s]
                | .error text =>
                  if mode ≠ "ignore" then say text
                  if mode = "abort" then ended := true
                  if mode = "abort" ∨ mode = "fail" then setStatus 2
                  parts := parts ++ [String.ofList field]
              else parts := parts ++ [String.ofList field]
          if ended then
            let front := parts.dropLast
            if !front.isEmpty then put (glue.intercalate front ++ glue)
          else put (glue.intercalate parts ++ ending.toString)

end PlanReuse.Script.Tool
