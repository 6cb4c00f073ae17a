import PlanReuse.Script.Number.Extended
import PlanReuse.Number.Shortest
import PlanReuse.Script.Text

/-!
# Formats

Texts with escapes, and formats that print arguments: integers in several bases, floating-point numbers
rounded to a number of digits, and texts, each padded to a width.
-/

namespace PlanReuse.Script

/-! ### Escapes -/

/-- The characters of single letters after a backslash. -/
def escapeLetters : List (Char × Char) :=
  [('n', '\n'), ('t', '\t'), ('r', '\r'), ('\\', '\\'), ('a', '\x07'), ('b', '\x08'), ('f', '\x0c'),
    ('v', '\x0b'), ('e', '\x1b')]

/-- The character of up to three octal digits, of which the low eight bits count. -/
def octalChar (digits : List Char) : Char :=
  Char.ofNat ((digits.foldl (fun n c => n * 8 + digitOf c) 0) % 256)

/-- The character that a backslash makes with what follows it, and the rest. A letter without a meaning
leaves the backslash. -/
def readEscape (s : List Char) : Char × List Char :=
  match s with
  | [] => ('\\', [])
  | c :: r =>
    if isOctal c then
      let digits := (s.take 3).takeWhile isOctal
      (octalChar digits, s.drop digits.length)
    else
      match escapeLetters.lookup c with
      | some d => (d, r)
      | none => ('\\', s)

theorem length_readEscape_le (s : List Char) : (readEscape s).2.length ≤ s.length := by
  cases s with
  | nil => simp [readEscape]
  | cons c r =>
    simp only [readEscape]
    split
    · simp only [List.length_drop]
      omega
    · split <;> simp

/-- A zero in front of octal digits counts for nothing. -/
def dropZero (s : List Char) : List Char :=
  match s with
  | '0' :: c :: r => if isOctal c then c :: r else s
  | _ => s

theorem length_dropZero_le (s : List Char) : (dropZero s).length ≤ s.length := by
  unfold dropZero
  split
  · split <;> simp
  · simp

/-- A text with its escapes resolved, and whether it was ended by `\c`. -/
def unescape (s : List Char) : List Char × Bool :=
  match s with
  | [] => ([], false)
  | '\\' :: 'c' :: _ => ([], true)
  | '\\' :: r =>
    have := Nat.le_trans (length_readEscape_le (dropZero r)) (length_dropZero_le r)
    let (more, ended) := unescape (readEscape (dropZero r)).2
    ((readEscape (dropZero r)).1 :: more, ended)
  | c :: r =>
    let (more, ended) := unescape r
    (c :: more, ended)
termination_by s.length

/-! ### Fields -/

/-- How a field is laid out. -/
structure Layout where
  left : Bool
  plus : Bool
  blank : Bool
  zeros : Bool
  alternate : Bool
  width : Nat
  precision : Option Nat

namespace Layout

def plain : Layout := ⟨false, false, false, false, false, 0, none⟩

/-- Pads a field whose front keeps its place before zeros. -/
def pad (l : Layout) (zeros : Bool) (front body : List Char) : List Char :=
  let missing := l.width - (front.length + body.length)
  if l.left then front ++ body ++ List.replicate missing ' '
  else if zeros then front ++ List.replicate missing '0' ++ body
  else List.replicate missing ' ' ++ front ++ body

def text (l : Layout) (s : List Char) : List Char :=
  l.pad false [] (match l.precision with | some n => s.take n | none => s)

/-- The sign of a number. -/
def sign (l : Layout) (negative : Bool) : List Char :=
  if negative then ['-'] else if l.plus then ['+'] else if l.blank then [' '] else []

/-- Digits with as many in front as the precision asks for; a zero without any is empty. -/
def precise (l : Layout) (n : Nat) (digits : List Char) : List Char :=
  match l.precision with
  | some p => if p = 0 ∧ n = 0 then [] else List.replicate (p - digits.length) '0' ++ digits
  | none => digits

def integer (l : Layout) (n : Int) : List Char :=
  l.pad (l.zeros && l.precision.isNone) (l.sign (n < 0))
    (l.precise n.natAbs (Nat.toDigits 10 n.natAbs))

/-- A number without a sign in the base of a letter. -/
def natural (l : Layout) (letter : Char) (n : Nat) : List Char :=
  let base := match letter with
    | 'o' => 8
    | 'x' | 'X' => 16
    | _ => 10
  let digits := Nat.toDigits base n
  let digits := l.precise n (if letter = 'X' then digits.map Char.toUpper else digits)
  let front := if l.alternate ∧ n ≠ 0 ∧ base = 16 then ['0', letter] else []
  let digits := if l.alternate ∧ base = 8 ∧ digits.head? ≠ some '0' then '0' :: digits else digits
  l.pad (l.zeros && l.precision.isNone) front digits

end Layout

/-! ### Floating-point numbers

A finite magnitude is given as a whole number and a power of two. -/

/-- The digits of a count of parts, `places` of them behind a point. -/
def withPoint (alternate : Bool) (count places : Nat) : List Char :=
  let digits := Nat.toDigits 10 count
  let digits := List.replicate (places + 1 - digits.length) '0' ++ digits
  let cut := digits.length - places
  digits.take cut ++
    (if places = 0 then if alternate then ['.'] else [] else '.' :: digits.drop cut)

/-- A magnitude times a power of ten, rounded to a whole number. -/
def scaledBy (m : Nat) (q power : Int) : Nat :=
  let (a, b) := Binary64.shiftQuotient m 1 q
  if 0 ≤ power then Binary64.roundHalfEven (a * Nat.pow 10 power.toNat) b
  else Binary64.roundHalfEven a (b * Nat.pow 10 (-power).toNat)

def fixedText (alternate : Bool) (places m : Nat) (q : Int) : List Char :=
  withPoint alternate (scaledBy m q places) places

/-- The digits of a number with one before the point, and its exponent. -/
def leading (places m : Nat) (q : Int) : Nat × Int :=
  if m = 0 then (0, 0)
  else
    let e := Decimal.leadingExponent m q
    let count := scaledBy m q ((places : Int) - e)
    if Nat.pow 10 (places + 1) ≤ count then (scaledBy m q ((places : Int) - (e + 1)), e + 1) else (count, e)

/-- An exponent with a sign and at least some digits. -/
def exponentText (least : Nat) (e : Int) : List Char :=
  let digits := Nat.toDigits 10 e.natAbs
  (if e < 0 then '-' else '+') :: (List.replicate (least - digits.length) '0' ++ digits)

def scientificText (alternate : Bool) (places m : Nat) (q : Int) : List Char :=
  let (count, e) := leading places m q
  withPoint alternate count places ++ 'e' :: exponentText 2 e

/-- A text without the zeros at the end of its fraction. -/
def dropZeros (s : List Char) : List Char :=
  if s.contains '.' then
    let t := (s.reverse.dropWhile (· == '0')).reverse
    if t.getLast? = some '.' then t.dropLast else t
  else s

/-- Positional where the exponent lies between `-5` and the precision, scientific elsewhere. -/
def generalText (alternate : Bool) (precision m : Nat) (q : Int) : List Char :=
  let p := max precision 1
  let (count, e) := leading (p - 1) m q
  let trim (s : List Char) : List Char := if alternate then s else dropZeros s
  if -4 ≤ e ∧ e < p then trim (fixedText alternate ((p : Int) - 1 - e).toNat m q)
  else trim (withPoint alternate count (p - 1)) ++ 'e' :: exponentText 2 e

/-- Hexadecimal digits with a power of two, behind the `0x`. The digit in front of the point has `lead`
bits; without a precision all digits are written that are not zeros at the end. -/
def hexText (alternate : Bool) (lead : Nat) (precision : Option Nat) (m : Nat) (q : Int) : List Char :=
  let places := if lead = 1 then 13 else 15
  let width := lead + 4 * places
  let shift := if lead = 1 then min (width - 1 - m.log2) (q + 1074).toNat else width - 1 - m.log2
  let m := m * Nat.pow 2 shift
  let e : Int := if m = 0 then 0 else q - shift + 4 * places
  let shown := precision.getD places
  let count := if shown < places then Binary64.roundHalfEven m (Nat.pow 2 (4 * (places - shown)))
    else m * Nat.pow 16 (shown - places)
  let digits := Nat.toDigits 16 (count % Nat.pow 16 shown)
  let digits := List.replicate (shown - digits.length) '0' ++ (if shown = 0 then [] else digits)
  let front := Nat.toDigits 16 (count / Nat.pow 16 shown)
  let body := front ++ if shown = 0 ∧ !alternate then [] else '.' :: digits
  (if precision.isNone ∧ !alternate then dropZeros body else body) ++ 'p' :: exponentText 1 e

/-- A number as a letter asks for it; `lead` is for hexadecimal digits. -/
def Layout.real (l : Layout) (lead : Nat) (letter : Char) (x : Extended) : List Char :=
  let places := l.precision.getD 6
  let cased (s : List Char) : List Char := if letter.isUpper then s.map Char.toUpper else s
  match x.size with
  | .undefined => l.pad false (l.sign x.negative) (cased ['n', 'a', 'n'])
  | .infinite => l.pad false (l.sign x.negative) (cased ['i', 'n', 'f'])
  | .finite m q =>
    match letter.toLower with
    | 'f' => l.pad l.zeros (l.sign x.negative) (fixedText l.alternate places m q)
    | 'e' => l.pad l.zeros (l.sign x.negative) (cased (scientificText l.alternate places m q))
    | 'a' =>
      l.pad l.zeros (l.sign x.negative ++ cased ['0', 'x']) (cased (hexText l.alternate lead l.precision m q))
    | _ => l.pad l.zeros (l.sign x.negative) (cased (generalText l.alternate places m q))

/-- The numeral in front of a text, blanks and a sign before it: whether it is negative, the numeral and
the rest. -/
def scanNumeral? (hex : Bool) (s : List Char) : Option (Bool × Numeral × List Char) :=
  let (negative, body) := splitSign (s.dropWhile isSpace)
  (Numeral.read? hex body).map fun (n, rest) => (negative, n, rest)

/-- The number in front of a text, in decimal, and the rest. -/
def scanReal (s : List Char) : Option (Binary64 × List Char) :=
  (scanNumeral? false s).map fun (negative, n, rest) => (n.double negative, rest)

/-! ### Directives -/

/-- A width or a precision: none, a number, or the next argument. -/
inductive Extent
  | none
  | number (n : Nat)
  | argument

/-- A part of a format. -/
inductive Directive
  | plain (c : Char)
  | field (layout : Layout) (width precision : Extent) (letter : Char)
  /-- A format that ends inside a directive. -/
  | cut
  /-- A directive outside the language, as it is written. -/
  | unknown (text : List Char)
  /-- The next argument as it is shown. -/
  | shown (show_ : String → String)
  /-- The end of what is printed, or an error there. -/
  | stop (fault : Option String)

def setFlag (l : Layout) (c : Char) : Layout :=
  match c with
  | '-' => { l with left := true }
  | '+' => { l with plus := true }
  | ' ' => { l with blank := true }
  | '0' => { l with zeros := true }
  | _ => { l with alternate := true }

def isFlag (c : Char) : Bool := c == '-' || c == '+' || c == ' ' || c == '0' || c == '#'

def readExtent (s : List Char) : Extent × List Char :=
  match s with
  | '*' :: r => (.argument, r)
  | _ =>
    match scanDigits 10 0 s with
    | (_, 0, rest) => (.none, rest)
    | (n, _, rest) => (.number n, rest)

/-- The directive after a percent sign, and the rest. -/
def readDirective (s : List Char) : Directive × List Char :=
  let layout := (s.takeWhile isFlag).foldl setFlag .plain
  let (width, r) := readExtent (s.dropWhile isFlag)
  let (precision, r) :=
    match r with
    | '.' :: r =>
      match readExtent r with
      | (.none, r) => (.number 0, r)
      | found => found
    | _ => (.none, r)
  match r with
  | [] => (.cut, [])
  | c :: rest =>
    if "bcsdiouxXeEfFgGaA".contains c then (.field layout width precision c, rest)
    else (.unknown ('%' :: s.take (s.length - rest.length)), rest)

/-- The parts of a format, by what stands behind percent signs and what behind backslashes. -/
def directivesBy (read escape : List Char → Directive × List Char) : Nat → List Char → List Directive
  | 0, _ => []
  | fuel + 1, s =>
    match s with
    | [] => []
    | '%' :: '%' :: r => .plain '%' :: directivesBy read escape fuel r
    | '%' :: r =>
      let (d, rest) := read r
      d :: directivesBy read escape fuel rest
    | '\\' :: r =>
      let (d, rest) := escape r
      d :: directivesBy read escape fuel rest
    | c :: r => .plain c :: directivesBy read escape fuel r

/-- The parts of a format, in which a backslash may stand for itself. -/
def directives (escapes : Bool) : Nat → List Char → List Directive :=
  directivesBy readDirective fun r =>
    if escapes then
      let (c, rest) := readEscape r
      (.plain c, rest)
    else (.plain '\\', r)

/-! ### Printing -/

/-- A print in the making. -/
structure Print where
  output : String
  arguments : List String
  /-- What is wrong, the latest first, each with how much has been printed before. -/
  complaints : List (Nat × String)
  /-- The status so far. -/
  status : Nat
  /-- Whether nothing more is printed. -/
  ended : Bool
  /-- Whether an argument has been asked for. -/
  asked : Bool
  /-- Whether numbers have extended precision, and arguments stand in quotes in what is said about them. -/
  extended : Bool

namespace Print

def argument (p : Print) : Option String × Print :=
  (p.arguments.head?, { p with arguments := p.arguments.tail, asked := true })

def put (p : Print) (s : List Char) : Print := { p with output := p.output ++ String.ofList s }

def complain (p : Print) (text : String) : Print :=
  { p with complaints := (p.output.length, text) :: p.complaints, status := 1 }

/-- Ends the print with a complaint. -/
def stop (p : Print) (text : String) (status : Nat) : Print :=
  { p.complain text with status, ended := true }

/-- An argument in what is said about it. -/
def shown (p : Print) (argument : String) : String := if p.extended then "'" ++ argument ++ "'" else argument

/-- An argument in which only a number in front has been read. -/
def judge (p : Print) (argument : String) (rest : Option (List Char)) : Print :=
  match rest with
  | none =>
    if argument.isEmpty then p
    else p.complain (p.shown argument ++ if p.extended then ": expected a numeric value" else ": expected numeric value")
  | some [] => p
  | some _ =>
    p.complain (p.shown argument ++ if p.extended then ": value not completely converted" else ": not completely converted")

/-- The code of a character behind a quote. -/
def quotedCode? (argument : String) : Option Nat :=
  match argument.toList with
  | c :: r => if c = '\'' ∨ c = '"' then some ((r.head?.map Char.toNat).getD 0) else none
  | [] => none

/-- The warning about what stands behind the character of a character's code. -/
def warnBehind (p : Print) (argument : String) : Print :=
  match p.extended, argument.toList with
  | true, _ :: _ :: c :: r =>
    { p with complaints := (p.output.length, "warning: " ++ String.ofList (c :: r) ++
        ": character(s) following character constant have been ignored") :: p.complaints }
  | _, _ => p

def integer (p : Print) (signed : Bool) : Int × Print :=
  match p.argument with
  | (none, p) => (0, p)
  | (some a, p) =>
    match quotedCode? a with
    | some n => (n, p.warnBehind a)
    | none =>
      match scanInteger 0 a.toList with
      | none => (0, p.judge a none)
      | some (n, rest) =>
        let low : Int := if signed then -(Nat.pow 2 63 : Int) else -(Nat.pow 2 64 - 1 : Int)
        let high : Int := if signed then Nat.pow 2 63 - 1 else Nat.pow 2 64 - 1
        if n < low ∨ high < n then
          (if signed then max low (min n high) else high,
            p.complain (p.shown a ++ ": Numerical result out of range"))
        else (n, p.judge a (some rest))

/-- Whether a numeral lies outside the range of doubles. -/
def isOutside (n : Numeral) (x : Binary64) : Bool :=
  match n with
  | .decimal m _ | .binary m _ => m ≠ 0 && (x.isInfinite || x.magnitude < Binary64.hiddenBit)
  | _ => false

/-- A number, rounded to the precision in which the print works. -/
def real (p : Print) : Extended × Print :=
  match p.argument with
  | (none, p) => (.zero, p)
  | (some a, p) =>
    match quotedCode? a with
    | some n => (.ofInt n, p.warnBehind a)
    | none =>
      match scanNumeral? true a.toList with
      | none => (.zero, p.judge a none)
      | some (negative, n, rest) =>
        if p.extended then (n.extended negative, p.judge a (some rest))
        else
          let x := n.double negative
          let p := if rest.isEmpty ∧ isOutside n x then p.complain (a ++ ": Numerical result out of range")
            else p.judge a (some rest)
          (.ofDouble x, p)

def extent (p : Print) : Extent → Option Int × Print
  | .none => (none, p)
  | .number n => (some n, p)
  | .argument =>
    let (n, p) := p.integer true
    (some n, p)

/-- Carries out one directive. -/
def step (p : Print) (d : Directive) : Print :=
  if p.ended then p
  else
    match d with
    | .plain c => p.put [c]
    | .cut => p.stop "missing format character" 2
    | .unknown text => p.stop (String.ofList text ++ ": invalid directive") 2
    | .stop none => { p with ended := true }
    | .stop (some fault) => p.stop fault 1
    | .shown show_ =>
      let (a, p) := p.argument
      p.put ((a.map fun a => show_ a).getD "").toList
    | .field layout width precision letter =>
      let (width, p) := p.extent width
      let (precision, p) := p.extent precision
      let w := width.getD 0
      let layout :=
        { layout with
          left := layout.left || w < 0
          width := w.natAbs
          precision := precision.bind fun n => if n < 0 then none else some n.toNat }
      match letter with
      | 's' =>
        let (a, p) := p.argument
        p.put (layout.text (a.getD "").toList)
      | 'b' =>
        let (a, p) := p.argument
        let (s, ended) := unescape (a.getD "").toList
        { p.put (layout.text s) with ended }
      | 'c' =>
        let (a, p) := p.argument
        p.put (layout.pad false [] [((a.getD "").toList.head?).getD (Char.ofNat 0)])
      | 'd' | 'i' =>
        let (n, p) := p.integer true
        p.put (layout.integer n)
      | 'o' | 'u' | 'x' | 'X' =>
        let (n, p) := p.integer false
        p.put (layout.natural letter (n % (Nat.pow 2 64 : Int)).toNat)
      | _ =>
        let (x, p) := p.real
        p.put (layout.real (if p.extended then 4 else 1) letter x)

/-- Carries out a format again and again while it takes arguments and some are left. -/
def loop (ds : List Directive) : Nat → Print → Print
  | 0, p => p
  | fuel + 1, p =>
    let p := ds.foldl step p
    if p.ended || !p.asked || p.arguments.isEmpty then p else loop ds fuel p

/-- What the parts of a format print with some arguments. -/
def run (extended : Bool) (ds : List Directive) (arguments : List String) : Print :=
  loop ds (arguments.length + 1) ⟨"", arguments, [], 0, false, false, extended⟩

/-- What a format prints with some arguments. -/
def format (extended : Bool) (text : String) (arguments : List String) : Print :=
  run extended (directives true (text.length + 1) text.toList) arguments

end Print

end PlanReuse.Script
