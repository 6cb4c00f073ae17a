import PlanReuse.Number.Read
import PlanReuse.Toml.Value

/-!
# Plain TOML values

Numbers, truth values, dates and times: the values that are written without delimiters.
-/

namespace PlanReuse.Toml

/-- Characters of plain values: all but blanks, line ends and the signs that order a document. -/
def isPlainChar (c : Char) : Bool :=
  !(c == ' ' || c == '\t' || c == '\n' || c == '\r' || c == '=' || c == ',' || c == '#' || c == '[' ||
    c == ']' || c == '\x7b' || c == '\x7d')

/-! ### Digits -/

def hexValue? (c : Char) : Option Nat :=
  if '0' ≤ c ∧ c ≤ '9' then some (c.toNat - '0'.toNat)
  else if 'a' ≤ c ∧ c ≤ 'f' then some (c.toNat - 'a'.toNat + 10)
  else if 'A' ≤ c ∧ c ≤ 'F' then some (c.toNat - 'A'.toNat + 10)
  else none

def isHexDigit (c : Char) : Bool := (hexValue? c).isSome

/-- The digit that a character is in some base. -/
def digitValue? (base : Nat) (c : Char) : Option Nat :=
  match hexValue? c with
  | some d => if d < base then some d else none
  | none => none

/-- The number that digits in some base write; underscores count for nothing. -/
def digitsValue? (base : Nat) (s : List Char) : Option Nat :=
  match s.filter (· ≠ '_') with
  | [] => none
  | ds => ds.foldlM (fun n c => (digitValue? base c).map (n * base + ·)) 0

/-- Whether every underscore stands between two digits; `after` says that a digit stands in front. -/
def underscoresFit (isDigit : Char → Bool) (after : Bool) : List Char → Bool
  | [] => true
  | c :: r =>
    if c = '_' then after && r.head?.any isDigit && underscoresFit isDigit false r
    else underscoresFit isDigit (isDigit c) r

/-! ### Integers -/

/-- The base that a number names in front of its digits, and the digits. -/
def splitBase? : List Char → Option (Nat × List Char)
  | '0' :: 'x' :: ds => some (16, ds)
  | '0' :: 'o' :: ds => some (8, ds)
  | '0' :: 'b' :: ds => some (2, ds)
  | _ => none

/-- Whether some characters stand for a decimal integer: digits without a leading zero, or digits, an
underscore and a tail. What the tail holds counts only when the number is read, but a number with a point
or an `e` is meant to be a float. -/
def isDecimal (s : List Char) : Bool :=
  let body := (Number.splitSign s).2
  match body.dropWhile Char.isDigit with
  | [] => body == ['0'] || (body != [] && body.head? != some '0')
  | tail =>
    tail.head? == some '_' && body.head? != some '0' &&
      !tail.any (fun c => c == '.' || c == 'e' || c == 'E' || c == ' ') &&
      underscoresFit isHexDigit false body

/-- Whether some characters stand for an integer. A base may be named without any digits after it. -/
def isInteger (s : List Char) : Bool :=
  match splitBase? s with
  | some (base, ds) =>
    ds.all (fun c => c == '_' || (digitValue? base c).isSome) && underscoresFit isHexDigit false ds
  | none => isDecimal s

/-- The integer that some characters write. -/
def integerOf? (s : List Char) : Option Int :=
  match splitBase? s with
  | some (base, ds) => (digitsValue? base ds).map Int.ofNat
  | none =>
    let (negative, body) := Number.splitSign s
    (digitsValue? 10 body).map fun n => if negative then -(n : Int) else n

/-! ### Floats -/

/-- Splits off the digits and underscores in front, of which one must be a digit. -/
def splitDigits? (s : List Char) : Option (List Char × List Char) :=
  let isPart (c : Char) : Bool := c.isDigit || c == '_'
  let part := s.takeWhile isPart
  if part.any Char.isDigit then some (part, s.dropWhile isPart) else none

/-- An exponent part, or nothing. -/
def isExponent : List Char → Bool
  | [] => true
  | c :: r => (c == 'e' || c == 'E') && (splitDigits? (Number.splitSign r).2).any (·.2 == [])

/-- Whether some characters write a float: whole digits, and a fraction or an exponent or both. -/
def isFloat (s : List Char) : Bool :=
  let body := (Number.splitSign s).2
  if body = ['i', 'n', 'f'] ∨ body = ['n', 'a', 'n'] then true
  else
    underscoresFit Char.isDigit false body &&
      match splitDigits? body with
      | none => false
      | some (whole, rest) =>
        !(whole.head? == some '0' && 1 < (whole.filter Char.isDigit).length) &&
          match rest with
          | [] => false
          | '.' :: r => (splitDigits? r).any fun p => isExponent p.2
          | r => isExponent r

/-- A float, and whether it is in the range of doubles. Only a float that says so is infinite. -/
def readFloat? (s : List Char) : Option Bool :=
  if isFloat s then
    some (s.contains 'i' || match Number.readDouble? (s.filter (· ≠ '_')) with
      | some x => !x.isInfinite
      | none => false)
  else none

/-! ### Dates and times -/

/-- Two digits within bounds. -/
def readPair? (least greatest : Nat) : List Char → Option (Nat × List Char)
  | a :: b :: r =>
    if a.isDigit ∧ b.isDigit ∧ least ≤ Number.ofDigits [a, b] ∧ Number.ofDigits [a, b] ≤ greatest then
      some (Number.ofDigits [a, b], r)
    else none
  | _ => none

def expect? (c : Char) : List Char → Option (List Char)
  | d :: r => if d = c then some r else none
  | [] => none

def daysIn (year month : Nat) : Nat :=
  if month = 2 then
    if year % 4 = 0 ∧ (year % 100 ≠ 0 ∨ year % 400 = 0) then 29 else 28
  else if month = 4 ∨ month = 6 ∨ month = 9 ∨ month = 11 then 30
  else 31

/-- A date in front, and what follows it. -/
def readDate? (s : List Char) : Option (List Char) := do
  let (century, r) ← readPair? 0 99 s
  let (year, r) ← readPair? 0 99 r
  let r ← expect? '-' r
  let (month, r) ← readPair? 1 12 r
  let r ← expect? '-' r
  let (_, r) ← readPair? 1 (daysIn (century * 100 + year) month) r
  pure r

/-- A fraction of a second, if there is one, and what follows it. -/
def readFraction? : List Char → Option (List Char)
  | '.' :: r => if (r.takeWhile Char.isDigit).isEmpty then none else some (r.dropWhile Char.isDigit)
  | r => some r

/-- A time of day in front, with or without seconds, and what follows it. -/
def readTime? (s : List Char) : Option (List Char) := do
  let (_, r) ← readPair? 0 23 s
  let r ← expect? ':' r
  let (_, r) ← readPair? 0 59 r
  match r with
  | ':' :: r =>
    let (_, r) ← readPair? 0 60 r
    readFraction? r
  | r => pure r

/-- Nothing, or a distance from universal time. -/
def isOffset : List Char → Bool
  | [] => true
  | ['Z'] | ['z'] => true
  | c :: r =>
    (c == '+' || c == '-') &&
      (do
        let (_, r) ← readPair? 0 23 r
        let r ← expect? ':' r
        let (_, r) ← readPair? 0 59 r
        pure r) == some []

/-- Whether some characters write a date, a time, or both. -/
def isDatetime (s : List Char) : Bool :=
  match readDate? s with
  | some [] => true
  | some (c :: r) =>
    (c == 'T' || c == 't' || c == ' ') &&
      match readTime? r with
      | some rest => isOffset rest
      | none => false
  | none => readTime? s == some []

/-! ### All together -/

/-- The value that some characters write without delimiters. -/
def readPlain? (s : List Char) : Option Value :=
  if s = "true".toList then some (.boolean true)
  else if s = "false".toList then some (.boolean false)
  else if isInteger s then some (.integer (integerOf? s))
  else
    match readFloat? s with
    | some inRange => some (.float inRange)
    | none => if isDatetime s then some .datetime else none

end PlanReuse.Toml
