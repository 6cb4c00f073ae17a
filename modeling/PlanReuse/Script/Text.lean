import PlanReuse.Text.Cut

/-!
# Texts of bytes

Scripts and files are made of bytes. Here a text is a string of characters below 256, one for each byte,
so that counting and cutting are by bytes.
-/

namespace PlanReuse.Script

/-- The text of some bytes. -/
def ofBytes (bytes : List UInt8) : String := String.ofList (bytes.map fun b => Char.ofNat b.toNat)

/-- The bytes of a text. -/
def toBytes (s : String) : List UInt8 := s.toList.map fun c => c.toNat.toUInt8

/-- The bytes that write a text of any characters. -/
def encode (s : String) : String := ofBytes s.toUTF8.toList

/-- The text that some bytes write; if they write none, each byte is taken for a character. -/
def decode (s : String) : String := (String.fromUTF8? ⟨(toBytes s).toArray⟩).getD s

/-! ### Characters -/

/-- Blanks between the words and numbers of a text. -/
def isSpace (c : Char) : Bool := c == ' ' || ('\t' ≤ c && c ≤ '\r')

def isNameStart (c : Char) : Bool := c.isAlpha || c == '_'

def isNamePart (c : Char) : Bool := isNameStart c || c.isDigit

/-- A name of a variable. -/
def isName (s : String) : Bool :=
  match s.toList with
  | c :: r => isNameStart c && r.all isNamePart
  | [] => false

def isOctal (c : Char) : Bool := '0' ≤ c && c ≤ '7'

/-- The digit that a character is, in the largest base. -/
def digitOf (c : Char) : Nat :=
  if c.isDigit then c.toNat - '0'.toNat
  else if 'a' ≤ c ∧ c ≤ 'z' then c.toNat - 'a'.toNat + 10
  else if 'A' ≤ c ∧ c ≤ 'Z' then c.toNat - 'A'.toNat + 10
  else 99

/-! ### Lines -/

/-- The lines of a text, each with its line feed; the last one may lack it. -/
def rows : List Char → List (List Char)
  | [] => []
  | '\n' :: r => ['\n'] :: rows r
  | c :: r =>
    match rows r with
    | [] => [[c]]
    | row :: more => (c :: row) :: more

/-- A line without its line feed. -/
def chomp (row : List Char) : List Char := if row.getLast? = some '\n' then row.dropLast else row

/-- The lines of a text without their line feeds. -/
def linesOf (s : List Char) : List (List Char) := (rows s).map chomp

/-- A text without the line feeds at its end. -/
def dropEnds (s : List Char) : List Char := (s.reverse.dropWhile (· == '\n')).reverse

/-! ### Numbers -/

/-- The value of the digits in front in some base, how many there are, and the rest. -/
def scanDigits (base : Nat) : Nat → List Char → Nat × Nat × List Char
  | value, [] => (value, 0, [])
  | value, c :: r =>
    if digitOf c < base then
      let (value, count, rest) := scanDigits base (value * base + digitOf c) r
      (value, count + 1, rest)
    else (value, 0, c :: r)

/-- Splits a sign off; true is minus. -/
def splitSign : List Char → Bool × List Char
  | '-' :: r => (true, r)
  | '+' :: r => (false, r)
  | s => (false, s)

/-- An integer in front of a text, blanks and a sign before it, and the rest. In base zero a prefix gives
the base: `0x` for 16, `0` for 8. -/
def scanInteger (base : Nat) (s : List Char) : Option (Int × List Char) :=
  let (negative, s) := splitSign (s.dropWhile isSpace)
  let (base, s) :=
    match s with
    | '0' :: x :: d :: r =>
      if (x = 'x' ∨ x = 'X') ∧ digitOf d < 16 ∧ (base = 0 ∨ base = 16) then (16, d :: r)
      else (if base = 0 then 8 else base, s)
    | '0' :: _ => (if base = 0 then 8 else base, s)
    | _ => (if base = 0 then 10 else base, s)
  match scanDigits base 0 s with
  | (_, 0, _) => none
  | (value, _, rest) => some (if negative then -(value : Int) else value, rest)

/-- Whether an integer has 64 bits. -/
def fitsWord (n : Int) : Bool := -(Nat.pow 2 63 : Int) ≤ n && n < (Nat.pow 2 63 : Int)

/-- The integer that a whole text writes, blanks around it. In base zero a blank text is zero. -/
def integerOf? (base : Nat) (s : String) : Option Int :=
  match scanInteger base s.toList with
  | some (n, rest) => if rest.all isSpace && fitsWord n then some n else none
  | none => if base = 0 && s.all isSpace then some 0 else none

/-- A number that counts something. -/
def countOf? (s : String) : Option Nat :=
  match integerOf? 10 s with
  | some n => if 0 ≤ n ∧ n < (Nat.pow 2 31 : Int) then some n.toNat else none
  | none => none

/-- An integer brought into 64 bits. -/
def wrap (n : Int) : Int := Int.bmod n (Nat.pow 2 64)

/-- A number in decimal. -/
def decimal (n : Int) : String := toString n

theorem ofBytes_length (bytes : List UInt8) : (ofBytes bytes).length = bytes.length := by
  simp [ofBytes]

end PlanReuse.Script
