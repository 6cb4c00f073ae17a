import PlanReuse.Script.Text

/-!
# Patterns of names

A pattern holds characters that stand for themselves, `?` for any one character, `*` for any text and
sets in brackets. A character that is quoted or follows a backslash always stands for itself.
-/

namespace PlanReuse.Script

/-- A character of a text, and whether it is quoted. -/
abbrev Marked := Char × Bool

/-- What a set holds: the characters from one to another, or a class by its name. -/
inductive Range
  | between (first last : Char)
  | named (name : String)
deriving DecidableEq

/-- An element of a pattern. -/
inductive Wild
  | char (c : Char)
  | any
  | many
  | set (negated : Bool) (ranges : List Range)
deriving DecidableEq

/-- Whether a character belongs to a class. -/
def isInClass (name : String) (c : Char) : Bool :=
  match name with
  | "alpha" => c.isAlpha
  | "digit" => c.isDigit
  | "alnum" => c.isAlphanum
  | "upper" => c.isUpper
  | "lower" => c.isLower
  | "space" => isSpace c
  | "blank" => c == ' ' || c == '\t'
  | "punct" => 0x20 < c.toNat && c.toNat < 0x7F && !c.isAlphanum
  | "print" => 0x20 ≤ c.toNat && c.toNat < 0x7F
  | "graph" => 0x20 < c.toNat && c.toNat < 0x7F
  | "cntrl" => c.toNat < 0x20 || c.toNat == 0x7F
  | "xdigit" => digitOf c < 16
  | _ => false

def Range.holds (c : Char) : Range → Bool
  | between first last => first ≤ c && c ≤ last
  | named name => isInClass name c

/-- The name of a class in front, after `[:`, and the rest after `:]`. -/
def readClass? (s : List Marked) : Option (String × List Marked) :=
  let name := s.takeWhile fun m => m.1.isAlpha
  match s.dropWhile fun m => m.1.isAlpha with
  | (':', false) :: (']', false) :: r => some (String.ofList (name.map Prod.fst), r)
  | _ => none

/-- The ranges of a set up to its closing bracket, which does not count at the start. -/
def readSet? : Nat → Bool → List Marked → Option (List Range × List Marked)
  | 0, _, _ => none
  | fuel + 1, atStart, s =>
    match s with
    | [] => none
    | (']', false) :: r =>
      if atStart then (readSet? fuel false r).map fun (rs, rest) => (.between ']' ']' :: rs, rest)
      else some ([], r)
    | ('[', false) :: (':', false) :: r =>
      match readClass? r with
      | some (name, r) => (readSet? fuel false r).map fun (rs, rest) => (.named name :: rs, rest)
      | none =>
        (readSet? fuel false ((':', false) :: r)).map fun (rs, rest) => (.between '[' '[' :: rs, rest)
    | (a, _) :: ('-', false) :: (b, q) :: r =>
      if b = ']' ∧ !q then
        (readSet? fuel false (('-', false) :: (b, q) :: r)).map fun (rs, rest) => (.between a a :: rs, rest)
      else (readSet? fuel false r).map fun (rs, rest) => (.between a b :: rs, rest)
    | (a, _) :: r => (readSet? fuel false r).map fun (rs, rest) => (.between a a :: rs, rest)

/-- The elements of a pattern. A bracket that is not closed stands for itself. -/
def readPattern : Nat → List Marked → List Wild
  | 0, _ => []
  | fuel + 1, s =>
    match s with
    | [] => []
    | ('*', false) :: r => .many :: readPattern fuel r
    | ('?', false) :: r => .any :: readPattern fuel r
    | ('[', false) :: r =>
      let (negated, body) :=
        match r with
        | ('!', false) :: b | ('^', false) :: b => (true, b)
        | _ => (false, r)
      match readSet? (r.length + 1) true body with
      | some (ranges, rest) => .set negated ranges :: readPattern fuel rest
      | none => .char '[' :: readPattern fuel r
    | ('\\', false) :: (c, _) :: r => .char c :: readPattern fuel r
    | (c, _) :: r => .char c :: readPattern fuel r

/-- The pattern that some characters write. -/
def patternOf (s : List Marked) : List Wild := readPattern (s.length + 1) s

/-- Whether one element fits one character. -/
def Wild.fits (c : Char) : Wild → Bool
  | char d => c == d
  | any => true
  | many => false
  | set negated ranges => ranges.any (Range.holds c) != negated

/-- Whether a pattern fits a whole text. -/
def fits : List Wild → List Char → Bool
  | [], s => s.isEmpty
  | .many :: ws, [] => fits ws []
  | .many :: ws, c :: s => fits ws (c :: s) || fits (.many :: ws) s
  | _ :: _, [] => false
  | w :: ws, c :: s => w.fits c && fits ws s
termination_by ws s => ws.length + s.length

theorem fits_many (s : List Char) : fits [.many] s = true := by
  induction s with
  | nil => simp [fits]
  | cons c s ih => simp [fits, ih]

/-- Whether a text with marks is more than a plain name. -/
def isPattern (s : List Marked) : Bool :=
  s.any fun m => !m.2 && (m.1 == '*' || m.1 == '?' || m.1 == '[')

/-- What is left of a text when a pattern is cut off in front, or all of it. -/
def cutFront (most : Bool) (p : List Wild) (s : List Char) : List Char :=
  let lengths := List.range (s.length + 1)
  match (if most then lengths.reverse else lengths).find? fun n => fits p (s.take n) with
  | some n => s.drop n
  | none => s

/-- What is left of a text when a pattern is cut off at the end, or all of it. -/
def cutEnd (most : Bool) (p : List Wild) (s : List Char) : List Char :=
  let lengths := List.range (s.length + 1)
  match (if most then lengths else lengths.reverse).find? fun n => fits p (s.drop n) with
  | some n => s.take n
  | none => s

end PlanReuse.Script
