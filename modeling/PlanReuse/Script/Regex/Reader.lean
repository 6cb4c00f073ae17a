import PlanReuse.Script.Regex

/-!
# Notations of regular expressions

The basic and the extended notation, and that of scripts for tables. They differ in whether the signs for
groups, bars and counts are special by themselves or behind a backslash.
-/

namespace PlanReuse.Script

namespace Regex

/-- What is wrong with the text of an expression. -/
inductive Fault
  | badPattern
  | openSet
  | openGroup
  | strayGroupEnd
  | openBounds
  | badBounds
  | tooLarge
  | nothingToRepeat
  | trailingBackslash
  | badReference
  | badClass
  | badRange
deriving DecidableEq

def Fault.message : Fault → String
  | badPattern => "Invalid regular expression"
  | openSet => "Unmatched [, [^, [:, [., or [="
  | openGroup => "Unmatched ( or \\("
  | strayGroupEnd => "Unmatched ) or \\)"
  | openBounds => "Unmatched \\\x7b"
  | badBounds => "Invalid content of \\\x7b\\\x7d"
  | tooLarge => "Regular expression too big"
  | nothingToRepeat => "Invalid preceding regular expression"
  | trailingBackslash => "Trailing backslash"
  | badReference => "Invalid back reference"
  | badClass => "Invalid character class name"
  | badRange => "Invalid range end"

/-- What a count without something to repeat is. -/
inductive Lone
  /-- A sign like others. -/
  | plain
  /-- It repeats nothing. -/
  | nothing
  | wrong
deriving DecidableEq

structure Notation where
  /-- Whether signs are special by themselves. -/
  extended : Bool
  /-- Whether braces hold counts, and whether a brace that holds none stands for itself. -/
  counts : Bool
  looseBraces : Bool
  lone : Lone
  /-- Whether what is repeated may be repeated again without parentheses. -/
  twice : Bool
  /-- Whether backslashes count in sets, and write control signs. -/
  escapes : Bool

namespace Notation

def basic : Notation := ⟨false, true, false, .plain, true, false⟩

/-- The basic notation in which a repetition is not repeated. -/
def strict : Notation := ⟨false, true, false, .plain, false, false⟩

/-- The extended notation. -/
def modern : Notation := ⟨true, true, false, .wrong, true, false⟩

/-- The extended notation in which more is allowed. -/
def loose : Notation := ⟨true, true, true, .nothing, true, false⟩

/-- The notation of scripts for tables. -/
def table : Notation := ⟨true, false, true, .plain, true, true⟩

end Notation

/-- What is left to read of an expression, how many groups have been opened, and which are closed. -/
structure Unread where
  text : List Char
  groups : Nat
  closed : List Nat

abbrev Reading := StateT Unread (Except Fault)

def rest : Reading (List Char) := do return (← get).text

def drop (n : Nat) : Reading Unit := modify fun s => { s with text := s.text.drop n }

/-! ### Sets -/

/-- The control sign that a letter behind a backslash writes. -/
def controlSign? (c : Char) : Option Char :=
  [('n', '\n'), ('t', '\t'), ('r', '\r'), ('f', '\x0c'), ('v', '\x0b'), ('a', '\x07'), ('b', '\x08')].lookup c

/-- The sign that is written behind a backslash, and the rest. -/
def escapedSign : List Char → Char × List Char
  | [] => ('\\', [])
  | c :: r =>
    if isOctal c then
      let ds := (c :: r).take 3 |>.takeWhile isOctal
      (Char.ofNat ((ds.foldl (fun n d => n * 8 + digitOf d) 0) % 256), (c :: r).drop ds.length)
    else ((controlSign? c).getD c, r)

/-- A sign of a set, and the rest. -/
def setSign (escapes : Bool) : List Char → Option (Char × List Char)
  | [] => none
  | '\\' :: r => if escapes ∧ !r.isEmpty then some (escapedSign r) else some ('\\', r)
  | '[' :: '.' :: c :: '.' :: ']' :: r => some (c, r)
  | '[' :: '=' :: c :: '=' :: ']' :: r => some (c, r)
  | c :: r => some (c, r)

def classNames : List String :=
  ["alpha", "digit", "alnum", "upper", "lower", "space", "blank", "punct", "print", "graph", "cntrl", "xdigit"]

/-- The ranges of a set up to its closing bracket, which stands for itself at the start. -/
def setRanges (escapes : Bool) : Nat → Bool → List Char → Except Fault (List Range × List Char)
  | 0, _, _ => .error .openSet
  | fuel + 1, atStart, s =>
    let add (r : Range) (rest : List Char) : Except Fault (List Range × List Char) :=
      (setRanges escapes fuel false rest).map fun (rs, rest) => (r :: rs, rest)
    match s with
    | [] => .error .openSet
    | ']' :: r => if atStart then single ']' r add else .ok ([], r)
    | '[' :: ':' :: r =>
      let name := r.takeWhile Char.isAlpha
      match r.drop name.length with
      | ':' :: ']' :: rest =>
        if classNames.contains (String.ofList name) then add (.named (String.ofList name)) rest else .error .badClass
      | _ => single '[' (':' :: r) add
    | s =>
      match setSign escapes s with
      | some (a, rest) => single a rest add
      | none => .error .openSet
where
  /-- A sign, or a range that begins with it. -/
  single (a : Char) (rest : List Char) (add : Range → List Char → Except Fault (List Range × List Char)) :
      Except Fault (List Range × List Char) :=
    match rest with
    | '-' :: ']' :: _ => add (.between a a) rest
    | '-' :: r =>
      match setSign escapes r with
      | some (b, rest) => if a ≤ b then add (.between a b) rest else .error .badRange
      | none => .error .openSet
    | _ => add (.between a a) rest

/-- A set in brackets, after the opening one. -/
def readSetIn (n : Notation) : Reading Regex := do
  let s ← rest
  let (negated, body) := match s with
    | '^' :: b => (true, b)
    | _ => (false, s)
  if body.isEmpty then throw .badPattern
  let (ranges, after) ← setRanges n.escapes (body.length + 1) true body
  modify fun u => { u with text := after }
  return .set negated ranges

/-! ### Counts -/

/-- The largest count. -/
def largestCount : Nat := 32767

/-- The bounds of a repetition up to the closing sign, and the rest. -/
def readBounds (closing s : List Char) : Except Fault (Nat × Option Nat × List Char) := do
  let (least, digits, rest) := scanDigits 10 0 s
  let (most, rest, isRange) : Option Nat × List Char × Bool :=
    match rest with
    | ',' :: rest =>
      match scanDigits 10 0 rest with
      | (_, 0, rest) => (none, rest, true)
      | (most, _, rest) => (some most, rest, true)
    | _ => (some least, rest, false)
  if digits = 0 && !isRange then throw (if rest.isEmpty then .openBounds else .badBounds)
  if !closing.isPrefixOf rest then
    throw (if rest.isEmpty || rest == ['\\'] then .openBounds else .badBounds)
  if most.any (· < least) then throw .badBounds
  if largestCount < least || most.any (largestCount < ·) then throw .tooLarge
  return (least, most, rest.drop closing.length)

/-- Whether a brace holds something like a count. -/
def isCount (s : List Char) : Bool :=
  (s.dropWhile fun c => c.isDigit || c == ',').head? == some '\x7d' && s.head?.any Char.isDigit

/-- Whether a star or bounds are next. -/
def isRepeating (n : Notation) (s : List Char) : Bool :=
  s.head? == some '*' || (if n.extended then n.counts && s.head? == some '\x7b' else ['\\', '\x7b'].isPrefixOf s)

/-- A sign that a repetition is made of, behind what it repeats. -/
def readRepeats (n : Notation) : Nat → Regex → Reading Regex
  | 0, r => return r
  | fuel + 1, r => do
    let bounded (s closing : List Char) : Reading Regex := do
      match readBounds closing s with
      | .ok (least, most, after) =>
        modify fun u => { u with text := after }
        if !n.twice && isRepeating n after then throw .nothingToRepeat
        readRepeats n fuel (.repeated r least most false)
      | .error fault =>
        if n.looseBraces && (fault == .openBounds || fault == .badBounds) && !isCount s then return r
        else throw fault
    let simple (count least : Nat) (most : Option Nat) : Reading Regex := do
      drop count
      if !n.twice && isRepeating n (← rest) then throw .nothingToRepeat
      readRepeats n fuel (.repeated r least most false)
    match ← rest with
    | '*' :: _ => simple 1 0 none
    | '+' :: _ => if n.extended then simple 1 1 none else return r
    | '?' :: _ => if n.extended then simple 1 0 (some 1) else return r
    | '\x7b' :: s => if n.extended && n.counts then bounded s ['\x7d'] else return r
    | '\\' :: '+' :: _ => if n.extended then return r else simple 2 1 none
    | '\\' :: '?' :: _ => if n.extended then return r else simple 2 0 (some 1)
    | '\\' :: '\x7b' :: s => if n.extended then return r else bounded s ['\\', '\x7d']
    | _ => return r

/-- The set of a letter behind a backslash. -/
def classOf? (c : Char) : Option Regex :=
  match c with
  | 'w' => some (.set false [.named "alnum", .between '_' '_'])
  | 'W' => some (.set false [.between '\x00' '/', .between ':' '@', .between '[' '^', .between '\x60' '\x60',
      .between '\x7b' '\xff'])
  | 's' => some (.set false [.named "space"])
  | 'S' => some (.set true [.named "space"])
  | _ => none

/-- The place that a sign behind a backslash stands for. -/
def anchorOf? (c : Char) : Option Regex :=
  match c with
  | 'b' => some (.edge true)
  | 'B' => some (.edge false)
  | '<' => some .wordStart
  | '>' => some .wordEnd
  | '\x60' => some .textStart
  | '\'' => some .textFinish
  | _ => none

/-! ### Expressions -/

mutual

/-- Alternatives. -/
def readOr (n : Notation) : Nat → Reading Regex
  | 0 => throw .tooLarge
  | fuel + 1 => do
    let r ← readSequence n fuel true
    match ← rest with
    | '|' :: _ =>
      if n.extended then
        drop 1
        return .or r (← readOr n fuel)
      else return r
    | '\\' :: '|' :: _ =>
      if n.extended then return r
      else
        drop 2
        return .or r (← readOr n fuel)
    | _ => return r

/-- Elements one after the other, up to a bar, a closing parenthesis or the end. -/
def readSequence (n : Notation) : Nat → Bool → Reading Regex
  | 0, _ => throw .tooLarge
  | fuel + 1, atStart => do
    let ends := match ← rest with
      | [] => true
      | '|' :: _ => n.extended
      | ')' :: _ => n.extended
      | '\\' :: ')' :: _ | '\\' :: '|' :: _ => !n.extended
      | _ => false
    if ends then return .empty
    let (r, isAnchor) ← readElement n fuel atStart
    let r ← if isAnchor then pure r else readRepeats n (fuel + 1) r
    return .andThen r (← readSequence n fuel (isAnchor && atStart))

/-- An element; true if it is a place that cannot be repeated. -/
def readElement (n : Notation) : Nat → Bool → Reading (Regex × Bool)
  | 0, _ => throw .tooLarge
  | fuel + 1, atStart => do
    let grouped (opening : Nat) (closing : List Char) : Reading (Regex × Bool) := do
      drop opening
      let number := (← get).groups + 1
      modify fun u => { u with groups := number }
      let r ← readOr n fuel
      if !closing.isPrefixOf (← rest) then throw .openGroup
      drop closing.length
      modify fun u => { u with closed := number :: u.closed }
      return (.group number r, false)
    let single (count : Nat) (r : Regex) : Reading (Regex × Bool) := do
      drop count
      return (r, false)
    let anchor (count : Nat) (r : Regex) : Reading (Regex × Bool) := do
      drop count
      return (r, true)
    match ← rest with
    | '\\' :: '(' :: _ => if n.extended then single 2 (.char '(') else grouped 2 ['\\', ')']
    | '(' :: _ => if n.extended then grouped 1 [')'] else single 1 (.char '(')
    | ['\\'] => if n.escapes then single 1 (.char '\\') else throw .trailingBackslash
    | '\\' :: c :: r =>
      if n.escapes then
        let (sign, after) := escapedSign (c :: r)
        modify fun u => { u with text := after }
        return (.char sign, false)
      else if c.isDigit ∧ c ≠ '0' then
        if !(← get).closed.contains (digitOf c) then throw .badReference
        single 2 (.again (digitOf c))
      else if c = '\x7b' ∧ !n.extended ∧ !n.twice then throw .nothingToRepeat
      else
        match anchorOf? c with
        | some r => anchor 2 r
        | none => single 2 ((classOf? c).getD (.char c))
    | '.' :: _ => single 1 .any
    | '[' :: _ =>
      drop 1
      return (← readSetIn n, false)
    | '^' :: _ => if n.extended || atStart then anchor 1 .start else single 1 (.char '^')
    | '$' :: r =>
      if n.extended || r.isEmpty || ['\\', ')'].isPrefixOf r || ['\\', '|'].isPrefixOf r then anchor 1 .finish
      else single 1 (.char '$')
    | c :: _ =>
      if n.extended && (c == '*' || c == '+' || c == '?' || (c == '\x7b' && n.counts)) then
        match n.lone with
        | .plain => single 1 (.char c)
        | .nothing => single 1 .empty
        | .wrong => throw .nothingToRepeat
      else single 1 (.char c)
    | [] => return (.empty, true)

end

/-- The expression that a text writes. -/
def read (n : Notation) (s : String) : Except Fault Regex :=
  match (readOr n (8 * s.length + 16)).run ⟨s.toList, 0, []⟩ with
  | .ok (r, ⟨[], _, _⟩) => .ok r
  | .ok _ => .error .strayGroupEnd
  | .error fault => .error fault

/-- The expression that a text writes in the basic or the extended notation, if it is right. -/
def ofText? (extended : Bool) (s : String) : Option Regex :=
  (read (if extended then .modern else .basic) s).toOption

end Regex

end PlanReuse.Script
