import PlanReuse.Script.Regex.Reader

/-!
# The rich notation

A notation of regular expressions with lazy and greedy counts, groups that are not remembered, looks ahead
and behind, names for groups and letters for many sets.
-/

namespace PlanReuse.Script

namespace Regex.Rich

/-- What is wrong with the text of an expression. -/
inductive Fault
  | openGroup
  | strayGroupEnd
  | openSet
  | nothingToRepeat
  | trailingBackslash
  | badReference
  | badClass
  | badRange
  | badBounds
  | tooLarge
  | strayLetter
  | strayGroupSign
deriving DecidableEq

def Fault.message : Fault → String
  | openGroup => "missing closing parenthesis"
  | strayGroupEnd => "unmatched closing parenthesis"
  | openSet => "missing terminating ] for character class"
  | nothingToRepeat => "quantifier does not follow a repeatable item"
  | trailingBackslash => "\\ at end of pattern"
  | badReference => "reference to non-existent subpattern"
  | badClass => "unknown POSIX class name"
  | badRange => "range out of order in character class"
  | badBounds => "numbers out of order in \x7b\x7d quantifier"
  | tooLarge => "number too big in \x7b\x7d quantifier"
  | strayLetter => "unrecognized character follows \\"
  | strayGroupSign => "unrecognized character after (? or (?-"

/-- The options that may change inside an expression. -/
structure Flags where
  fold : Option Bool
  byLines : Bool
  dotAll : Bool
  spaced : Bool

/-- What is left to read of an expression, the groups that have been opened, and their names. -/
structure Unread where
  text : List Char
  groups : Nat
  names : List (String × Nat)
  flags : Flags

abbrev Reading := StateT Unread (Except Fault)

def rest : Reading (List Char) := do return (← get).text

def setRest (s : List Char) : Reading Unit := modify fun u => { u with text := s }

def drop (n : Nat) : Reading Unit := modify fun u => { u with text := u.text.drop n }

/-! ### Letters behind a backslash -/

/-- The ranges of a letter that stands for a set; a capital letter stands for all others. -/
def classRanges? (c : Char) : Option (List Range) :=
  match c.toLower with
  | 'd' => some [.named "digit"]
  | 'w' => some [.named "alnum", .between '_' '_']
  | 's' => some [.named "space"]
  | 'h' => some [.named "blank", .between (Char.ofNat 0xA0) (Char.ofNat 0xA0)]
  | 'v' => some [.between '\n' '\r', .between (Char.ofNat 0x85) (Char.ofNat 0x85)]
  | _ => none

/-- All signs that are not in some ranges. -/
def others (ranges : List Range) : List Range :=
  ((List.range 256).map Char.ofNat).filterMap fun c =>
    if ranges.any (Range.holds c) then none else some (.between c c)

/-- The ranges of a property of signs. -/
def propertyRanges? (name : String) : Option (List Range) :=
  match name with
  | "L" | "L&" => some [.named "alpha"]
  | "Lu" => some [.named "upper"]
  | "Ll" => some [.named "lower"]
  | "N" | "Nd" => some [.named "digit"]
  | "P" => some [.between '!' '#', .between '%' '*', .between ',' '/', .between ':' ';', .between '?' '@',
      .between '[' ']', .between '_' '_', .between '\x7b' '\x7b', .between '\x7d' '\x7d']
  | "S" => some [.between '$' '$', .between '+' '+', .between '<' '>', .between '^' '^', .between '\x60' '\x60',
      .between '|' '|', .between '~' '~']
  | "Z" | "Zs" => some [.between ' ' ' ']
  | "Xan" => some [.named "alnum"]
  | "Xwd" => some [.named "alnum", .between '_' '_']
  | "Xsp" | "Xps" => some [.named "space"]
  | _ => none

/-- The sign that an escape writes, and the rest; the backslash is dropped. -/
def signOf? : List Char → Option (Char × List Char)
  | 'n' :: r => some ('\n', r)
  | 't' :: r => some ('\t', r)
  | 'r' :: r => some ('\r', r)
  | 'f' :: r => some ('\x0c', r)
  | 'a' :: r => some ('\x07', r)
  | 'e' :: r => some ('\x1b', r)
  | 'c' :: c :: r => some (Char.ofNat (c.toUpper.toNat ^^^ 64), r)
  | 'x' :: '\x7b' :: r =>
    let (n, count, rest) := scanDigits 16 0 r
    match count, rest with
    | _ + 1, '\x7d' :: rest => some (Char.ofNat (n % 256), rest)
    | _, _ => none
  | 'x' :: r =>
    let ds := (r.take 2).takeWhile (digitOf · < 16)
    some (Char.ofNat (scanDigits 16 0 ds).1, r.drop ds.length)
  | 'o' :: '\x7b' :: r =>
    let (n, count, rest) := scanDigits 8 0 r
    match count, rest with
    | _ + 1, '\x7d' :: rest => some (Char.ofNat (n % 256), rest)
    | _, _ => none
  | '0' :: r =>
    let ds := (r.take 2).takeWhile isOctal
    some (Char.ofNat (scanDigits 8 0 ds).1, r.drop ds.length)
  | c :: r => if c.isAlphanum then none else some (c, r)
  | [] => none

/-- The name of a property behind its letter. -/
def propertyName? : List Char → Option (Bool × String × List Char)
  | '\x7b' :: '^' :: r => named true r
  | '\x7b' :: r => named false r
  | c :: r => some (false, c.toString, r)
  | [] => none
where
  named (negated : Bool) (r : List Char) : Option (Bool × String × List Char) :=
    let name := r.takeWhile (· ≠ '\x7d')
    if name.length < r.length then some (negated, String.ofList name, r.drop (name.length + 1)) else none

/-! ### Sets -/

/-- Ranges that stand in a set, and the rest; none if a single sign comes next. -/
def setElement? (s : List Char) : Except Fault (Option (List Range × List Char)) :=
  let found (negated : Bool) (ranges : List Range) (r : List Char) :
      Except Fault (Option (List Range × List Char)) :=
    .ok (some (if negated then others ranges else ranges, r))
  match s with
  | [] => .error .openSet
  | '\\' :: c :: r =>
    match classRanges? c with
    | some ranges => found c.isUpper ranges r
    | none =>
      if c = 'p' ∨ c = 'P' then
        match propertyName? r with
        | some (negated, name, rest) =>
          match propertyRanges? name with
          | some ranges => found (negated != (c == 'P')) ranges rest
          | none => .error .badClass
        | none => .error .badClass
      else .ok none
  | '[' :: ':' :: r =>
    let (negated, body) := match r with
      | '^' :: r => (true, r)
      | r => (false, r)
    let name := String.ofList (body.takeWhile Char.isAlpha)
    match body.drop name.length with
    | ':' :: ']' :: rest =>
      if name = "word" then found negated [.named "alnum", .between '_' '_'] rest
      else if classNames.contains name then found negated [.named name] rest
      else .error .badClass
    | _ => .ok none
  | _ => .ok none

/-- A single sign of a set, and the rest. -/
def setSign : List Char → Except Fault (Char × List Char)
  | [] => .error .openSet
  | '\\' :: 'b' :: r => .ok ('\x08', r)
  | '\\' :: r =>
    match signOf? r, r with
    | some x, _ => .ok x
    | none, c :: r' =>
      if isOctal c then
        let ds := (c :: r').take 3 |>.takeWhile isOctal
        .ok (Char.ofNat ((scanDigits 8 0 ds).1 % 256), (c :: r').drop ds.length)
      else .error .strayLetter
    | none, [] => .error .trailingBackslash
  | c :: r => .ok (c, r)

/-- The ranges of a set up to its closing bracket. -/
def setRanges : Nat → Bool → List Char → Except Fault (List Range × List Char)
  | 0, _, _ => .error .openSet
  | _, false, ']' :: r => .ok ([], r)
  | fuel + 1, _, s => do
    match ← setElement? s with
    | some (ranges, r) =>
      let (more, r) ← setRanges fuel false r
      return (ranges ++ more, r)
    | none =>
      let (a, r) ← setSign s
      let isRange := match r with
        | '-' :: ']' :: _ => false
        | '-' :: '\\' :: c :: _ => (classRanges? c).isNone
        | '-' :: '[' :: ':' :: _ => false
        | '-' :: _ => true
        | _ => false
      if isRange then
        let (b, r) ← setSign (r.drop 1)
        if b < a then throw .badRange
        let (more, r) ← setRanges fuel false r
        return (.between a b :: more, r)
      else
        let (more, r) ← setRanges fuel false r
        return (.between a a :: more, r)

/-! ### Elements -/

/-- Bounds in braces, and the rest; braces with anything else are plain signs. -/
def bounds? (s : List Char) : Option (Nat × Option Nat × List Char) :=
  match scanDigits 10 0 s with
  | (_, 0, _) => none
  | (n, _, '\x7d' :: r) => some (n, some n, r)
  | (n, _, ',' :: r) =>
    match scanDigits 10 0 r with
    | (_, 0, '\x7d' :: r) => some (n, none, r)
    | (m, _ + 1, '\x7d' :: r) => some (n, some m, r)
    | _ => none
  | _ => none

/-- A count and how it is taken, behind what it repeats. -/
def readRepeats : Nat → Regex → Reading Regex
  | 0, r => return r
  | _ + 1, r => do
    let s ← rest
    let found : Option (Nat × Option Nat × List Char) := match s with
      | '*' :: s => some (0, none, s)
      | '+' :: s => some (1, none, s)
      | '?' :: s => some (0, some 1, s)
      | '\x7b' :: s => bounds? s
      | _ => none
    match found with
    | none => return r
    | some (least, most, s) =>
      if most.any (· < least) then throw .badBounds
      if 65535 < least || most.any (65535 < ·) then throw .tooLarge
      match s with
      | '?' :: s =>
        setRest s
        return .repeated r least most true
      | '+' :: s =>
        setRest s
        return .once (.repeated r least most false)
      | s =>
        setRest s
        return .repeated r least most false

/-- Blanks and remarks that do not count. -/
def skipSpaces : Nat → List Char → List Char
  | 0, s => s
  | fuel + 1, s =>
    match s with
    | '#' :: r => skipSpaces fuel ((r.dropWhile (· ≠ '\n')).drop 1)
    | c :: r => if isSpace c then skipSpaces fuel r else s
    | [] => []

/-- Flags that letters switch on or off. -/
def switch (on : Bool) (f : Flags) (c : Char) : Flags :=
  match c with
  | 'i' => { f with fold := some on }
  | 'm' => { f with byLines := on }
  | 's' => { f with dotAll := on }
  | 'x' => { f with spaced := on }
  | _ => f

/-- Marks the case of an element if it has been changed. -/
def withCase (f : Flags) (r : Regex) : Regex :=
  match f.fold with
  | some on => .cased on r
  | none => r

/-- A name up to its closing sign, and the rest. -/
def nameTo? (closing : Char) (s : List Char) : Option (String × List Char) :=
  let name := s.takeWhile (· ≠ closing)
  if name.length < s.length ∧ !name.isEmpty then some (String.ofList name, s.drop (name.length + 1)) else none

/-- A group that has been opened before, by a number, a distance or a name. -/
def reference (text : String) : Reading Regex := do
  let u ← get
  match integerOf? 10 text, u.names.lookup text with
  | some n, _ =>
    let n := if n < 0 then (u.groups : Int) + 1 + n else n
    if n ≤ 0 then throw .badReference
    return .again n.toNat
  | none, some n => return .again n
  | none, none => throw .badReference

/-- What a letter or sign behind a backslash stands for. -/
def readEscape : Reading Regex := do
  match ← rest with
  | [] => throw .trailingBackslash
  | c :: r =>
    let done (r : List Char) (e : Regex) : Reading Regex := do
      setRest r
      return e
    match classRanges? c with
    | some ranges => done r (.set c.isUpper ranges)
    | none =>
      match c with
      | 'b' => done r (.edge true)
      | 'B' => done r (.edge false)
      | 'A' | 'G' => done r .textStart
      | 'z' => done r .textFinish
      | 'Z' => done r .finish
      | 'K' => done r .keep
      | 'N' => done r (.set true [.between '\n' '\n'])
      | 'X' | 'C' => done r .any
      | 'R' => done r (.once (.or (.andThen (.char '\r') (.char '\n'))
          (.set false [.between '\n' '\r', .between (Char.ofNat 0x85) (Char.ofNat 0x85)])))
      | 'Q' =>
        let rec upTo : List Char → List Char × List Char
          | '\\' :: 'E' :: r => ([], r)
          | c :: r =>
            let (t, rest) := upTo r
            (c :: t, rest)
          | [] => ([], [])
        let (t, r) := upTo r
        done r (t.foldr (fun c e => .andThen (.char c) e) .empty)
      | 'E' => done r .empty
      | 'p' | 'P' =>
        match propertyName? r with
        | some (negated, name, r) =>
          match propertyRanges? name with
          | some ranges => done r (.set (negated != (c == 'P')) ranges)
          | none => throw .badClass
        | none => throw .badClass
      | 'g' =>
        match r with
        | '\x7b' :: r =>
          match nameTo? '\x7d' r with
          | some (t, r) =>
            setRest r
            reference t
          | none => throw .badReference
        | _ =>
          let ds := r.takeWhile fun c => c.isDigit || c == '-'
          setRest (r.drop ds.length)
          reference (String.ofList ds)
      | 'k' =>
        let named := match r with
          | '<' :: r => nameTo? '>' r
          | '\x7b' :: r => nameTo? '\x7d' r
          | '\'' :: r => nameTo? '\'' r
          | _ => none
        match named with
        | some (t, r) =>
          setRest r
          reference t
        | none => throw .badReference
      | c =>
        if c.isDigit ∧ c ≠ '0' then
          let ds := (c :: r).takeWhile Char.isDigit
          let n := (scanDigits 10 0 ds).1
          if n < 10 ∨ n ≤ (← get).groups then done ((c :: r).drop ds.length) (.again n)
          else
            let os := ((c :: r).take 3).takeWhile isOctal
            if os.isEmpty then done r (.char c)
            else done ((c :: r).drop os.length) (.char (Char.ofNat ((scanDigits 8 0 os).1 % 256)))
        else
          match signOf? (c :: r) with
          | some (x, r) => done r (.char x)
          | none => throw .strayLetter

mutual

/-- Alternatives. -/
def readOr : Nat → Reading Regex
  | 0 => throw .tooLarge
  | fuel + 1 => do
    let r ← readSequence fuel
    match ← rest with
    | '|' :: _ =>
      drop 1
      return .or r (← readOr fuel)
    | _ => return r

/-- Elements one after the other, up to a bar, a closing parenthesis or the end. -/
def readSequence : Nat → Reading Regex
  | 0 => throw .tooLarge
  | fuel + 1 => do
    if (← get).flags.spaced then
      let s ← rest
      setRest (skipSpaces s.length s)
    match ← rest with
    | [] | '|' :: _ | ')' :: _ => return .empty
    | _ =>
      let (r, repeats) ← readElement fuel
      if (← get).flags.spaced then
        let s ← rest
        setRest (skipSpaces s.length s)
      let r ← if repeats then readRepeats (fuel + 1) r else pure r
      return .andThen r (← readSequence fuel)

/-- An element, and whether it may be repeated. -/
def readElement : Nat → Reading (Regex × Bool)
  | 0 => throw .tooLarge
  | fuel + 1 => do
    let f := (← get).flags
    let simple (r : Regex) (repeats : Bool) : Reading (Regex × Bool) := do
      drop 1
      return (r, repeats)
    match ← rest with
    | [] => return (.empty, false)
    | '(' :: r =>
      setRest r
      readGroup fuel
    | '[' :: r =>
      let (negated, body) := match r with
        | '^' :: b => (true, b)
        | _ => (false, r)
      let (ranges, r) ← setRanges (body.length + 1) true body
      setRest r
      return (withCase f (.set negated ranges), true)
    | '\\' :: r =>
      setRest r
      return (withCase f (← readEscape), true)
    | '^' :: _ => simple (if f.byLines then .lineStart else .start) false
    | '$' :: _ => simple (if f.byLines then .lineFinish else .finish) false
    | '.' :: _ => simple (if f.dotAll then .any else .set true [.between '\n' '\n']) true
    | '*' :: _ | '+' :: _ | '?' :: _ => throw .nothingToRepeat
    | '\x7b' :: r => if (bounds? r).isSome then throw .nothingToRepeat else simple (.char '\x7b') true
    | c :: _ => simple (withCase f (.char c)) true

/-- A group behind its opening parenthesis. -/
def readGroup : Nat → Reading (Regex × Bool)
  | 0 => throw .tooLarge
  | fuel + 1 => do
    let flags := (← get).flags
    let closed (build : Regex → Regex) : Reading (Regex × Bool) := do
      let r ← readOr fuel
      match ← rest with
      | ')' :: s =>
        modify fun u => { u with text := s, flags }
        return (build r, true)
      | _ => throw .openGroup
    let remembered (name : Option String) (s : List Char) : Reading (Regex × Bool) := do
      let number := (← get).groups + 1
      modify fun u => { u with
        text := s
        groups := number
        names := (name.map fun n => (n, number)).toList ++ u.names }
      closed (.group number)
    let named (closing : Char) (s : List Char) : Reading (Regex × Bool) := do
      match nameTo? closing s with
      | some (name, s) => remembered (some name) s
      | none => throw .strayGroupSign
    match ← rest with
    | '?' :: s =>
      match s with
      | ':' :: s =>
        setRest s
        closed id
      | '>' :: s =>
        setRest s
        closed .once
      | '=' :: s =>
        setRest s
        closed (.look false false)
      | '!' :: s =>
        setRest s
        closed (.look false true)
      | '<' :: '=' :: s =>
        setRest s
        closed (.look true false)
      | '<' :: '!' :: s =>
        setRest s
        closed (.look true true)
      | '<' :: s | 'P' :: '<' :: s => named '>' s
      | '\'' :: s => named '\'' s
      | 'P' :: '=' :: s =>
        match nameTo? ')' s with
        | some (name, s) =>
          setRest s
          return (← reference name, true)
        | none => throw .badReference
      | '#' :: s =>
        setRest ((s.dropWhile (· ≠ ')')).drop 1)
        return (.empty, false)
      | s =>
        let letters := s.takeWhile fun c => "imsxnU-^".contains c
        let on := letters.takeWhile (· ≠ '-')
        let off := letters.drop (on.length + 1)
        let next := off.foldl (switch false) (on.foldl (switch true) flags)
        match s.drop letters.length with
        | ')' :: s =>
          modify fun u => { u with text := s, flags := next }
          return (.empty, false)
        | ':' :: s =>
          modify fun u => { u with text := s, flags := next }
          closed id
        | [] => throw .openGroup
        | _ => throw .strayGroupSign
    | s => remembered none s

end

/-- The greatest group that an expression asks for. -/
def asked : Regex → Nat
  | .again n => n
  | .group _ r | .repeated r _ _ _ | .once r | .look _ _ r | .cased _ r => asked r
  | .andThen r s | .or r s => max (asked r) (asked s)
  | _ => 0

/-- The expression that a text writes. -/
def read (s : String) : Except Fault Regex :=
  match (readOr (8 * s.length + 16)).run ⟨s.toList, 0, [], ⟨none, false, false, false⟩⟩ with
  | .ok (r, ⟨[], groups, _, _⟩) => if groups < asked r then .error .badReference else .ok r
  | .ok _ => .error .strayGroupEnd
  | .error fault => .error fault

end Regex.Rich

end PlanReuse.Script
