import PlanReuse.Script.Edit.Syntax
import PlanReuse.Script.Regex.Reader

/-!
# Reading edits

The steps of an editor are written on sheets: the values of options and the texts of files. A text that a
step adds may go on on the next sheet, and braces may be closed there; nothing else goes over the end of one.
-/

namespace PlanReuse.Script.Edit

/-- A sheet: a file, or one of the values of an option by its number. -/
structure Sheet where
  file : Option String
  number : Nat
  extended : Bool
  text : List Char

/-- What is left to read of a sheet, where braces have been opened, and whether the text of the last step
goes on on the next sheet. -/
structure Unread where
  sheet : Sheet
  text : List Char
  opened : List String
  waits : Bool

/-- What is wrong with edits, and the status with which that ends the editor. -/
structure Fault where
  text : String
  status : Nat

abbrev Reading := ExceptT Fault (StateM Unread)

/-- Where a reader is. -/
def Unread.place (u : Unread) (count : Nat) : String :=
  match u.sheet.file with
  | none => "-e expression #" ++ toString u.sheet.number ++ ", char " ++ toString count
  | some f =>
    let passed := u.sheet.text.take (u.sheet.text.length - u.text.length)
    "file " ++ f ++ " line " ++ toString (passed.count '\n' + 1)

def failWith {α : Type} (text : String) : Reading α := do
  let u ← get
  throw ⟨u.place (u.sheet.text.length - u.text.length) ++ ": " ++ text, 1⟩

/-! ### Signs -/

def rest : Reading (List Char) := do return (← get).text

def setRest (s : List Char) : Reading Unit := modify fun u => { u with text := s }

/-- The next sign, which is passed. -/
def next? : Reading (Option Char) := do
  match ← rest with
  | [] => return none
  | c :: r =>
    setRest r
    return some c

def isBlank (c : Char) : Bool := c == ' ' || c == '\t'

def skip (p : Char → Bool) : Reading Unit := modify fun u => { u with text := u.text.dropWhile p }

/-- Fails behind the next sign. -/
def failBehind {α : Type} (text : String) : Reading α := do
  discard next?
  failWith text

def readNumber? : Reading (Option Nat) := do
  match scanDigits 10 0 (← rest) with
  | (_, 0, _) => return none
  | (n, _, r) =>
    setRest r
    return some n

/-- A number with a base and at most some digits, as a sign. -/
def numberedSign (base most : Nat) (s : List Char) : Option (Char × List Char) :=
  match scanDigits base 0 (s.take most) with
  | (_, 0, _) => none
  | (n, count, _) => some (Char.ofNat (n % 256), s.drop count)

/-- The sign that is written behind a backslash by a letter or a number, and the rest. -/
def writtenSign? : List Char → Option (Char × List Char)
  | 'a' :: r => some ('\x07', r)
  | 'f' :: r => some ('\x0c', r)
  | 'n' :: r => some ('\n', r)
  | 'r' :: r => some ('\r', r)
  | 't' :: r => some ('\t', r)
  | 'v' :: r => some ('\x0b', r)
  | 'c' :: '\\' :: '\\' :: r => some ('\x1c', r)
  | 'c' :: c :: r => some (Char.ofNat (c.toUpper.toNat ^^^ 0x40), r)
  | 'd' :: r => numberedSign 10 3 r
  | 'o' :: r => numberedSign 8 3 r
  | 'x' :: r => numberedSign 16 2 r
  | _ => none

/-- The text of an expression in which written signs stand for themselves. -/
def expressionText : Nat → List Char → List Char
  | 0, s => s
  | _, [] => []
  | fuel + 1, '\\' :: r =>
    match writtenSign? r, r with
    | some (c, r), _ => c :: expressionText fuel r
    | none, c :: r => '\\' :: c :: expressionText fuel r
    | none, [] => ['\\']
  | fuel + 1, c :: r => c :: expressionText fuel r

/-- The signs of a text in which a backslash makes the sign behind it plain. -/
def plainSigns : Nat → List Char → List Char
  | 0, s => s
  | _, [] => []
  | fuel + 1, '\\' :: r =>
    match writtenSign? r, r with
    | some (c, r), _ => c :: plainSigns fuel r
    | none, c :: r => c :: plainSigns fuel r
    | none, [] => ['\\']
  | fuel + 1, c :: r => c :: plainSigns fuel r

/-! ### Parts between delimiters -/

/-- Where in a part a reader is. -/
inductive PartPlace
  | outside
  /-- At the start of a set, where a bracket stands for itself. -/
  | setStart
  | inSet
  /-- In a class of a set that ends in a sign and a bracket. -/
  | inClass (c : Char)

/-- The text up to a delimiter, and the rest behind it. A backslash in front of the delimiter is dropped, and
in an expression a delimiter in a set does not count. A line feed must have a backslash in front of it. -/
def partUpTo (delimiter : Char) (isExpression : Bool) : Nat → PartPlace → List Char →
    Option (List Char × List Char) × List Char
  | 0, _, s => (none, s)
  | fuel + 1, place, s =>
    let add (front : List Char) (place : PartPlace) (rest : List Char) :
        Option (List Char × List Char) × List Char :=
      match partUpTo delimiter isExpression fuel place rest with
      | (some (text, rest), s) => (some (front ++ text, rest), s)
      | (none, s) => (none, s)
    match place, s with
    | _, [] => (none, [])
    | _, '\n' :: r => (none, '\n' :: r)
    | .outside, c :: r =>
      if c = delimiter then (some ([], r), r)
      else if c = '\\' then
        match r with
        | [] => (none, [])
        | d :: r =>
          if d = 'n' ∧ isExpression then add ['\n'] .outside r
          else if d = '\n' then add ['\n'] .outside r
          else if d = delimiter ∧ (isExpression || d ≠ '&') then add [d] .outside r
          else add ['\\', d] .outside r
      else if c = '[' ∧ isExpression then
        match r with
        | '^' :: r => add ['[', '^'] .setStart r
        | _ => add ['['] .setStart r
      else add [c] .outside r
    | .setStart, ']' :: r => add [']'] .inSet r
    | .setStart, s => partUpTo delimiter isExpression fuel .inSet s
    | .inSet, ']' :: r => add [']'] .outside r
    | .inSet, '\\' :: 'n' :: r => add ['\n'] .inSet r
    | .inSet, '[' :: c :: r =>
      if c = ':' ∨ c = '.' ∨ c = '=' then add ['[', c] (.inClass c) r else add ['['] .inSet (c :: r)
    | .inSet, c :: r => add [c] .inSet r
    | .inClass e, c :: r =>
      match c == e, r with
      | true, ']' :: r => add [c, ']'] .inSet r
      | _, _ => add [c] (.inClass e) r

/-- A part of a step; none if it has no end. -/
def readPart? (delimiter : Char) (isExpression : Bool) : Reading (Option (List Char)) := do
  let s ← rest
  match partUpTo delimiter isExpression (2 * s.length + 2) .outside s with
  | (some (text, rest), _) =>
    setRest rest
    return some text
  | (none, left) =>
    setRest left
    return none

/-- What an expression looks for; an empty one looks for what was looked for last. -/
def targetOf (text : List Char) (fold byLines : Bool) : Reading (Option Target) := do
  if text.isEmpty then
    if fold || byLines then failWith "cannot specify modifiers on empty regexp"
    return none
  let style := if (← get).sheet.extended then Regex.Notation.modern else .strict
  match Regex.read style (String.ofList (expressionText (text.length + 1) text)) with
  | .ok r => return some ⟨if byLines then r.byLines else r, fold⟩
  | .error fault => failWith fault.message

/-! ### Addresses -/

/-- The letters behind an expression: whether letters of both cases are the same, and whether it looks at
each line. -/
def readFlags : Nat → Bool → Bool → Reading (Bool × Bool)
  | 0, fold, byLines => return (fold, byLines)
  | fuel + 1, fold, byLines => do
    skip isBlank
    match ← rest with
    | 'I' :: r =>
      setRest r
      readFlags fuel true byLines
    | 'M' :: r =>
      setRest r
      readFlags fuel fold true
    | _ => return (fold, byLines)

def readAddress? : Reading (Option Address) := do
  let found (delimiter : Char) : Reading (Option Address) := do
    match ← readPart? delimiter true with
    | none => failWith "unterminated address regex"
    | some text =>
      let (fold, byLines) ← readFlags ((← rest).length + 1) false false
      return some (.found (← targetOf text fold byLines))
  match ← rest with
  | '$' :: r =>
    setRest r
    return some .last
  | '/' :: r =>
    setRest r
    found '/'
  | '\\' :: r =>
    setRest r
    match ← next? with
    | some c => found c
    | none => failWith "unterminated address regex"
  | '+' :: r =>
    setRest (r.dropWhile isBlank)
    return some (.more ((← readNumber?).getD 0))
  | '~' :: r =>
    setRest (r.dropWhile isBlank)
    return some (.multiple ((← readNumber?).getD 0))
  | _ =>
    match ← readNumber? with
    | none => return none
    | some n =>
      let after := (← rest).dropWhile isBlank
      match after with
      | '~' :: r =>
        setRest (r.dropWhile isBlank)
        let step := (← readNumber?).getD 0
        return some (if step = 0 then .line n else .every n step)
      | _ => return some (.line n)

/-! ### What is put in place of a match -/

/-- Pieces in the making: how letters are changed from here on, and for the next letter, and the text so far
in reverse. -/
def piecesFrom : Nat → Option LetterCase → Option LetterCase → List Char → List Char → List Piece
  | 0, _, _, _, _ => []
  | fuel + 1, all, first, text, s =>
    let ended (group : Option Nat) : Piece := ⟨all, first, text.reverse, group⟩
    let add (c : Char) (r : List Char) : List Piece := piecesFrom fuel all first (c :: text) r
    match s with
    | [] => [ended none]
    | '&' :: r => ended (some 0) :: piecesFrom fuel all none [] r
    | '\\' :: r =>
      match writtenSign? r, r with
      | some (c, r), _ => add c r
      | none, [] => add '\\' []
      | none, c :: r =>
        match c with
        | 'U' => ended none :: piecesFrom fuel (some .large) none [] r
        | 'L' => ended none :: piecesFrom fuel (some .small) none [] r
        | 'E' => ended none :: piecesFrom fuel none none [] r
        | 'u' => ended none :: piecesFrom fuel all (some .large) [] r
        | 'l' => ended none :: piecesFrom fuel all (some .small) [] r
        | c => if c.isDigit then ended (some (digitOf c)) :: piecesFrom fuel all none [] r else add c r
    | c :: r => add c r

/-- The pieces of what is put in place of a match. -/
def piecesOf (s : List Char) : List Piece := piecesFrom (s.length + 1) none none [] s

/-! ### Steps -/

/-- Reads the end of a step. -/
def endStep : Reading Unit := do
  skip isBlank
  match ← rest with
  | [] => return ()
  | c :: r =>
    if c = '\n' ∨ c = ';' then setRest r
    else if c ≠ '\x7d' ∧ c ≠ '#' then failBehind "extra characters after command"

/-- A name up to a blank, a semicolon or a closing brace. -/
def readLabel : Reading String := do
  skip isBlank
  let name := (← rest).takeWhile fun c => !isSpace c && c ≠ ';' && c ≠ '\x7d'
  modify fun u => { u with text := u.text.drop name.length }
  skip isBlank
  match ← rest with
  | ';' :: r | '\n' :: r => setRest r
  | _ => pure ()
  return String.ofList name

/-- The name of a file, up to the end of the line. -/
def readFileName : Reading String := do
  skip isBlank
  let name := (← rest).takeWhile (· ≠ '\n')
  modify fun u => { u with text := u.text.drop name.length }
  if name.isEmpty then failWith "missing filename in r/R/w/W commands"
  discard next?
  return String.ofList name

/-- The lines of a text that is added, up to a line feed without a backslash in front of it, what is left, and
whether the text goes on on the next sheet. -/
def addedLines : Nat → List Char → List Char × List Char × Bool
  | 0, _ => ([], [], false)
  | fuel + 1, s =>
    let add (c : Char) (r : List Char) : List Char × List Char × Bool :=
      let (text, rest, waits) := addedLines fuel r
      (c :: text, rest, waits)
    match s with
    | [] => (['\n'], [], false)
    | '\n' :: r => (['\n'], r, false)
    | ['\\'] => (['\n'], [], true)
    | '\\' :: r =>
      match writtenSign? r, r with
      | some (c, r), _ => add c r
      | none, c :: r => add c r
      | none, [] => (['\n'], [], true)
    | c :: r => add c r

/-- The text of a step that adds lines. It begins behind the blanks, or behind a backslash with or without a
line feed. -/
def readAdded : Reading (List Char) := do
  let whole (s : List Char) : Reading (List Char) := do
    let (text, left, waits) := addedLines (s.length + 1) s
    modify fun u => { u with text := left, waits }
    return text
  match ← rest with
  | ['\\'] =>
    modify fun u => { u with text := [], waits := true }
    return []
  | '\\' :: '\n' :: r => if r.isEmpty then whole ['\n'] else whole r
  | '\\' :: r => whole r
  | s => whole s

/-- What follows the parts of a substitution. -/
structure Options where
  which : Option Nat
  all : Bool
  fold : Bool
  byLines : Bool
  runs : Bool
  before : Bool
  after : Bool
  file : Option String

def readOptions : Nat → Options → Reading Options
  | 0, o => return o
  | fuel + 1, o => do
    match ← rest with
    | [] => return o
    | c :: r =>
      if c = '\x7d' ∨ c = '#' then return o
      setRest r
      match c with
      | '\n' | ';' => return o
      | ' ' | '\t' => readOptions fuel o
      | 'i' | 'I' => readOptions fuel { o with fold := true }
      | 'm' | 'M' => readOptions fuel { o with byLines := true }
      | 'e' => readOptions fuel { o with runs := true }
      | 'p' =>
        if o.before || o.after then failWith "multiple \x60p' options to \x60s' command"
        readOptions fuel (if o.runs then { o with after := true } else { o with before := true })
      | 'g' =>
        if o.all then failWith "multiple \x60g' options to \x60s' command"
        readOptions fuel { o with all := true }
      | 'w' => return { o with file := some (← readFileName) }
      | c =>
        if !c.isDigit then failWith "unknown option to \x60s'"
        if o.which.isSome then failWith "multiple number options to \x60s' command"
        setRest (c :: r)
        match ← readNumber? with
        | some 0 | none => failWith "number option to \x60s' command may not be zero"
        | some n => readOptions fuel { o with which := some n }

def readSubstitution : Reading Action := do
  let unended {α : Type} : Reading α := failWith "unterminated \x60s' command"
  match ← next? with
  | none => unended
  | some delimiter =>
    match ← readPart? delimiter true with
    | none => unended
    | some expression =>
      match ← readPart? delimiter false with
      | none => unended
      | some replacement =>
        let pieces := piecesOf replacement
        let o ← readOptions ((← rest).length + 1) ⟨none, false, false, false, false, false, false, none⟩
        let target ← targetOf expression o.fold o.byLines
        let most := (pieces.filterMap Piece.group).foldl max 0
        if target.any fun t => t.regex.groupCount < most then
          failWith ("invalid reference \\" ++ toString most ++ " on \x60s' command's RHS")
        -- without a command in between there is only one time to print
        return .substitute ⟨target, pieces, o.which.getD 1, o.all, o.runs, o.before && o.runs,
          o.after || (o.before && !o.runs), o.file⟩

def readTranslation : Reading Action := do
  let unended {α : Type} : Reading α := failWith "unterminated \x60y' command"
  match ← next? with
  | none => unended
  | some delimiter =>
    match ← readPart? delimiter false with
    | none => unended
    | some these =>
      match ← readPart? delimiter false with
      | none => unended
      | some those =>
        let these := plainSigns (these.length + 1) these
        let those := plainSigns (those.length + 1) those
        if these.length ≠ those.length then failWith "strings for \x60y' command are different lengths"
        endStep
        return .translate (these.zip those)

/-- Actions of one letter. -/
def plainActions : List (Char × Action) :=
  [('=', .number), ('d', .delete), ('D', .deleteLine), ('F', .fileName), ('g', .get), ('G', .getMore), ('h', .hold),
    ('H', .holdMore), ('n', .next), ('N', .nextMore), ('p', .print), ('P', .printLine), ('z', .empty),
    ('x', .exchange)]

/-- Whether a version is one that there is already. -/
def isKnownVersion (s : String) : Bool :=
  let parts := (cutAt '.' s.toList).map fun p => (scanDigits 10 0 p).1
  decide (parts.headD 0 < 4 ∨ (parts.headD 0 = 4 ∧ parts.tail.headD 0 ≤ 9))

/-- The action of a step; none is a remark. -/
def readAction (hasFirst hasLast : Bool) : Reading (Option Action) := do
  match ← next? with
  | none => failWith "missing command"
  | some c =>
    match c with
    | '#' =>
      if hasFirst then failWith "comments don't accept any addresses"
      skip (· ≠ '\n')
      return none
    | 'v' =>
      let version ← readLabel
      if !isKnownVersion version then failWith "expected newer version of sed"
      return none
    | '\x7b' =>
      modify fun u => { u with opened := u.place 0 :: u.opened }
      return some .opening
    | '\x7d' =>
      if (← get).opened.isEmpty then failWith "unexpected \x60\x7d'"
      if hasFirst then failWith "\x60\x7d' doesn't want any addresses"
      modify fun u => { u with opened := u.opened.tail }
      endStep
      return some .closing
    | 'e' =>
      skip isBlank
      match ← rest with
      | [] => return some (.run none)
      | '\n' :: r =>
        setRest r
        return some (.run none)
      | _ => return some (.run (some (← readAdded).dropLast))
    | 'a' | 'i' | 'c' =>
      skip isBlank
      if (← rest).isEmpty then failWith "expected \\ after \x60a', \x60c' or \x60i'"
      let text ← readAdded
      return some (if c = 'a' then .append text else if c = 'i' then .insert text else .change text)
    | ':' =>
      if hasFirst then failWith ": doesn't want any addresses"
      let name ← readLabel
      if name.isEmpty then failWith "\":\" lacks a label"
      return some (.label name)
    | 'b' => return some (.jump .always (← readLabel))
    | 't' => return some (.jump .replaced (← readLabel))
    | 'T' => return some (.jump .untouched (← readLabel))
    | 'q' | 'Q' =>
      if hasLast then failWith "command only uses one address"
      skip isBlank
      let n ← readNumber?
      endStep
      return some (.quit (n.getD 0 % 256) (c = 'q'))
    | 'l' =>
      skip isBlank
      let n ← readNumber?
      endStep
      return some (.list n)
    | 'r' => return some (.readFile (← readFileName))
    | 'R' => return some (.readLine (← readFileName))
    | 'w' => return some (.writeFile (← readFileName))
    | 'W' => return some (.writeLine (← readFileName))
    | 's' => return some (← readSubstitution)
    | 'y' => return some (← readTranslation)
    | c =>
      match plainActions.lookup c with
      | some action =>
        endStep
        return some action
      | none => failWith ("unknown command: \x60" ++ c.toString ++ "'")

/-- Whether an address is a count from another one. -/
def isRelative : Option Address → Bool
  | some (.more _) | some (.multiple _) => true
  | _ => false

/-- Reads a step, with the lines that it is for. -/
def readStep : Reading (Option Step) := do
  let first ← readAddress?
  if isRelative first then failWith "invalid usage of +N or ~N as first address"
  if first.isSome then skip isBlank
  let last ← match first, ← rest with
    | some _, ',' :: r => do
      setRest (r.dropWhile isBlank)
      match ← readAddress? with
      | some a => pure (some a)
      | none => failBehind "unexpected \x60,'"
    | _, _ => pure none
  if first.isSome then skip isBlank
  match first, last with
  | some (.line 0), some (.found _) => pure ()
  | some (.line 0), _ => failBehind "invalid usage of line address 0"
  | _, _ => pure ()
  let negated ← match ← rest with
    | '!' :: r => do
      setRest (r.dropWhile isBlank)
      if (← rest).head? = some '!' then failBehind "multiple \x60!'s"
      pure true
    | _ => pure false
  return (← readAction first.isSome last.isSome).map fun action => ⟨first, last, negated, action⟩

/-- The steps of a sheet, the latest first, behind those of the sheets before. -/
def readSteps : Nat → List Step → Reading (List Step)
  | 0, steps => return steps
  | fuel + 1, steps => do
    skip fun c => isSpace c || c == ';'
    if (← rest).isEmpty then return steps
    let step ← readStep
    readSteps fuel (step.toList ++ steps)

/-- Adds what is in front of a sheet to the text of the last step if that goes on there. -/
def resumeText (steps : List Step) : Reading (List Step) := do
  let u ← get
  if !u.waits || u.text.isEmpty then return steps
  let (more, left, waits) := addedLines (u.text.length + 1) u.text
  set { u with text := left, waits }
  match steps with
  | s :: before =>
    let action := match s.action with
      | .append text => .append (text ++ more)
      | .insert text => .insert (text ++ more)
      | .change text => .change (text ++ more)
      | .run (some text) => .run (some (text ++ '\n' :: more.dropLast))
      | a => a
    return { s with action } :: before
  | [] => return steps

/-- The names of labels. -/
def labelNames (steps : List Step) : List String :=
  steps.filterMap fun s =>
    match s.action with
    | .label name => some name
    | _ => none

/-- The first jump that leads nowhere. -/
def lostJump? (steps : List Step) : Option String :=
  steps.findSome? fun s =>
    match s.action with
    | .jump _ name => if name = "" ∨ (labelNames steps).contains name then none else some name
    | _ => none

/-- Reads sheets one after the other. -/
def readSheets (steps : List Step) (opened : List String) (waits : Bool) : List Sheet → Except Fault (List Step)
  | [] =>
    match opened, lostJump? steps.reverse with
    | place :: _, _ => .error ⟨place ++ ": unmatched \x60\x7b'", 1⟩
    | [], some name => .error ⟨"can't find label for jump to \x60" ++ name ++ "'", 4⟩
    | [], none => .ok steps.reverse
  | sheet :: more =>
    let all : Reading (List Step) := do readSteps (sheet.text.length + 2) (← resumeText steps)
    match all.run ⟨sheet, sheet.text, opened, waits⟩ with
    | (.error fault, _) => .error fault
    | (.ok steps, u) => readSheets steps u.opened u.waits more

/-- The steps that sheets hold, or what is wrong with them. -/
def stepsOf (sheets : List Sheet) : Except Fault (List Step) := readSheets [] [] false sheets

end PlanReuse.Script.Edit
