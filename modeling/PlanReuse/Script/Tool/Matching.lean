import PlanReuse.Script.Regex.Rich
import PlanReuse.Script.Tool.Lines
import PlanReuse.Script.Tool.Names

/-!
# Matching lines

A tool prints the lines of texts in which expressions match.
-/

namespace PlanReuse.Script.Tool

/-- What lines are looked for. -/
inductive Target
  | text (s : List Char)
  /-- An expression of which the longest match counts. -/
  | pattern (r : Regex)
  /-- An expression of which the first match counts. -/
  | rich (r : Regex)

/-- How they are looked for. -/
structure Matching where
  targets : List Target
  fold : Bool
  word : Bool
  whole : Bool

namespace Matching

open Regex (Place)

/-- The place behind a text. -/
def behind? (fold : Bool) (s before after : List Char) : Option Place :=
  let next := after.take s.length
  let same := next == s || (fold && next.map Char.toLower == s.map Char.toLower)
  if same then some ⟨next.reverse ++ before, after.drop s.length, [], none⟩ else none

/-- Whether a match is a word, or a line, if it has to be. -/
def fits (m : Matching) (before : List Char) (q : Place) : Bool :=
  (!m.whole || (before.isEmpty && q.after.isEmpty)) &&
    (!m.word || (!before.head?.any Regex.isWordChar && !q.after.head?.any Regex.isWordChar))

/-- The match at a place. -/
def matchAt? (m : Matching) (before after : List Char) : Option Place :=
  let found := m.targets.flatMap fun
    | .text s => (behind? m.fold s before after).toList
    | .pattern r =>
      if m.word || m.whole then (r.ends m.fold before after).filter (m.fits before)
      else (r.matchAt? m.fold before after).toList
    | .rich r => (r.firstAt? m.fold before after).toList
  (found.filter (m.fits before)).foldl (fun best q =>
    match best with
    | some b => if q.after.length < b.after.length then some q else some b
    | none => some q) none

/-- The first match at or behind a place. -/
def find? (m : Matching) (before : List Char) : List Char → Option (List Char × Place)
  | [] => (m.matchAt? before []).map fun q => (before, q)
  | c :: r =>
    match m.matchAt? before (c :: r) with
    | some q => some (before, q)
    | none => m.find? (c :: before) r

/-- The parts of a line that match, each with the number of characters before it. -/
def all (m : Matching) : Nat → List Char → List Char → List (Nat × List Char)
  | 0, _, _ => []
  | fuel + 1, before, after =>
    match m.find? before after with
    | none => []
    | some (start, q) =>
      let start := q.kept.getD start
      let text := (q.before.take (q.before.length - start.length)).reverse
      let rest :=
        if q.before.length = before.length || text.isEmpty then
          match q.after with
          | [] => []
          | c :: r => m.all fuel (c :: q.before) r
        else m.all fuel q.before q.after
      if text.isEmpty then rest else (start.length, text) :: rest

def isIn (m : Matching) (row : List Char) : Bool := (m.find? [] row).isSome

end Matching

/-- The expressions of options and operands, and the operands that are left; none if there is no
expression. -/
def patternsOf (a : Arguments) : Tool (Option (List String × List String)) := do
  let mut read : List String := []
  for (c, v) in a.options do
    if c = 'e' then read := read ++ v.splitOn "\n"
    else if c = 'f' then
      match ← contentOf endless v with
      | .ok text => read := read ++ (linesOf text.toList).map String.ofList
      | .error fault =>
        say (ofFault v fault)
        setStatus 2
        return some ([], [])
  if a.has 'e' || a.has 'f' then return some (read, a.operands)
  match a.operands with
  | p :: rest => return some (p.splitOn "\n", rest)
  | [] => return none

/-- Whether one of some patterns of names fits. -/
def fitsAny (patterns : List String) (name : String) : Bool :=
  patterns.any fun p => PlanReuse.Script.fits (patternOf (p.toList.map fun c => (c, false))) name.toList

/-- Whether a file is looked at: the last option that fits its name says so. -/
def isWanted (a : Arguments) (name : String) : Bool :=
  let relevant := a.options.filter fun o => o.1 = 'ι' || o.1 = 'ε'
  match relevant.reverse.find? fun o => fitsAny [o.2] name with
  | some o => o.1 = 'ι'
  | none => (relevant.head?.map Prod.fst) ≠ some 'ι'

/-- The files below an operand that is a folder. -/
def filesBelow (a : Arguments) (w : Work) (name : String) (isBare : Bool) : List String :=
  match w.disk.find w.folder name with
  | .ok (p, .folder) =>
    let inner := (w.disk.entries.filter fun e => p.isPrefixOf e.1 && e.1.length > p.length).filter fun e =>
      let below := e.1.drop p.length
      (match e.2 with
        | .file _ => true
        | .link _ => a.has 'R' && (match w.disk.find w.folder (inside name ("/".intercalate below)) with
          | .ok (_, .file _) => true
          | _ => false)
        | _ => false) && isWanted a (below.getLastD "") &&
        !(below.dropLast.any fun n => fitsAny (a.values 'δ') n)
    let names := inner.map fun e => "/".intercalate (e.1.drop p.length)
    (names.mergeSort fun x y => decide (x ≤ y)).map fun n => if isBare then n else Tool.inside name n
  | _ => [name]

/-- Which lines are chosen, or stand at most some lines behind or before one that is. -/
def nearLines (after before : Nat) (chosen : List Bool) : List Bool :=
  let sweep (room : Nat) (l : List Bool) : List Bool :=
    (l.foldl (fun ((left : Nat), out) isChosen =>
      let left := if isChosen then room + 1 else left - 1
      (left, decide (0 < left) :: out)) (0, ([] : List Bool))).2
  List.zipWith (· || ·) (sweep after chosen).reverse (sweep before chosen.reverse)

/-- How lines are shown. -/
structure Showing where
  /-- The name of the file, if it is shown. -/
  name : Option String
  numbers : Bool
  offsets : Bool
  tabs : Bool
  zero : Bool
  colors : Bool
  ending : Char

namespace Showing

/-- A text in a color. -/
def paint (s : Showing) (code text : String) : String :=
  if s.colors then "\x1b[" ++ code ++ "m\x1b[K" ++ text ++ "\x1b[m\x1b[K" else text

/-- What stands in front of a line. -/
def front (s : Showing) (mark : String) (number offset : Nat) (isBlank : Bool) : String :=
  let sign := s.paint "36" mark
  let wide (n : Nat) : String := if s.tabs && n < 10 then " " ++ toString n else toString n
  let text := (match s.name with
      | some name => s.paint "35" name ++ if s.zero then "\x00" else sign
      | none => "") ++
    (if s.numbers then s.paint "32" (wide number) ++ sign else "") ++
    (if s.offsets then s.paint "32" (wide offset) ++ sign else "")
  if s.tabs && !isBlank && text ≠ "" then text ++ "\t" else text

/-- A line with its matches in color. -/
def line (s : Showing) (m : Matching) (row : List Char) : String :=
  if !s.colors then String.ofList row
  else
    let (at_, text) := (m.all (row.length + 2) [] row).foldl (fun (at_, out) (start, t) =>
      (start + t.length, out ++ String.ofList ((row.drop at_).take (start - at_)) ++
        s.paint "01;31" (String.ofList t))) (0, "")
    text ++ String.ofList (row.drop at_)

end Showing

/-- What is wrong with a call, and how it is to be called. -/
def grepMisuse (text : String) : Tool Unit := do
  if !text.isEmpty then say text
  note "Usage: grep [OPTION]... PATTERNS [FILE]...\nTry 'grep --help' for more information.\n"
  setStatus 2

/-- The targets of patterns in the notation that options ask for, or what is wrong. -/
def targetsOf (a : Arguments) (standard : Char) (patterns : List String) : Except String (List Target) := do
  let kind := (a.lastOf "EFGP").getD standard
  let whole (r : Regex) : Regex :=
    let word (negatedSide : Bool) : Regex :=
      .look negatedSide true (.set false [.named "alnum", .between '_' '_'])
    if a.has 'x' then .andThen .textStart (.andThen r .textFinish)
    else if a.has 'w' then .andThen (word true) (.andThen r (word false)) else r
  if kind = 'P' ∧ 1 < patterns.length then throw "the -P option only supports a single pattern"
  patterns.mapM fun p =>
    match kind with
    | 'F' => .ok (.text p.toList)
    | 'P' =>
      match Regex.Rich.read p with
      | .ok r => .ok (.rich (whole r))
      | .error fault => .error fault.message
    | k =>
      if p.startsWith "[:" ∧ p.endsWith ":]" then
        .error "character class syntax is [[:space:]], not [:space:]"
      else
        match Regex.read (if k = 'E' then .loose else .basic) p with
        | .ok r => .ok (.pattern r)
        | .error fault => .error fault.message

/-- What is left after a text has been searched: whether lines were chosen, whether some have been shown,
also of texts before, and what is left of the text behind the last of them if there were enough. -/
structure Searched where
  isFound : Bool
  hasShown : Bool
  rest : Option (List Char)

/-- Searches a text and shows what is found. -/
def searchText (a : Arguments) (m : Matching) (s : Showing) (hasShown : Bool) (name : String) (text : List Char) :
    Tool Searched := do
  let count (c : Char) : Option Nat := (a.value? c).bind countOf?
  let most := count 'm'
  let after := ((count 'A').or (count 'C')).getD 0
  let before := ((count 'B').or (count 'C')).getD 0
  let pieces := piecesOf s.ending text
  let lines := (pieces.map fun p => if p.getLast? = some s.ending then p.dropLast else p).zipIdx
  let chosen := lines.filter fun l => m.isIn l.1 != a.has 'v'
  let enough := most.any fun n => n ≤ chosen.length
  let chosen := match most with
    | some n => chosen.take n
    | none => chosen
  let isBinary := !(a.has 'a' || a.has 'z' || a.value? 'β' == some "text") && text.any fun c => c.toNat = 0
  let skips := isBinary && (a.has 'I' || a.value? 'β' == some "without-match")
  let chosen := if skips then [] else chosen
  let ending := s.ending.toString
  let offsets := (pieces.foldl (fun (n, out) p => (n + p.length, n :: out)) (0, ([] : List Nat))).2.reverse.toArray
  let label := s.paint "35" name
  if a.has 'q' then pure ()
  else if a.has 'l' || a.has 'L' then
    if chosen.isEmpty == (a.lastOf "lL" == some 'L') then put (label ++ if a.has 'Z' then "\x00" else "\n")
  else if a.has 'c' then
    put ((match s.name with
      | some _ => label ++ if a.has 'Z' then "\x00" else s.paint "36" ":"
      | none => "") ++ toString chosen.length ++ "\n")
  else if isBinary then
    if !chosen.isEmpty then say (name ++ ": binary file matches")
  else
    let flags := (chosen.foldl (fun flags l => flags.setIfInBounds l.2 true) (Array.replicate lines.length false)).toList
    let hasContext := "ABC".toList.any a.has
    let separator := if a.has 'ν' then none else some ((a.value? 'γ').getD "--")
    let mut last : Option Nat := none
    for ((row, n), isChosen, isNear) in lines.zip (flags.zip (nearLines after before flags)) do
      if isNear then
        let isApart := match last with
          | some l => l + 1 < n
          | none => hasShown
        if hasContext && isApart then
          match separator with
          | some text => putLine (s.paint "36" text)
          | none => pure ()
        let front (offset : Nat) : String :=
          s.front (if isChosen then ":" else "-") (n + 1) (offsets.getD n 0 + offset) row.isEmpty
        if a.has 'o' then
          if isChosen && !a.has 'v' then
            for (start, t) in m.all (row.length + 2) [] row do
              put (front start ++ s.paint "01;31" (String.ofList t) ++ ending)
        else
          put (front 0 ++ (if isChosen != a.has 'v' then s.line m row else String.ofList row) ++ ending)
        last := some n
  let rest := if enough then (chosen.getLast?.map fun l => (pieces.drop (l.2 + 1)).flatten) else none
  return ⟨!chosen.isEmpty, hasShown || !chosen.isEmpty, rest⟩

/-- Old counts such as `-2` as new ones. -/
def withContextDigits : List String → List String :=
  mapOptions "efmABCdD" fun s =>
    match s.toList with
    | '-' :: r =>
      let digits := r.takeWhile Char.isDigit
      if digits.isEmpty then [s] else ["-" ++ String.ofList (r.drop digits.length) ++ "C" ++ String.ofList digits]
    | _ => [s]

def grepGrammar : Grammar :=
  ⟨"EFGPivwxclLnoqshHrRyaUzbITZVuνπ", "efmABCdDιεξδγβλ", "κ",
    [("extended-regexp", 'E'), ("fixed-strings", 'F'), ("basic-regexp", 'G'), ("perl-regexp", 'P'),
      ("ignore-case", 'i'), ("no-ignore-case", 'π'), ("invert-match", 'v'), ("word-regexp", 'w'),
      ("line-regexp", 'x'), ("count", 'c'), ("files-with-matches", 'l'), ("files-without-match", 'L'),
      ("line-number", 'n'), ("only-matching", 'o'), ("quiet", 'q'), ("silent", 'q'), ("no-messages", 's'),
      ("no-filename", 'h'), ("with-filename", 'H'), ("recursive", 'r'), ("dereference-recursive", 'R'),
      ("regexp", 'e'), ("file", 'f'), ("max-count", 'm'), ("after-context", 'A'), ("before-context", 'B'),
      ("context", 'C'), ("color", 'κ'), ("colour", 'κ'), ("byte-offset", 'b'), ("text", 'a'), ("null", 'Z'),
      ("null-data", 'z'), ("initial-tab", 'T'), ("label", 'λ'), ("include", 'ι'), ("exclude", 'ε'),
      ("exclude-from", 'ξ'), ("exclude-dir", 'δ'), ("group-separator", 'γ'), ("no-group-separator", 'ν'),
      ("binary-files", 'β'), ("binary", 'U'), ("line-buffered", 'U'), ("directories", 'd'), ("devices", 'D')]⟩

/-- Whether lines are shown, and more than one of a file. -/
def showsLines (a : Arguments) : Bool :=
  !(a.has 'q' || a.has 'l' || a.has 'L' || a.has 'c') && ((a.value? 'm').bind (integerOf? 10)).all (1 < ·)

/-- Looks for lines; the letter is the notation of the expressions if no option names one. -/
def grepWith (standard : Char) (a : Arguments) : Tool Unit := do
  let fail (text : String) : Tool Unit := do
    say text
    setStatus 2
  let kinds := (if standard = 'G' then [] else [standard]) ++
    (a.options.map Prod.fst).filter fun c => "EFGP".contains c
  if kinds.any fun c => some c ≠ kinds.head? then
    fail "conflicting matchers specified"
    return ()
  let badCount := "ABC".toList.findSome? fun c => (a.values c).find? fun v => (countOf? v).isNone
  match badCount with
  | some v => fail (v ++ ": invalid context length argument")
  | none =>
  if (a.values 'm').any fun v => (integerOf? 10 v).isNone then
    fail "invalid max count"
    return ()
  if let some s := (a.values 'd').find? fun s => (choiceOf ["read", "recurse", "skip"] s).isNone then
    grepMisuse ("invalid argument " ++ quote s ++
      " for '--directories'\nValid arguments are:\n  - 'read'\n  - 'recurse'\n  - 'skip'")
    setStatus 1
    return ()
  if (a.values 'D').any fun s => s ≠ "read" ∧ s ≠ "skip" then
    fail "unknown devices method"
    return ()
  match ← patternsOf a with
  | none => grepMisuse ""
  | some (patterns, operands) =>
    if (← get).status = 2 then return ()
    match targetsOf a standard patterns with
    | .error text => fail text
    | .ok targets =>
      if ((a.lastOf "EFGP").getD standard) = 'E' ∧
          patterns.any fun p => p.startsWith "*" || p.startsWith "+" || p.startsWith "?" then
        say ("warning: " ++ ((patterns.headD "").take 1).toString ++ " at start of expression")
      let isRich := (a.lastOf "EFGP").getD standard = 'P'
      let m : Matching := ⟨targets, a.has 'y' || a.lastOf "iπ" == some 'i', a.has 'w' && !isRich, a.has 'x' && !isRich⟩
      let isDeep := a.has 'r' || a.has 'R' || a.value? 'd' == some "recurse"
      let w ← get
      let names :=
        if isDeep then
          if operands.isEmpty then filesBelow a w "." true else operands.flatMap fun n => filesBelow a w n false
        else if operands.isEmpty then ["-"] else operands.filter fun n => n = "-" || isWanted a (lastName n)
      let headed := match a.lastOf "hH" with
        | some c => c == 'H'
        | none => 1 < operands.length || isDeep
      let mut found := false
      let mut hasShown := false
      let mut failed := (← get).status == 2
      if ((a.value? 'm').bind (integerOf? 10)) = some 0 then
        setStatus 1
        return ()
      for name in names do
        if found && a.has 'q' then break
        let w ← get
        let isFolder := name ≠ "-" && w.disk.isFolder w.folder name
        if isFolder && a.value? 'd' == some "skip" then pure ()
        else
          match ← contentOf endless name with
          | .error fault =>
            failed := true
            if !a.has 's' then say (ofFault name fault)
          | .ok text =>
            let shown := if name = "-" then (a.value? 'λ').getD "(standard input)" else name
            if w.isOutput name && showsLines a then
              failed := true
              if !a.has 's' then say (shown ++ ": input file is also the output")
              continue
            let s : Showing := ⟨if headed then some shown else none, a.has 'n', a.has 'b', a.has 'T', a.has 'Z',
              ["always", "yes", "force"].contains ((a.value? 'κ').getD ""), if a.has 'z' then Char.ofNat 0 else '\n'⟩
            let r ← searchText a m s hasShown shown text.toList
            if r.isFound then found := true
            hasShown := r.hasShown
            match r.rest with
            | some rest => if name = "-" && w.inputIsFile then modify fun w => { w with input := rest }
            | none => pure ()
      setStatus (if failed && !(a.has 'q' && found) then 2 else if found then 0 else 1)

def grep (standard : Char) (arguments : List String) : Tool Unit := do
  let shown := arguments.takeWhile (· ≠ "--")
  if shown.contains "--help" then put "Usage: grep [OPTION]... PATTERNS [FILE]...\n"
  else if shown.contains "--version" || shown.contains "-V" then put "grep (GNU grep) 3.8\n"
  else
    match readArguments grepGrammar true (withContextDigits arguments) with
    | .error text => grepMisuse text
    | .ok a => grepWith standard a

end PlanReuse.Script.Tool
