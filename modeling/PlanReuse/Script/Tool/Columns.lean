import PlanReuse.Script.Tool.Lines

/-!
# Columns

Tools that cut lines into fields and columns, put them side by side, bring them together by a field that
they share, and bring lines to a width.
-/

namespace PlanReuse.Script.Tool

/-! ### Places in a line -/

/-- Ranges of places, each with a first one and maybe a last one. -/
abbrev Ranges := List (Nat × Option Nat)

/-- Why a list of places is none. -/
inductive RangeFault
  | invalid (part : String)
  | tooLarge (part : String)
  | zero
  | decreasing
  | noEnd
  | notRange

def RangeFault.message (byFields : Bool) : RangeFault → String
  | invalid part => (if byFields then "invalid field value " else "invalid byte/character position ") ++ quote part
  | tooLarge part =>
    (if byFields then "field number " else "byte/character offset ") ++ quote part ++ " is too large"
  | zero => (if byFields then "fields" else "byte/character positions") ++ " are numbered from 1"
  | decreasing => "invalid decreasing range"
  | noEnd => "invalid range with no endpoint: -"
  | notRange => if byFields then "invalid field range" else "invalid byte or character range"

/-- Ranges of places such as `1,3-5,7-`. -/
def readRanges (s : String) : Except RangeFault Ranges :=
  let parts := (cutAt ',' (s.toList.map fun c => if c = ' ' ∨ c = '\t' then ',' else c)).map String.ofList
  parts.mapM fun part =>
    let number (t : String) : Except RangeFault Nat :=
      match scanDigits 10 0 t.toList with
      | (n, _, []) =>
        if n = 0 then .error .zero else if Nat.pow 2 64 - 1 ≤ n then .error (.tooLarge t) else .ok n
      | (_, _, rest) => .error (.invalid (String.ofList rest))
    match (cutAt '-' part.toList).map String.ofList with
    | [one] => (number one).map fun n => (n, some n)
    | ["", ""] => .error .noEnd
    | ["", last] => (number last).map fun n => (1, some n)
    | [first, ""] => (number first).map fun n => (n, none)
    | [first, last] => do
      let m ← number first
      let n ← number last
      if n < m then .error .decreasing else .ok (m, some n)
    | _ => .error .notRange

/-- Ranges in order, those that overlap made one. -/
def mergeRanges (ranges : Ranges) : Ranges :=
  let sorted := ranges.mergeSort fun a b => decide (a.1 ≤ b.1)
  (sorted.foldl (fun acc (first, last) =>
    match acc with
    | (f, l) :: more =>
      let overlaps := match l with
        | some n => decide (first ≤ n)
        | none => true
      if overlaps then
        (f, match l, last with
          | some m, some n => some (max m n)
          | _, _ => none) :: more
      else (first, last) :: acc
    | [] => [(first, last)]) []).reverse

/-- The places outside ranges that are in order. -/
def complement : Nat → Ranges → Ranges
  | start, [] => [(start, none)]
  | start, (first, last) :: more =>
    (if start < first then [(start, some (first - 1))] else []) ++
      (match last with
        | some n => complement (n + 1) more
        | none => [])

/-- What a range takes of a list. -/
def inRange {α : Type} (xs : List α) (r : Nat × Option Nat) : List α :=
  match r.2 with
  | some n => (xs.take n).drop (r.1 - 1)
  | none => xs.drop (r.1 - 1)

def cut : Arguments → Tool Unit := fun a => do
  let lists := a.options.filter fun o => "bcf".contains o.1
  match lists with
  | [] => misuse "you must specify a list of bytes, characters, or fields"
  | _ :: _ :: _ => misuse "only one list may be specified"
  | [(kind, list)] =>
    let byFields := kind == 'f'
    match readRanges list with
    | .error fault => misuse (fault.message byFields)
    | .ok ranges =>
      if ((a.value? 'd').any fun d => 1 < d.length) then misuse "the delimiter must be a single character"
      else if !byFields && a.has 'd' then
        misuse "an input delimiter may be specified only when operating on fields"
      else if !byFields && a.has 's' then
        misuse "suppressing non-delimited lines makes sense\n\tonly when operating on fields"
      else
        let ranges := mergeRanges ranges
        let ranges := if a.has 'κ' then complement 1 ranges else ranges
        let delimiter := match a.value? 'd' with
          | some d => d.toList.headD (Char.ofNat 0)
          | none => '\t'
        let ending := endingOfLines a
        let out := ((a.value? 'ω').map String.toList)
        eachContent a.operands fun _ text => do
          for row in linesEndedBy ending text.toList do
            if byFields then
              let fields := cutAt delimiter row
              if fields.length ≤ 1 then
                if !a.has 's' then put (String.ofList (row ++ [ending]))
              else
                let kept := (ranges.map (inRange fields)).flatten
                put (String.ofList (List.intercalate (out.getD [delimiter]) kept ++ [ending]))
            else
              let kept := (ranges.map (inRange row)).filter (· ≠ [])
              put (String.ofList (List.intercalate (out.getD []) kept ++ [ending]))

/-! ### Side by side -/

/-- The signs that stand between columns; none is a sign too. -/
def readDelimiters : List Char → List (Option Char)
  | '\\' :: c :: r =>
    (match c with
      | 'n' => some '\n'
      | 't' => some '\t'
      | '0' => none
      | 'b' => some '\x08'
      | 'f' => some '\x0c'
      | 'r' => some '\r'
      | 'v' => some '\x0b'
      | c => some c) :: readDelimiters r
  | c :: r => some c :: readDelimiters r
  | [] => []

/-- Whether a text ends in a backslash that stands in front of nothing. -/
def endsOpen (s : String) : Bool := (s.toList.reverse.takeWhile (· == '\\')).length % 2 == 1

def paste : Arguments → Tool Unit := fun a => do
  if let some list := (a.values 'd').find? endsOpen then
    complain ("delimiter list ends with an unescaped backslash: " ++ list)
    return ()
  let ending := endingOfLines a
  let delimiters := match readDelimiters ((a.value? 'd').getD "\t").toList with
    | [] => [none]
    | ds => ds
  let glueAt (i : Nat) : List Char := ((delimiters[i % delimiters.length]?).bind id).toList
  let glue (parts : List (List Char)) : String :=
    String.ofList ((parts.zipIdx.map fun (p, i) => if i = 0 then p else glueAt (i - 1) ++ p).flatten ++ [ending])
  let names := if a.operands.isEmpty then ["-"] else a.operands
  if a.has 's' then eachContent names fun _ text => put (glue (linesEndedBy ending text.toList))
  else
    let inputs := (names.filter (· == "-")).length
    let shared ← if inputs > 0 then do pure (linesEndedBy ending (← takeInput).toList) else pure []
    let mut columns : List (Array (List Char)) := []
    let mut seen := 0
    for name in names do
      if name = "-" then
        let place := seen
        columns := columns ++ [((shared.zipIdx.filter fun l => l.2 % inputs == place).map Prod.fst).toArray]
        seen := seen + 1
      else
        match ← contentOf endless name with
        | .ok text => columns := columns ++ [(linesEndedBy ending text.toList).toArray]
        | .error fault => complain (ofFault name fault)
    if (← get).status = 0 then
      for i in List.range ((columns.map Array.size).foldl max 0) do
        put (glue (columns.map fun column => (column[i]?).getD []))

/-- Lines of two texts that are only in the first, only in the second, or in both. -/
inductive Common
  | first
  | second
  | both
deriving DecidableEq

/-- When a line that is out of order is an error. -/
inductive OrderCheck
  | never
  | always
  /-- As soon as some line has been found in one text only. -/
  | unpaired
deriving DecidableEq

/-- What is known about the order of two texts. -/
structure OrderWatch where
  check : OrderCheck
  /-- Whether some line has been found in one text only. -/
  unpaired : Bool
  /-- The texts that are known to be out of order. -/
  disordered : List Nat

def OrderWatch.ofArguments (a : Arguments) : OrderWatch :=
  ⟨match a.lastOf "νχ" with
    | some 'ν' => .never
    | some _ => .always
    | none => .unpaired, false, []⟩

/-- What going through two texts brings: a line to write, or a line out of order in one of them. -/
inductive MergeStep (α : Type)
  | row (x : α)
  | disorder (file : Nat) (x : α)

/-- Takes notice of a line after the one before it. -/
def OrderWatch.see {α : Type} (w : OrderWatch) (file : Nat) (isGreater : Bool) (x : α) :
    OrderWatch × List (MergeStep α) :=
  let watches := w.check = .always ∨ (w.check = .unpaired ∧ w.unpaired)
  if watches ∧ isGreater ∧ !w.disordered.contains file then
    ({ w with disordered := file :: w.disordered }, [.disorder file x])
  else (w, [])

/-- Takes notice of all lines behind a first one. -/
def OrderWatch.seeAll {α : Type} (isGreater : α → α → Bool) (file : Nat) :
    OrderWatch → α → List α → OrderWatch × List (MergeStep α)
  | w, _, [] => (w, [])
  | w, x, y :: r =>
    let (w, now) := w.see file (isGreater x y) y
    let (w, later) := seeAll isGreater file w y r
    (w, now ++ later)

/-- Ends after the first line out of order if that is an error at once. -/
def MergeStep.cut {α : Type} (check : OrderCheck) : List (MergeStep α) → List (MergeStep α)
  | [] => []
  | .row x :: r => .row x :: cut check r
  | .disorder file x :: r => .disorder file x :: if check = .always then [] else cut check r

/-- What is left of a text: the line before the next one, if there is one, and all others. -/
structure Remains where
  before : Option (List Char)
  lines : List (List Char)

/-- What is left after the next line. The order is looked at again before the end, as it may not have
counted before. -/
def Remains.next (u : Remains) (file : Nat) (w : OrderWatch) :
    Remains × OrderWatch × List (MergeStep (Common × List Char)) :=
  let isGreater (x y : List Char) : Bool := List.compareLex Ord.compare x y == .gt
  match u.lines with
  | [] => (u, w, [])
  | x :: r =>
    let (w, steps) := match r, u.before with
      | y :: _, _ => w.see file (isGreater x y) (Common.both, y)
      | [], some z => w.see file (isGreater z x) (Common.both, x)
      | [], none => (w, [])
    (⟨some x, r⟩, w, steps)

/-- Goes through two sorted texts at once. -/
def mergeLines : Nat → OrderWatch → Remains → Remains → List (MergeStep (Common × List Char))
  | 0, _, _, _ => []
  | fuel + 1, w, u, v =>
    let first (x : List Char) : List (MergeStep (Common × List Char)) :=
      let (u, w, steps) := u.next 1 { w with unpaired := true }
      .row (.first, x) :: steps ++ mergeLines fuel w u v
    let second (y : List Char) : List (MergeStep (Common × List Char)) :=
      let (v, w, steps) := v.next 2 { w with unpaired := true }
      .row (.second, y) :: steps ++ mergeLines fuel w u v
    match u.lines, v.lines with
    | [], [] => []
    | x :: _, [] => first x
    | [], y :: _ => second y
    | x :: _, y :: _ =>
      match List.compareLex Ord.compare x y with
      | .lt => first x
      | .gt => second y
      | .eq =>
        let (u, w, some_) := u.next 1 w
        let (v, w, others) := v.next 2 w
        .row (.both, x) :: some_ ++ others ++ mergeLines fuel w u v

/-- Says at the end that lines have been out of order. -/
def endMerge {α : Type} (check : OrderCheck) (steps : List (MergeStep α)) : Tool Unit :=
  if steps.any (fun | .disorder _ _ => true | .row _ => false) then
    if check = .always then setStatus 1 else complain "input is not in sorted order"
  else return ()

def comm : Arguments → Tool Unit := fun a => do
  if (a.values 'ω').any fun s => some s ≠ a.value? 'ω' then
    complain "multiple output delimiters specified"
    return ()
  match a.operands with
  | [m, n] =>
    match ← contentOf endless m, ← contentOf endless n with
    | .ok s, .ok t =>
      let ending := endingOfLines a
      let gap := (a.value? 'ω').getD "\t"
      let s := linesEndedBy ending s.toList
      let t := linesEndedBy ending t.toList
      let watch := OrderWatch.ofArguments a
      let steps := MergeStep.cut watch.check
        (mergeLines (s.length + t.length + 1) watch ⟨none, s⟩ ⟨none, t⟩)
      let front (c : Common) : String :=
        match c with
        | .first => ""
        | .second => if a.has '1' then "" else gap
        | .both => (if a.has '1' then "" else gap) ++ if a.has '2' then "" else gap
      let hides (c : Common) : Bool :=
        match c with
        | .first => a.has '1'
        | .second => a.has '2'
        | .both => a.has '3'
      for step in steps do
        match step with
        | .row (c, x) => if !hides c then put (front c ++ String.ofList (x ++ [ending]))
        | .disorder file _ => say ("file " ++ toString file ++ " is not in sorted order")
      let isEnded := watch.check = .always ∧ steps.any (fun | .disorder _ _ => true | .row _ => false)
      if a.has 'τ' ∧ !isEnded then
        let count (c : Common) : String :=
          toString (steps.countP fun | .row x => x.1 == c | .disorder _ _ => false)
        put (gap.intercalate [count .first, count .second, count .both, "total"] ++ ending.toString)
      endMerge watch.check steps
    | .error fault, _ => complain (ofFault m fault)
    | _, .error fault => complain (ofFault n fault)
  | [] => misuse "missing operand"
  | [m] => misuse ("missing operand after " ++ quote m)
  | _ :: _ :: x :: _ => misuse ("extra operand " ++ quote x)

/-! ### Bringing together -/

/-- A line in its fields. -/
structure JoinRow where
  fields : Array (List Char)
  line : List Char
  number : Nat

/-- How lines are brought together. -/
structure Joining where
  separator : Option Char
  first : Nat
  second : Nat
  fold : Bool
  filler : List Char
  /-- The fields of the output: of one of the lines, or the shared one. -/
  format : Option (List (Nat × Nat))
  unpairedFirst : Bool
  unpairedSecond : Bool
  hidesPairs : Bool

namespace Joining

def rowOf (j : Joining) (line : List Char) (number : Nat) : JoinRow :=
  let fields := match j.separator with
    | some c => cutAt c line
    | none => blankFields (line.length + 1) line
  ⟨fields.toArray, line, number⟩
where
  blankFields : Nat → List Char → List (List Char)
    | 0, _ => []
    | fuel + 1, s =>
      let isBlank (c : Char) : Bool := c == ' ' || c == '\t' || c == '\n'
      match s.dropWhile isBlank with
      | [] => []
      | c :: r =>
        let field := (c :: r).takeWhile fun c => !isBlank c
        field :: blankFields fuel ((c :: r).drop field.length)

def key (row : JoinRow) (place : Nat) : List Char := (row.fields[place - 1]?).getD []

def compareKeys (j : Joining) (x y : List Char) : Ordering :=
  let low (s : List Char) : List Char := if j.fold then s.map Char.toUpper else s
  List.compareLex Ord.compare (low x) (low y)

/-- A line of the output for a line of each text, of which one may be missing. -/
def text (j : Joining) (x y : Option JoinRow) : List Char :=
  let glue := j.separator.getD ' '
  let full (s : List Char) : List Char := if s.isEmpty then j.filler else s
  let shared := full (match x, y with
    | some r, _ => key r j.first
    | none, some r => key r j.second
    | none, none => [])
  let others (r : Option JoinRow) (place : Nat) : List (List Char) :=
    match r with
    | some r => (r.fields.toList.zipIdx.filter fun f => f.2 + 1 ≠ place).map fun f => full f.1
    | none => []
  let fields := match j.format with
    | some places =>
      places.map fun (file, place) =>
        if file = 0 then shared
        else
          let row := if file = 1 then x else y
          full ((row.bind fun r => r.fields[place - 1]?).getD [])
    | none => shared :: others x j.first ++ others y j.second
  List.intercalate [glue] fields

/-- What going through two texts of lines brings: a line of the output, or a line out of order. -/
abbrev Step := MergeStep (List Char ⊕ JoinRow)

def isGreater (j : Joining) (place : Nat) (x y : JoinRow) : Bool :=
  j.compareKeys (key x place) (key y place) == .gt

/-- Takes notice of lines that follow one. -/
def watch (j : Joining) (file : Nat) (w : OrderWatch) (x : JoinRow) (rows : List JoinRow) :
    OrderWatch × List Step :=
  let place := if file = 1 then j.first else j.second
  let (w, steps) := OrderWatch.seeAll (j.isGreater place) file w x rows
  (w, steps.map fun
    | .row y => .row (.inr y)
    | .disorder n y => .disorder n (.inr y))

/-- The lines that are left in one text when the other has ended. They are written if `shows` says so;
else they are read only as long as their order is to be checked. -/
def rest (j : Joining) (file : Nat) (shows : Bool) (written : JoinRow → List Char) :
    OrderWatch → JoinRow → List JoinRow → List Step
  | _, _, [] => []
  | w, x, y :: r =>
    let (w, steps) := j.watch file w x [y]
    if shows then steps ++ .row (.inl (written y)) :: j.rest file shows written w y r
    else if w.disordered.contains file then steps
    else steps ++ j.rest file shows written w y r

/-- Goes through two lists of lines at once. -/
def go (j : Joining) : Nat → OrderWatch → List JoinRow → List JoinRow → List Step
  | 0, _, _, _ => []
  | _ + 1, _, [], [] => []
  | _ + 1, w, x :: s, [] =>
    let written (x : JoinRow) : List Char := j.text (some x) none
    if j.unpairedFirst then .row (.inl (written x)) :: j.rest 1 true written w x s else j.rest 1 false written w x s
  | _ + 1, w, [], y :: t =>
    let written (y : JoinRow) : List Char := j.text none (some y)
    if j.unpairedSecond then .row (.inl (written y)) :: j.rest 2 true written w y t
    else j.rest 2 false written w y t
  | fuel + 1, w, x :: s, y :: t =>
    match j.compareKeys (key x j.first) (key y j.second) with
    | .lt =>
      let (w, steps) := j.watch 1 w x (s.take 1)
      (if j.unpairedFirst then [.row (.inl (j.text (some x) none))] else []) ++ steps ++
        j.go fuel { w with unpaired := true } s (y :: t)
    | .gt =>
      let (w, steps) := j.watch 2 w y (t.take 1)
      (if j.unpairedSecond then [.row (.inl (j.text none (some y)))] else []) ++ steps ++
        j.go fuel { w with unpaired := true } (x :: s) t
    | .eq =>
      let same (r : JoinRow) (place : Nat) : Bool := j.compareKeys (key r place) (key x j.first) == .eq
      let xs := s.takeWhile fun r => same r j.first
      let ys := t.takeWhile fun r => same r j.second
      let (w, some_) := j.watch 1 w x (s.take (xs.length + 1))
      let (w, others) := j.watch 2 w y (t.take (ys.length + 1))
      let pairs := if j.hidesPairs then []
        else (x :: xs).flatMap fun x => (y :: ys).map fun y => .row (.inl (j.text (some x) (some y)))
      some_ ++ others ++ pairs ++ j.go fuel w (s.drop xs.length) (t.drop ys.length)

end Joining

/-- The number of a field. -/
def joinPlace (s : String) : Except String Nat :=
  match countOf? s with
  | some (n + 1) => .ok (n + 1)
  | _ => .error ("invalid field number: " ++ quote s)

/-- The fields of an output such as `0,1.2,2.3`. -/
def joinFormat (s : String) : Except String (List (Nat × Nat)) :=
  let parts := (cutAt ',' (s.toList.map fun c => if c = ' ' ∨ c = '\t' then ',' else c)).filter (· ≠ [])
  parts.mapM fun p =>
    let text := String.ofList p
    match p with
    | ['0'] => .ok (0, 0)
    | '1' :: '.' :: r => (joinPlace (String.ofList r)).map fun n => (1, n)
    | '2' :: '.' :: r => (joinPlace (String.ofList r)).map fun n => (2, n)
    | c :: _ =>
      if "012".contains c then .error ("invalid field specifier: " ++ quote text)
      else .error ("invalid file number in field spec: " ++ quote text)
    | [] => .error ("invalid file number in field spec: " ++ quote text)

/-- What options say about how lines are brought together, with nothing said of their number of fields. -/
def joiningOf (a : Arguments) : Except String Joining := do
  let place (letters : String) : Except String Nat :=
    match a.options.reverse.find? fun o => letters.contains o.1 with
    | some (_, s) => joinPlace s
    | none => .ok 1
  let separators ← (a.values 't').mapM fun s =>
    match s.toList with
    | [] => .ok '\n'
    | [c] => .ok c
    | _ => if s = "\\0" then .ok (Char.ofNat 0) else .error ("multi-character tab " ++ quote s)
  if separators.any fun c => some c ≠ separators.head? then throw "incompatible tabs"
  let sides := a.values 'a' ++ a.values 'v'
  if let some s := sides.find? fun s => countOf? s ≠ some 1 ∧ countOf? s ≠ some 2 then
    throw ("invalid field number: " ++ quote s)
  let shows (n : Nat) : Bool := sides.any fun s => countOf? s == some n
  let formats := (a.values 'o').filter (· ≠ "auto")
  let format ← formats.mapM joinFormat
  return ⟨separators.head?, ← place "1j", ← place "2j", a.has 'i', ((a.value? 'e').getD "").toList,
    if formats.isEmpty then none else some format.flatten, shows 1, shows 2, a.has 'v'⟩

def join : Arguments → Tool Unit := fun a => do
  match a.operands, joiningOf a with
  | _, .error text => complain text
  | [m, n], .ok j =>
    match ← contentOf endless m, ← contentOf endless n with
    | .ok s, .ok t =>
      let ending := endingOfLines a
      let rows (text : String) : List JoinRow :=
        (linesEndedBy ending text.toList).zipIdx.map fun (line, i) => j.rowOf line (i + 1)
      let xs := rows s
      let ys := rows t
      let width (rows : List JoinRow) : Nat := (rows.head?.map fun r => r.fields.size).getD 0
      let auto (file key : Nat) (rows : List JoinRow) : List (Nat × Nat) :=
        ((List.range (width rows)).map (· + 1)).filterMap fun n => if n = key then none else some (file, n)
      let j := if (a.values 'o').contains "auto" then
          { j with format := some ((0, 0) :: auto 1 j.first xs ++ auto 2 j.second ys) } else j
      let (header, xs, ys) := match a.has 'η', xs, ys with
        | true, x :: xs, y :: ys => ([j.text (some x) (some y)], xs, ys)
        | true, x :: xs, [] => ([j.text (some x) none], xs, [])
        | true, [], y :: ys => ([j.text none (some y)], [], ys)
        | _, xs, ys => ([], xs, ys)
      let watch := OrderWatch.ofArguments a
      let steps := MergeStep.cut watch.check (j.go (xs.length + ys.length + 1) watch xs ys)
      header.forM fun r => put (String.ofList (r ++ [ending]))
      for step in steps do
        match step with
        | .row (.inl r) => put (String.ofList (r ++ [ending]))
        | .disorder file (.inr row) =>
          say ((if file = 1 then m else n) ++ ":" ++ toString row.number ++ ": is not sorted: " ++
            String.ofList row.line)
        | _ => pure ()
      endMerge watch.check steps
    | .error fault, _ => complain (ofFault m fault)
    | _, .error fault => complain (ofFault n fault)
  | [], .ok _ => misuse "missing operand"
  | [m], .ok _ => misuse ("missing operand after " ++ quote m)
  | _ :: _ :: x :: _, .ok _ => misuse ("extra operand " ++ quote x)

/-! ### Places of tabs -/

/-- Where tabs lead: a list of places, and what comes behind the last. -/
structure Tabs where
  stops : List Nat
  /-- Steps behind the last place: counted from there, or from the beginning of the line. -/
  step : Option (Bool × Nat)

/-- The place that a tab leads to; none behind all places. -/
def Tabs.next? (t : Tabs) (column : Nat) : Option Nat :=
  (t.stops.find? (column < ·)) <|> (t.step.map fun (fromLast, n) =>
    let start := if fromLast then t.stops.getLastD 0 else 0
    let n := max n 1
    column + (n - (column - start) % n))

/-- The numbers of a text such as `3,6,+4`, each with the sign in front of it. -/
def readTabNumbers : Option Char → Option Nat → List Char → Except String (List (Option Char × Nat))
  | sign, number, [] => .ok (number.map fun n => (sign, n)).toList
  | sign, number, c :: r =>
    if c = ',' ∨ c = ' ' ∨ c = '\t' then
      (readTabNumbers none none r).map fun more => (number.map fun n => (sign, n)).toList ++ more
    else if c = '/' ∨ c = '+' then
      if number.isSome then
        .error (quote c.toString ++ " specifier not at start of number: " ++ quote (String.ofList (c :: r)))
      else readTabNumbers (some c) none r
    else if c.isDigit then
      let n := number.getD 0 * 10 + digitOf c
      if Nat.pow 2 64 ≤ n then
        .error ("tab stop is too large " ++ quote (toString (n / 10) ++ String.ofList ((c :: r).takeWhile Char.isDigit)))
      else readTabNumbers sign (some n) r
    else .error ("tab size contains invalid character(s): " ++ quote (String.ofList (c :: r)))

/-- Places such as `4`, `3,6` or `2,+4`. -/
def readTabs (values : List String) : Except String Tabs := do
  let numbers := (← values.mapM fun s => readTabNumbers none none s.toList).flatten
  let places := numbers.filterMap fun (sign, n) => if sign.isNone then some n else none
  let steps := numbers.filterMap fun (sign, n) => sign.map fun c => (c, n)
  match steps with
  | (c, _) :: (d, _) :: _ =>
    throw (if c = d then quote c.toString ++ " specifier only allowed with the last value"
      else "'/' specifier is mutually exclusive with '+'")
  | _ => pure ()
  if places.contains 0 then throw "tab size cannot be 0"
  if (places.zip places.tail).any fun (x, y) => y ≤ x then throw "tab sizes must be ascending"
  match places, steps with
  | [n], [] => return ⟨[], some (false, n)⟩
  | [], [] => return ⟨[], some (false, 8)⟩
  | ns, steps => return ⟨ns, steps.head?.map fun (c, n) => (c == '+', n)⟩

/-- Options such as `-4` as options for tabs. -/
def withTabDigits : List String → List String :=
  mapOptions "t" fun s =>
    match s.toList with
    | '-' :: c :: r => if c.isDigit then ["-t", String.ofList (c :: r)] else [s]
    | _ => [s]

/-- A line with blanks in the place of tabs. -/
def expandRow (tabs : Tabs) (initial : Bool) : Bool → Nat → List Char → List Char
  | _, _, [] => []
  | converts, column, c :: r =>
    if c = '\t' ∧ converts then
      let next := (tabs.next? column).getD (column + 1)
      List.replicate (next - column) ' ' ++ expandRow tabs initial converts next r
    else
      let column := if c = '\x08' then column - 1 else column + 1
      c :: expandRow tabs initial (converts && (!initial || c == ' ' || c == '\t')) column r

def expand : Arguments → Tool Unit := fun a => do
  match readTabs (a.values 't') with
  | .error text => complain text
  | .ok tabs => do
    let text ← allContents a.operands
    for row in rows text.toList do
      put (String.ofList (expandRow tabs (a.has 'i') true 0 row))

/-- A line whose blanks become tabs, on its way. -/
structure Tabbing where
  column : Nat
  converts : Bool
  afterBlank : Bool
  /-- A single blank stands right before a place of a tab. -/
  oneBefore : Bool
  /-- Blanks that may become a tab. -/
  pending : List Char
  done : List Char

/-- Takes one more character. -/
def Tabbing.step (tabs : Tabs) (all : Bool) (t : Tabbing) (c : Char) : Tabbing :=
  let finish (t : Tabbing) (blank : Bool) (c : Char) : Tabbing :=
    let pending := if 1 < t.pending.length ∧ t.oneBefore then '\t' :: t.pending.drop 1 else t.pending
    { t with
      done := c :: (pending.reverse ++ t.done)
      pending := []
      oneBefore := if t.pending.isEmpty then t.oneBefore else false
      afterBlank := blank
      converts := t.converts && (all || blank) }
  if !t.converts then { t with done := c :: t.done }
  else if c = ' ' ∨ c = '\t' then
    match tabs.next? t.column with
    | none => finish { t with converts := false } true c
    | some next =>
      if c = '\t' then
        let pending := match t.pending with
          | _ :: _ => if t.oneBefore then ['\t'] else []
          | [] => []
        finish { t with column := next, pending } true c
      else
        let column := t.column + 1
        if t.afterBlank ∧ column = next then
          finish { t with column, pending := if t.oneBefore then ['\t'] else [] } true '\t'
        else
          { t with
            column
            oneBefore := t.oneBefore || column == next
            pending := t.pending ++ [c]
            afterBlank := true }
  else finish { t with column := if c = '\x08' then t.column - 1 else t.column + 1 } false c

def unexpand : Arguments → Tool Unit := fun a => do
  let all := (a.has 'a' || a.has 't') && !a.has 'φ'
  match readTabs (a.values 't') with
  | .error text => complain text
  | .ok tabs => do
    let text ← allContents a.operands
    for row in rows text.toList do
      let t := (chomp row).foldl (Tabbing.step tabs all) ⟨0, true, true, false, [], []⟩
      let pending := if 1 < t.pending.length ∧ t.oneBefore then '\t' :: t.pending.drop 1 else t.pending
      put (String.ofList (t.done.reverse ++ pending ++ if row.getLast? = some '\n' then ['\n'] else []))

/-! ### Widths -/

/-- The column behind a character. -/
def columnAfter (inBytes : Bool) (column : Nat) (c : Char) : Nat :=
  if inBytes then column + 1
  else if c = '\x08' then column - 1
  else if c = '\r' then 0
  else if c = '\t' then column + 8 - column % 8
  else column + 1

/-- A line in pieces that are not too wide; with `atBlanks` it is cut behind blanks where it has some. The
piece at hand is kept in reverse. -/
def foldRow (inBytes atBlanks : Bool) (width : Nat) : Nat → List Char → Nat → List Char → List (List Char)
  | 0, piece, _, s => [piece.reverse ++ s]
  | _ + 1, piece, _, [] => [piece.reverse]
  | fuel + 1, piece, column, c :: r =>
    let next := columnAfter inBytes column c
    if next ≤ width ∨ piece.isEmpty then foldRow inBytes atBlanks width fuel (c :: piece) next r
    else
      let tail := piece.takeWhile fun c => c ≠ ' ' && c ≠ '\t'
      if atBlanks ∧ tail.length < piece.length then
        let front := (piece.drop tail.length).reverse
        front :: foldRow inBytes atBlanks width fuel tail (tail.reverse.foldl (columnAfter inBytes) 0) (c :: r)
      else piece.reverse :: foldRow inBytes atBlanks width fuel [] 0 (c :: r)

/-- Options such as `-40` as options for the width. -/
def withWidthDigits : List String → List String :=
  mapOptions "wgp" fun s =>
    match s.toList with
    | '-' :: c :: r => if c.isDigit then ["-w", String.ofList (c :: r)] else [s]
    | _ => [s]

def fold : Arguments → Tool Unit := fun a => do
  match countWithin "invalid number of columns" ((a.value? 'w').getD "80") 1 (Nat.pow 2 64 - 10) with
  | .error text => complain text
  | .ok width => do
    let width := width.toNat
    eachContent a.operands fun _ text => do
      for row in rows text.toList do
        put ("\n".intercalate ((foldRow (a.has 'b') (a.has 's') width (4 * row.length + 4) [] 0 (chomp row)).map
          String.ofList))
        if row.getLast? = some '\n' then put "\n"

end PlanReuse.Script.Tool
