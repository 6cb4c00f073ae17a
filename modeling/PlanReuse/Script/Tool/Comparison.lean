import PlanReuse.Script.Changes
import PlanReuse.Script.Regex.Reader
import PlanReuse.Script.Tool.Lines
import PlanReuse.Script.Tool.Listing
import PlanReuse.Script.Tool.Names

/-!
# Comparing files

Tools that say where files differ: the first byte, all bytes, or the lines that would have to be changed.
-/

namespace PlanReuse.Script.Tool

/-! ### Bytes -/

/-- A byte as three octal digits. -/
def octalByte (c : Char) : String := padLeft 3 (String.ofList (Nat.toDigits 8 c.toNat))

/-- Sizes that are skipped in two files. -/
def skipSizes? (s : String) : Option (Nat × Nat) :=
  match (cutAt ':' s.toList).map fun p => sizeOf? (String.ofList p) with
  | [some m] => some (m, m)
  | [some m, some n] => some (m, n)
  | _ => none

/-- What is said of a text that ends before the other one does. -/
def cmpEnd (a : Arguments) (name : String) (read : List Char) : Tool Unit := do
  let lines := read.count '\n'
  let place :=
    if read.isEmpty then " which is empty"
    else " after byte " ++ toString read.length ++
      (if a.has 'l' then ""
        else if read.getLast? = some '\n' then ", line " ++ toString lines
        else ", in line " ++ toString (lines + 1))
  say ("EOF on " ++ name ++ place)

/-- Says where two texts differ. -/
def cmpTexts (a : Arguments) (m n : String) (s t : List Char) (width : Nat) : Tool Unit := do
  let pairs := s.zip t
  let same := (pairs.takeWhile fun (x, y) => x == y).length
  if same = s.length ∧ same = t.length then return ()
  setStatus 1
  if a.has 's' then return ()
  let shorter := if s.length < t.length then m else n
  let shown (c : Char) : String := String.ofList (visible c)
  if a.has 'l' then
    for ((x, y), i) in pairs.zipIdx do
      if x ≠ y then
        putLine (padLeft width (toString (i + 1)) ++ " " ++
          if a.has 'b' then octalByte x ++ " " ++ padRight 4 (shown x) ++ " " ++ octalByte y ++ " " ++ shown y
          else octalByte x ++ " " ++ octalByte y)
    if s.length ≠ t.length then cmpEnd a shorter (s.take (min s.length t.length))
  else
    match pairs.drop same with
    | [] => cmpEnd a shorter (s.take same)
    | (x, y) :: _ =>
      putLine (m ++ " " ++ n ++ " differ: " ++ (if a.has 'b' then "byte " else "char ") ++ toString (same + 1) ++ ", line " ++
        toString ((s.take same).count '\n' + 1) ++
        if a.has 'b' then " is " ++ octalByte x ++ " " ++ shown x ++ " " ++ octalByte y ++ " " ++ shown y else "")

def cmp : Arguments → Tool Unit := fun a => do
  let trouble (text : String) : Tool Unit := do
    misuse text
    setStatus 2
  if a.has 's' && a.has 'l' then
    trouble "options -l and -s are incompatible"
    return ()
  match a.operands with
  | [] => trouble "missing operand after 'cmp'"
  | m :: more =>
    let n := more.headD "-"
    let skips := ((a.values 'i').mapM skipSizes?).map fun ps =>
      ps.foldl (fun (m, n) (p, q) => (max m p, max n q)) (0, 0)
    let counts := more.tail.map sizeOf?
    let limit := (a.value? 'n').map sizeOf?
    match skips, counts, limit with
    | none, _, _ => trouble ("invalid --ignore-initial value " ++ quote ((a.value? 'i').getD ""))
    | _, _, some none => trouble ("invalid --bytes value " ++ quote ((a.value? 'n').getD ""))
    | some (p, q), counts, limit =>
      if counts.contains none then trouble ("invalid --ignore-initial value " ++ quote (more.getLastD ""))
      else
        let p := ((counts[0]?).join).getD p
        let q := ((counts[1]?).join).getD q
        let cut (skip : Nat) (text : String) : List Char :=
          let s := text.toList.drop skip
          match limit.join with
          | some k => s.take k
          | none => s
        match ← contentOf endless m with
        | .error fault =>
          say (ofFault m fault)
          setStatus 2
        | .ok s =>
          match ← contentOf endless n with
          | .error fault =>
            say (ofFault n fault)
            setStatus 2
          | .ok t =>
            let s := cut p s
            let t := cut q t
            cmpTexts a m n s t (toString (min s.length t.length)).length

/-! ### Lines that are taken for the same -/

/-- A row as far as it counts in a comparison. -/
def comparedRow (a : Arguments) (row : List Char) : List Char :=
  let isComplete := row.getLast? = some '\n'
  let body := chomp row
  let body := if a.has 'ρ' && body.getLast? == some '\r' then body.dropLast else body
  let dropBlanks (s : List Char) : List Char := (s.reverse.dropWhile isSpace).reverse
  let rec runs : Bool → List Char → List Char
    | _, [] => []
    | after, c :: r =>
      if isSpace c then (if after then runs true r else ' ' :: runs true r) else c :: runs false r
  let loose := a.has 'w' || a.has 'b' || a.has 'Z'
  let body := if a.has 'w' then body.filter fun c => !isSpace c
    else if a.has 'b' then runs false (dropBlanks body)
    else if a.has 'Z' then dropBlanks body else body
  let body := if a.has 'E' then
      (body.foldl (fun (column, out) c =>
        if c = '\t' then
          let n := 8 - column % 8
          (column + n, List.replicate n ' ' ++ out)
        else (column + 1, c :: out)) ((0 : Nat), ([] : List Char))).2.reverse
    else body
  let body := if a.has 'i' then body.map Char.toLower else body
  if isComplete || loose then body ++ ['\n'] else body

/-- The notations in which changes are shown. -/
inductive DiffStyle
  | normal
  | context (n : Nat)
  | unified (n : Nat)
  | ed
  | forwardEd
  | counted
  | sideBySide
  | formats

/-- Two texts that differ, and where. -/
structure Difference where
  xs : Array (List Char)
  ys : Array (List Char)
  hunks : List Changes.Hunk

namespace Difference

open Changes

def old (d : Difference) (first count : Nat) : List (List Char) := (d.xs.extract first (first + count)).toList

def new (d : Difference) (first count : Nat) : List (List Char) := (d.ys.extract first (first + count)).toList

/-- A row with a mark in front. A row without a line feed gets one, and a remark. -/
def marked (mark : String) (row : List Char) : String :=
  mark ++ String.ofList row ++
    if row.getLast? = some '\n' then "" else "\n\\ No newline at end of file\n"

def markedAll (mark : String) (rows : List (List Char)) : String := String.join (rows.map (marked mark))

/-- Line numbers from a place on; of no lines, the one before. -/
def range (separator : String) (first count : Nat) : String :=
  if 1 < count then toString (first + 1) ++ separator ++ toString (first + count)
  else toString (first + count)

def letter (h : Hunk) : String := if h.dropped = 0 then "a" else if h.added = 0 then "d" else "c"

def normalText (d : Difference) (gap : String) (h : Hunk) : String :=
  range "," h.first h.dropped ++ letter h ++ range "," h.second h.added ++ "\n" ++
    markedAll ("<" ++ gap) (d.old h.first h.dropped) ++
    (if h.dropped ≠ 0 ∧ h.added ≠ 0 then "---\n" else "") ++ markedAll (">" ++ gap) (d.new h.second h.added)

/-- Changes for an editor that reads its orders one after the other. -/
def edText (d : Difference) (h : Hunk) : String :=
  let body := (d.new h.second h.added).foldl (fun (isOpen, out) row =>
    let out := if isOpen then out else out ++ "a\n"
    if row = ['.', '\n'] then (false, out ++ "..\n.\ns/.//\n")
    else (true, out ++ marked "" row)) (true, "")
  range "," h.first h.dropped ++ letter h ++ "\n" ++
    if h.added = 0 then "" else body.2 ++ if body.1 then ".\n" else ""

def forwardEdText (d : Difference) (h : Hunk) : String :=
  letter h ++ range " " h.first h.dropped ++ "\n" ++
    if h.added = 0 then "" else markedAll "" (d.new h.second h.added) ++ ".\n"

def countedText (d : Difference) (h : Hunk) : String :=
  (if h.dropped = 0 then "" else "d" ++ toString (h.first + 1) ++ " " ++ toString h.dropped ++ "\n") ++
    if h.added = 0 then ""
    else "a" ++ toString (h.first + h.dropped) ++ " " ++ toString h.added ++ "\n" ++
      String.join ((d.new h.second h.added).map String.ofList)

/-- Changes that are shown together because only some lines are between them. -/
def groups (n : Nat) (skips : Hunk → Bool) : List Hunk → List (List Hunk)
  | [] => []
  | h :: hs =>
    match groups n skips hs with
    | (k :: ks) :: more =>
      let gap := if skips k then n else 2 * n + 1
      if k.first < h.first + h.dropped + gap then (h :: k :: ks) :: more else [h] :: (k :: ks) :: more
    | more => [h] :: more

/-- The rows around changes: where they start and how many there are, in both texts. -/
def around (d : Difference) (n : Nat) (hs : List Hunk) : Nat × Nat × Nat × Nat :=
  match hs.head?, hs.getLast? with
  | some h, some k =>
    let first := h.first - n
    let second := h.second - n
    let stop := min d.xs.size (k.first + k.dropped + n)
    let secondStop := min d.ys.size (k.second + k.added + n)
    (first, stop - first, second, secondStop - second)
  | _, _ => (0, 0, 0, 0)

/-- A range of a unified hunk. -/
def unifiedRange (first count : Nat) : String :=
  if count = 0 then toString first ++ ",0"
  else if count = 1 then toString (first + 1)
  else toString (first + 1) ++ "," ++ toString count

def unifiedText (d : Difference) (n : Nat) (mark : String → String) (part : Nat → String) (hs : List Hunk) : String :=
  let (first, count, second, secondCount) := d.around n hs
  let (at_, body) := hs.foldl (fun (at_, out) h =>
    (h.first + h.dropped,
      out ++ markedAll (mark " ") (d.old at_ (h.first - at_)) ++ markedAll (mark "-") (d.old h.first h.dropped) ++
        markedAll (mark "+") (d.new h.second h.added))) (first, "")
  "@@ -" ++ unifiedRange first count ++ " +" ++ unifiedRange second secondCount ++ " @@" ++ part first ++ "\n" ++ body ++
    markedAll (mark " ") (d.old at_ (first + count - at_))

def contextText (d : Difference) (n : Nat) (gap : String) (part : Nat → String) (hs : List Hunk) : String :=
  let (first, count, second, secondCount) := d.around n hs
  let side (rows : Array (List Char)) (first count : Nat) (part : Hunk → Nat × Nat × Nat) (lone : String) :
      String :=
    String.join ((List.range count).map fun k =>
      let i := first + k
      let mark := match hs.find? fun h => (part h).1 ≤ i && i < (part h).1 + (part h).2.1 with
        | some h => if (part h).2.2 = 0 then lone else "!"
        | none => " "
      marked (mark ++ gap) (rows.getD i []))
  let numbers (first count : Nat) : String :=
    if 1 < count then toString (first + 1) ++ "," ++ toString (first + count) else toString (first + count)
  "***************" ++ part first ++ "\n*** " ++ numbers first count ++ " ****\n" ++
    (if hs.any fun h => h.dropped ≠ 0 then side d.xs first count (fun h => (h.first, h.dropped, h.added)) "-" else "") ++
    "--- " ++ numbers second secondCount ++ " ----\n" ++
    if hs.any fun h => h.added ≠ 0 then side d.ys second secondCount (fun h => (h.second, h.added, h.dropped)) "+"
    else ""

/-! ### Side by side -/

/-- The places of two columns on a line. -/
structure Columns where
  half : Nat
  second : Nat
  expands : Bool

def columnsOf (width : Nat) (expands : Bool) : Columns :=
  let t := if expands then 1 else 8
  let sum := t + 3
  let place := width / 2 + sum / 2 + (if width % 2 = 1 ∧ sum % 2 = 1 then 1 else 0)
  let place := place - place % t
  let half := min (place - 3) (width - place)
  ⟨half, if half = 0 then width else place, expands⟩

/-- What leads from one column to another. -/
def gapText (c : Columns) : Nat → Nat → Nat → String
  | 0, _, _ => ""
  | fuel + 1, column, goal =>
    let next := column + 8 - column % 8
    if !c.expands ∧ next ≤ goal then "\t" ++ gapText c fuel next goal
    else String.ofList (List.replicate (goal - column) ' ')

/-- A row as far as it fits into its column, and where it ends. -/
def halfText (c : Columns) (row : List Char) : String × Nat :=
  let (text, _, column) := (chomp row).foldl (fun (text, read, column) ch =>
    if ch = '\t' then
      let spaces := 8 - read % 8
      let stop := column + spaces
      if read ≠ column then (text, read + spaces, column)
      else if c.expands then
        let stop := min stop c.half
        (text ++ String.ofList (List.replicate (stop - column) ' '), read + spaces, max stop column)
      else if stop < c.half then (text ++ "\t", read + spaces, stop)
      else (text, read + spaces, column)
    else if read < c.half then (text.push ch, read + 1, read + 1)
    else (text, read + 1, column)) ("", 0, 0)
  (text, column)

def besideText (c : Columns) (left : Option (List Char)) (sign : Char) (right : Option (List Char)) : String :=
  let complete (r : Option (List Char)) : Bool := r.any fun r => r.getLast? == some '\n'
  let (text, column) := match left with
    | some row => halfText c row
    | none => ("", 0)
  let (text, column) :=
    if sign = ' ' then (text, column)
    else
      let goal := (c.half + c.second - 1) / 2
      let sign := if sign = '|' ∧ complete left ≠ complete right then (if complete left then '/' else '\\') else sign
      (text ++ gapText c (goal + 1) column goal ++ sign.toString, goal + 1)
  let text := match right with
    | some row =>
      if chomp row = [] then text
      else text ++ gapText c (c.second + 1) column c.second ++ (halfText c row).1
    | none => text
  if complete left || complete right then text ++ "\n" else text

def sideText (d : Difference) (a : Arguments) (columns : Columns) : String :=
  let common (first count second secondCount : Nat) : String :=
    if a.has 'σ' then ""
    else
      let xs := d.old first count
      let ys := d.new second secondCount
      let paired := if a.has 'λ' then "" else
        String.join ((xs.zip ys).map fun (x, y) => besideText columns (some x) ' ' (some y)) ++
          String.join ((ys.drop xs.length).map fun y => besideText columns none ')' (some y))
      paired ++ String.join ((if a.has 'λ' then xs else xs.drop ys.length).map fun x =>
        besideText columns (some x) '(' none)
  let (i, j, text) := d.hunks.foldl (fun (i, j, text) h =>
    let both := min h.dropped h.added
    (h.first + h.dropped, h.second + h.added,
      text ++ common i (h.first - i) j (h.second - j) ++
        String.join (((d.old h.first both).zip (d.new h.second both)).map fun (x, y) =>
          besideText columns (some x) '|' (some y)) ++
        String.join ((d.new (h.second + both) (h.added - both)).map fun y => besideText columns none '>' (some y)) ++
        String.join ((d.old (h.first + both) (h.dropped - both)).map fun x => besideText columns (some x) '<' none)))
    (0, 0, "")
  text ++ common i (d.xs.size - i) j (d.ys.size - j)

/-! ### Formats -/

/-- A row in a format: `%L` is the row, `%l` the row without its line feed. -/
def rowFormat (number : Nat) (row : List Char) : List Char → List Char
  | '%' :: 'L' :: r => row ++ rowFormat number row r
  | '%' :: 'l' :: r => chomp row ++ rowFormat number row r
  | '%' :: '%' :: r => '%' :: rowFormat number row r
  | '%' :: 'd' :: 'n' :: r => (toString number).toList ++ rowFormat number row r
  | '%' :: 'c' :: '\'' :: c :: '\'' :: r => c :: rowFormat number row r
  | c :: r => c :: rowFormat number row r
  | [] => []

/-- A group of rows in a format: `%<` are the rows of the first text, `%>` those of the second, `%=` those of
both. -/
def groupFormat (old new same : List Char) (numbers : Char → Nat) : List Char → List Char
  | '%' :: '<' :: r => old ++ groupFormat old new same numbers r
  | '%' :: '>' :: r => new ++ groupFormat old new same numbers r
  | '%' :: '=' :: r => same ++ groupFormat old new same numbers r
  | '%' :: '%' :: r => '%' :: groupFormat old new same numbers r
  | '%' :: 'd' :: c :: r => (toString (numbers c)).toList ++ groupFormat old new same numbers r
  | '%' :: 'c' :: '\'' :: c :: '\'' :: r => c :: groupFormat old new same numbers r
  | c :: r => c :: groupFormat old new same numbers r
  | [] => []

def formatText (d : Difference) (a : Arguments) : String :=
  let line (c : Char) : List Char := ((a.value? c).or (a.value? 'Λ')).getD "%l\n" |>.toList
  let group (c : Char) (standard : String) : List Char := ((a.value? c).getD standard).toList
  let oldGroup := group 'ο' ((a.value? 'χ').getD "%<")
  let newGroup := group 'ν' ((a.value? 'χ').getD "%>")
  let bothGroup := group 'χ' (String.ofList (oldGroup ++ newGroup))
  let sameGroup := group 'υ' "%="
  let rows (format : List Char) (first : Nat) (rs : List (List Char)) : List Char :=
    (rs.zipIdx.map fun (r, i) => rowFormat (first + i + 1) r format).flatten
  let text (format : List Char) (isSame : Bool) (first count second added : Nat) : List Char :=
    let old := d.old first count
    let new := d.new second added
    groupFormat (rows (line 'Ο') first old) (rows (line 'Ν') second new)
      (if isSame then rows (line 'Υ') first old else []) (fun c =>
        match c with
        | 'f' => first + 1
        | 'l' => first + count
        | 'n' => count
        | 'e' => first
        | 'F' => second + 1
        | 'L' => second + added
        | 'N' => added
        | _ => second) format
  let (i, j, out) := d.hunks.foldl (fun (i, j, out) h =>
    let same := if i = h.first then [] else text sameGroup true i (h.first - i) j (h.second - j)
    let format := if h.dropped = 0 then newGroup else if h.added = 0 then oldGroup else bothGroup
    (h.first + h.dropped, h.second + h.added,
      out ++ same ++ text format false h.first h.dropped h.second h.added)) (0, 0, [])
  String.ofList (out ++ if i = d.xs.size then [] else text sameGroup true i (d.xs.size - i) j (d.ys.size - j))

end Difference

/-! ### Files and folders -/

/-- The notation that an option asks for; a letter stands for all options with the same one. -/
def styleOption? (c : Char) : Option Char :=
  if c = 'c' ∨ c = 'C' then some 'c'
  else if c = 'u' ∨ c = 'U' then some 'u'
  else if "efnyμ".contains c then some c
  else if "ΟΝΥΛονυχ".contains c then some 'Λ'
  else none

/-- What is wrong with how options ask for a notation. -/
def styleFault? (a : Arguments) : Option String :=
  let styles := (a.options.filterMap fun o => styleOption? o.1).eraseDups
  let unread (c : Char) : Option String := (a.values c).find? fun s => (countOf? s).isNone
  let unfit (s : String) : Bool := (countOf? s).all (· == 0)
  if 1 < styles.length then some "conflicting output style options"
  else match unread 'C', unread 'U', unread 'η', (a.values 'W').find? unfit with
    | some s, _, _, _ | none, some s, _, _ => some ("invalid context length '" ++ s ++ "'")
    | none, none, some s, _ => some ("invalid horizon length '" ++ s ++ "'")
    | none, none, none, some s => some ("invalid width '" ++ s ++ "'")
    | none, none, none, none =>
      if 1 < (a.values 'W').eraseDups.length then some "conflicting width options" else none

/-- The notation that options ask for. -/
def diffStyle (a : Arguments) : DiffStyle :=
  let wide (c : Char) : Nat := ((a.values c).filterMap countOf?).foldl max 0
  let isExplicit := a.has 'C' || a.has 'U'
  let given := max (if a.has 'c' || a.has 'u' || !isExplicit then 3 else 0) (max (wide 'C') (wide 'U'))
  let lines := match (a.value? 'ω').bind countOf? with
    | some k => if given < k ∨ !isExplicit then k else given
    | none => given
  match (a.options.filterMap fun o => styleOption? o.1).head? with
  | some 'c' => .context lines
  | some 'u' => .unified lines
  | some 'e' => .ed
  | some 'f' => .forwardEd
  | some 'n' => .counted
  | some 'y' => .sideBySide
  | some 'Λ' => .formats
  | some _ => .normal
  | none => if a.has 'p' || a.has 'F' then .context lines else .normal

/-- What stands in front of changes with lines around them. -/
def diffHeader (a : Arguments) (w : Work) (old new layout : String) (m n : String) : String :=
  let labels := a.values 'L'
  let line (mark name : String) (label : Option String) : String :=
    mark ++ " " ++ (match label with
      | some l => l
      | none =>
        let time := match if name = "-" then .error DiskFault.notFound else w.disk.find w.folder name with
          | .ok (p, e) => w.disk.timeOf (Disk.node p e)
          | .error _ => w.disk.clock
        name ++ "\t" ++ Moment.text .universal layout time) ++ "\n"
  line old m labels.head? ++ line new n (labels[1]?)

/-- The last line before a place that begins a part of the text, as it is shown behind a hunk's numbers. -/
def partLine (patterns : List Regex) (xs : Array (List Char)) (place : Nat) : String :=
  match (xs.toList.take place).reverse.find? fun row => patterns.any fun p => Regex.isIn false p (chomp row) with
  | none => ""
  | some row =>
    let body := ((chomp row).dropWhile isSpace).take 40
    " " ++ String.ofList (body.reverse.dropWhile isSpace).reverse

/-- A row with blanks in the place of tabs. -/
def untabbed (row : List Char) : List Char :=
  (row.foldl (fun ((column : Nat), (out : List Char)) c =>
    if c = '\t' then
      let n := 8 - column % 8
      (column + n, List.replicate n ' ' ++ out)
    else if c = '\r' then (0, c :: out)
    else if c = '\x08' then (column - 1, if column = 0 then out else c :: out)
    else (if isPrinted c then column + 1 else column, c :: out)) (0, [])).2.reverse

/-- Whether the changes of a hunk count for nothing. -/
def isIgnored (a : Arguments) (patterns : List Regex) (d : Difference) (h : Changes.Hunk) : Bool :=
  let blank (row : List Char) : Bool :=
    let body := chomp row
    a.has 'B' && (body.isEmpty || (a.has 'w' || a.has 'b' || a.has 'Z') && body.all isSpace)
  (a.has 'B' || !patterns.isEmpty) &&
    (d.old h.first h.dropped ++ d.new h.second h.added).all fun row =>
      blank row || patterns.any fun p => Regex.isIn false p (chomp row)

/-- Compares two texts and shows how they differ; the status. The line in front is shown before anything
else. -/
def diffTexts (a : Arguments) (front m n s t : String) : Tool Nat := do
  let w ← get
  let label (name : String) (i : Nat) : String := ((a.values 'L')[i]?).getD name
  let pair := label m 0 ++ " and " ++ label n 1
  let style := diffStyle a
  let showsSame := match style with
    | .sideBySide | .formats => true
    | _ => false
  if s == t && !(showsSame && !a.has 'q') then
    if a.has 's' then putLine ("Files " ++ pair ++ " are identical")
    return 0
  let isBinary (s : String) : Bool := s.toList.any fun c => c.toNat = 0
  if !a.has 'a' && (isBinary s || isBinary t) && s != t then
    putLine ((if a.has 'q' then "Files " else "Binary files ") ++ pair ++ " differ")
    return if a.has 'q' then 1 else 2
  let xs := rows s.toList
  let ys := rows t.toList
  let lines := match style with
    | .context k | .unified k => k
    | _ => 0
  let isOpen (rs : List (List Char)) : Bool := (rs.getLast?).any fun r => r.getLast? != some '\n'
  let kinds := Changes.kindsOf ((xs ++ ys).map (comparedRow a))
  let horizon := max lines (((a.value? 'η').bind countOf?).getD 0)
  let hunks := Changes.ofRows (a.has 'd') horizon (isOpen xs != isOpen ys) xs ys kinds
  let all : Difference := ⟨xs.toArray, ys.toArray, hunks⟩
  let patterns := (a.values 'I').filterMap (Regex.ofText? false)
  let counts := hunks.filter fun h => !isIgnored a patterns all h
  if counts.isEmpty && !showsSame then
    if a.has 's' then putLine ("Files " ++ pair ++ " are identical")
    return 0
  let status := if counts.isEmpty then 0 else 1
  if a.has 'q' then
    if status = 1 then putLine ("Files " ++ pair ++ " differ")
    return status
  let display (rs : Array (List Char)) : Array (List Char) := if a.has 't' then rs.map untabbed else rs
  let d : Difference := ⟨display all.xs, display all.ys, counts⟩
  let heads := (if a.has 'p' then ["^[[:alpha:]$_]"] else []) ++ a.values 'F'
  let part := partLine (heads.filterMap (Regex.ofText? false)) all.xs
  let gap := if a.has 'T' then "\t" else " "
  let text := match style with
    | .normal => String.join (counts.map (d.normalText gap))
    | .ed => String.join (counts.reverse.map d.edText)
    | .forwardEd => String.join (counts.map d.forwardEdText)
    | .counted => String.join (counts.map d.countedText)
    | .context k =>
      let groups := (Difference.groups k (isIgnored a patterns all) hunks).filter fun g =>
        !g.all (isIgnored a patterns all)
      diffHeader a w "***" "---" "%a %b %e %H:%M:%S %Y" m n ++ String.join (groups.map (d.contextText k gap part))
    | .unified k =>
      let groups := (Difference.groups k (isIgnored a patterns all) hunks).filter fun g =>
        !g.all (isIgnored a patterns all)
      diffHeader a w "---" "+++" "%Y-%m-%d %H:%M:%S.%N %z" m n ++
        String.join (groups.map (d.unifiedText k (fun mark => if a.has 'T' then mark ++ "\t" else mark) part))
    | .sideBySide => { all with hunks := counts }.sideText a (Difference.columnsOf (((a.value? 'W').bind countOf?).getD 130) (a.has 't'))
    | .formats => d.formatText a
  put (front ++ text)
  let needsEnds := match style with
    | .ed | .forwardEd => true
    | _ => false
  let open_ := if needsEnds then [(m, xs), (n, ys)].filter fun f => isOpen f.2 else []
  open_.forM fun (name, _) =>
    say (label name (if name = m then 0 else 1) ++ ": No newline at end of file\n")
  return if open_.isEmpty then status else 2

/-- The files of two folders in turn: those of both are compared, others are only told. -/
def diffFolders (a : Arguments) (compare : String → String → Tool Nat) (m n : String) : Tool Nat := do
  let w ← get
  let names (s : String) : List String :=
    match w.disk.find w.folder s with
    | .ok (p, .folder) => (w.disk.names p).filter fun x =>
        !(a.values 'x').any fun pattern => fits (patternOf (pattern.toList.map fun c => (c, false))) x.toList
    | _ => []
  let xs := names m
  let ys := names n
  let all := (xs ++ ys.filter fun y => !xs.contains y).mergeSort fun x y => decide (x ≤ y)
  let mut status := 0
  for name in all do
    let old := inside m name
    let new := inside n name
    let isFolder (s : String) : Bool := w.disk.isFolder w.folder s
    if xs.contains name && ys.contains name then status := max status (← compare old new)
    else if a.has 'N' && (a.has 'r' || !isFolder (if xs.contains name then old else new)) then
      status := max status (← compare old new)
    else
      putLine ("Only in " ++ (if xs.contains name then m else n) ++ ": " ++ name)
      status := max status 1
  return status

/-- Compares two files or folders; `isDeep` says whether they lie in folders that are compared. -/
def diffPair (a : Arguments) (switches : List String) : Nat → Bool → String → String → Tool Nat
  | 0, _, _, _ => return 2
  | fuel + 1, isDeep, m, n => do
    let w ← get
    let isFolder (s : String) : Bool := s ≠ "-" && w.disk.isFolder w.folder s
    let isMissing (s : String) : Bool := s ≠ "-" && (w.disk.find w.folder s).toOption.isNone
    let treats (s other : String) : Bool := isFolder s || a.has 'N' && isMissing s && isFolder other
    if treats m n && treats n m && (isFolder m || isFolder n) then
      if isDeep && !a.has 'r' then
        putLine ("Common subdirectories: " ++ m ++ " and " ++ n)
        return 0
      else diffFolders a (diffPair a switches fuel true) m n
    else if isDeep && (isFolder m || isFolder n) then
      let kind (s : String) : String :=
        if isFolder s then "directory"
        else match w.disk.readFile w.folder s with
          | .ok ⟨"", 0, _⟩ => "regular empty file"
          | _ => "regular file"
      putLine ("File " ++ m ++ " is a " ++ kind m ++ " while file " ++ n ++ " is a " ++ kind n)
      return 1
    else
      let m' := if isFolder m then inside m (lastName n) else m
      let n' := if isFolder n then inside n (lastName m) else n
      let content (s other : String) : Tool (Except DiskFault String) := do
        if a.has 'N' && isMissing s && !isMissing other then return .ok ""
        contentOf endless s
      let old ← content m' n'
      let new ← content n' m'
      match old, new with
      | .ok s, .ok t =>
        let front := if isDeep then " ".intercalate ("diff" :: switches ++ [m', n']) ++ "\n" else ""
        diffTexts a front m' n' s t
      | _, _ =>
        let tell (name : String) : Except DiskFault String → Tool Unit
          | .error fault => say (ofFault name fault)
          | .ok _ => return ()
        tell m' old
        tell n' new
        return 2

/-- Short counts of lines, such as `-2` or `-u2`, and long names without a count, written out. -/
def withContextCounts : List String → List String :=
  mapOptions "CULIxXSFW" fun s =>
    if s = "--unified" then ["-u"]
    else if s = "--context" then ["-c"]
    else if s.startsWith "--unified=" then ["-U" ++ (s.drop 10).toString]
    else if s.startsWith "--context=" then ["-C" ++ (s.drop 10).toString]
    else
      match s.toList with
      | '-' :: r =>
        let digits := r.filter Char.isDigit
        let letters := r.filter fun c => !c.isDigit
        if digits.isEmpty || letters.any (fun c => !"cunpqrsiwbBEZaNtTyd".contains c) then [s]
        else
          (if letters.isEmpty then [] else [String.ofList ('-' :: letters)]) ++
            ["--context lines=" ++ String.ofList digits]
      | _ => [s]

def diff (arguments : List String) : Arguments → Tool Unit := fun a => do
  let trouble (text : String) : Tool Unit := do
    misuse text
    setStatus 2
  let switches := arguments.filter fun s => !a.operands.contains s
  if let some text := styleFault? a then
    trouble text
    return ()
  match a.operands with
  | [m, n] => setStatus (← diffPair a switches 40 false m n)
  | [] => trouble "missing operand after 'diff'"
  | [m] => trouble ("missing operand after " ++ quote m)
  | _ :: _ :: extra :: _ => trouble ("extra operand " ++ quote extra)

end PlanReuse.Script.Tool
