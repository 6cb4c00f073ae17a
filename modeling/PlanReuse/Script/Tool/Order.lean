import PlanReuse.Script.Tool.Listing
import PlanReuse.Script.Tool.Lines
import PlanReuse.Script.Number.Extended

/-!
# Orders of lines

Tools that sort lines by keys, tell lines from their neighbours and order things by what comes before
what.
-/

namespace PlanReuse.Script.Tool

/-! ### Keys -/

/-- A part of a line and how it is compared. Fields and characters are counted from zero. -/
structure SortKey where
  field : Nat
  sign : Nat
  /-- The last field and the number of its characters that count; zero characters are all of them. -/
  last : Option (Nat × Nat)
  /-- Whether blanks in front do not count at the start of the part, or at its end. -/
  blanksBefore : Bool
  blanksInside : Bool
  /-- The letters that say how it is compared. -/
  letters : List Char

namespace SortKey

/-- A line as a whole. -/
def whole : SortKey := ⟨0, 0, none, false, false, []⟩

def orderLetters : List Char := "dfghiMnRrV".toList

/-- Letters behind a place. -/
def withLetters (k : SortKey) (isStart : Bool) : List Char → SortKey × List Char
  | [] => (k, [])
  | c :: r =>
    if c = 'b' then
      (if isStart then { k with blanksBefore := true } else { k with blanksInside := true }).withLetters isStart r
    else if orderLetters.contains c then { k with letters := c :: k.letters }.withLetters isStart r
    else (k, c :: r)

def has (k : SortKey) (c : Char) : Bool := k.letters.contains c

/-- Whether nothing is said about the comparison. -/
def isPlain (k : SortKey) : Bool := k.letters.isEmpty && !k.blanksBefore && !k.blanksInside

/-- The letters that cannot stand together, if there are any. -/
def conflict? (k : SortKey) : Option String :=
  let kinds := "ghMn".toList.filter k.has
  let other := if k.has 'R' || k.has 'V' || k.has 'd' || k.has 'i' then 1 else 0
  if 1 < kinds.length + other then
    some (String.ofList ("dfghiMnRV".toList.filter fun c => k.has c && !(c = 'i' && k.has 'd')))
  else none

/-- A place such as `2.3`: the field and the character. -/
def readCount (about : String) (s : List Char) : Except String (Nat × List Char) :=
  match scanDigits 10 0 s with
  | (_, 0, _) => .error (about ++ ": invalid count at start of " ++ quote (String.ofList s))
  | (n, _, rest) => .ok (n, rest)

/-- The key that a text such as `2.3n,4` describes. -/
def ofText (text : String) : Except String SortKey := do
  let wrong {α : Type} (about : String) : Except String α :=
    .error (about ++ ": invalid field specification " ++ quote text)
  let (field, rest) ← readCount "invalid number at field start" text.toList
  if field = 0 then wrong "field number is zero"
  let (sign, rest) ← match rest with
    | '.' :: r => do
      let (n, rest) ← readCount "invalid number after '.'" r
      if n = 0 then wrong "character offset is zero"
      pure (n - 1, rest)
    | r => pure (0, r)
  let (k, rest) := { whole with field := field - 1, sign }.withLetters true rest
  match rest with
  | ',' :: r =>
    let (last, rest) ← readCount "invalid number after ','" r
    if last = 0 then wrong "field number is zero"
    let (count, rest) ← match rest with
      | '.' :: r => readCount "invalid number after '.'" r
      | r => pure (0, r)
    let (k, rest) := { k with last := some (last - 1, count) }.withLetters false rest
    if rest.isEmpty then return k else wrong "stray character in field spec"
  | [] => return k
  | _ => wrong "stray character in field spec"

def isFieldBlank (c : Char) : Bool := c == ' ' || c == '\t' || c == '\n'

/-- Where a field begins: how many characters are before it. -/
def skipFields (separator : Option Char) : Nat → Nat → List Char → Nat × List Char
  | 0, at_, s => (at_, s)
  | n + 1, at_, s =>
    let passed := match separator with
      | some c =>
        let field := s.takeWhile (· ≠ c)
        min s.length (field.length + 1)
      | none =>
        let blanks := (s.takeWhile isFieldBlank).length
        blanks + ((s.drop blanks).takeWhile fun c => !isFieldBlank c).length
    skipFields separator n (at_ + passed) (s.drop passed)

/-- The part of a line that a key is about. -/
def part (k : SortKey) (separator : Option Char) (row : List Char) : List Char :=
  let blanks (skips : Bool) (s : List Char) : Nat := if skips then (s.takeWhile isFieldBlank).length else 0
  let (start, rest) := skipFields separator k.field 0 row
  let start := min row.length (start + blanks k.blanksBefore rest + k.sign)
  let stop := match k.last with
    | none => row.length
    | some (field, 0) =>
      let (stop, _) := skipFields separator field 0 row
      match separator with
      | some c => stop + ((row.drop stop).takeWhile (· ≠ c)).length
      | none => (skipFields separator 1 stop (row.drop stop)).1
    | some (field, count) =>
      let (stop, rest) := skipFields separator field 0 row
      min row.length (stop + blanks k.blanksInside rest + count)
  (row.drop start).take (stop - start)

/-! ### Comparing -/

/-- The number in front of a text, as its whole part and the digits behind the point, and the rest. -/
def leadingNumber (s : List Char) : Bool × Nat × List Char × List Char :=
  let (negative, s) := match s with
    | '-' :: r => (true, r)
    | r => (false, r)
  let (whole, _, rest) := scanDigits 10 0 s
  let (places, rest) := match rest with
    | '.' :: r => (r.takeWhile Char.isDigit, r.dropWhile Char.isDigit)
    | r => ([], r)
  let places := (places.reverse.dropWhile (· == '0')).reverse
  (negative && (whole ≠ 0 || !places.isEmpty), whole, places, rest)

def numbers (s t : List Char) : Ordering :=
  let (m, a, p, _) := leadingNumber s
  let (n, b, q, _) := leadingNumber t
  let sizes := (Ord.compare a b).then (List.compareLex Ord.compare p q)
  match m, n with
  | false, false => sizes
  | true, true => sizes.swap
  | true, false => .lt
  | false, true => .gt

/-- The rank of the unit behind a number that is not zero. -/
def unitRank (s : List Char) : Int :=
  let (negative, whole, places, rest) := leadingNumber s
  let rank : Nat := match rest with
    | 'k' :: _ => 1
    | c :: _ => (("KMGTPEZY".toList.idxOf? c).map (· + 1)).getD 0
    | [] => 0
  if whole = 0 && places.isEmpty then 0 else if negative then -(rank : Int) else rank

def months : List String := ["JAN", "FEB", "MAR", "APR", "MAY", "JUN", "JUL", "AUG", "SEP", "OCT", "NOV", "DEC"]

/-- The month in front of a text; zero if there is none. -/
def monthOf (s : List Char) : Nat :=
  let name := String.ofList ((s.take 3).map Char.toUpper)
  ((months.idxOf? name).map (· + 1)).getD 0

/-- Numbers of all notations: what is no number first, then what stands for none. -/
def reals (s t : List Char) : Ordering :=
  match scanNumeral? true s, scanNumeral? true t with
  | none, none => .eq
  | none, some _ => .lt
  | some _, none => .gt
  | some (m, x, _), some (n, y, _) =>
    let x := x.extended m
    let y := y.extended n
    match x.compare? y with
    | some o => o
    | none => Ord.compare (decide (x.size ≠ .undefined)) (decide (y.size ≠ .undefined))

/-- A part of a line without what does not count in it. -/
def clean (k : SortKey) (s : List Char) : List Char :=
  let s := if k.has 'd' then s.filter fun c => c.isAlphanum || c == ' ' || c == '\t'
    else if k.has 'i' then s.filter isPrinted else s
  if k.has 'f' then s.map Char.toUpper else s

/-- Compares parts of lines that are clean. -/
def compare (k : SortKey) (s t : List Char) : Ordering :=
  let bare (s : List Char) : List Char := s.dropWhile isFieldBlank
  let o :=
    if k.has 'n' then numbers (bare s) (bare t)
    else if k.has 'g' then reals s t
    else if k.has 'h' then
      (Ord.compare (unitRank (bare s)) (unitRank (bare t))).then (numbers (bare s) (bare t))
    else if k.has 'M' then Ord.compare (monthOf (bare s)) (monthOf (bare t))
    else if k.has 'V' then versionOrder (String.ofList s) (String.ofList t)
    else List.compareLex Ord.compare s t
  if k.has 'r' then o.swap else o

end SortKey

/-! ### Sorting -/

/-- What is compared, in which order. -/
structure Sorting where
  keys : List SortKey
  separator : Option Char
  /-- Whether lines that are equal by their keys are compared as wholes. -/
  wholes : Bool
  reversed : Bool

/-- A line with the parts that its keys are about. -/
structure SortRow where
  line : List Char
  parts : List (List Char)

namespace Sorting

def row (s : Sorting) (line : List Char) : SortRow :=
  ⟨line, s.keys.map fun k => k.clean (k.part s.separator line)⟩

def byKeys (s : Sorting) (x y : SortRow) : Ordering :=
  (s.keys.zip (x.parts.zip y.parts)).foldl (fun o (k, p, q) => o.then (k.compare p q)) .eq

def compare (s : Sorting) (x y : SortRow) : Ordering :=
  let o := s.byKeys x y
  if !s.wholes && !s.keys.isEmpty then o
  else
    o.then (
      let o := List.compareLex Ord.compare x.line y.line
      if s.reversed then o.swap else o)

/-- Two texts in order as one. -/
def merge (s : Sorting) : Nat → List SortRow → List SortRow → List SortRow
  | 0, xs, ys => xs ++ ys
  | _ + 1, [], ys => ys
  | _ + 1, xs, [] => xs
  | fuel + 1, x :: xs, y :: ys =>
    if s.compare x y == .gt then y :: s.merge fuel (x :: xs) ys else x :: s.merge fuel xs (y :: ys)

/-- The first one of rows that are equal. -/
def distinct (s : Sorting) (rows : List SortRow) : List SortRow :=
  (rows.foldl (fun acc t =>
    match acc with
    | x :: _ => if s.compare x t == .eq then acc else t :: acc
    | [] => [t]) []).reverse

end Sorting

/-- What options say about an order. -/
def sortingOf (a : Arguments) : Except String Sorting := do
  let named : List (String × Char) :=
    [("general-numeric", 'g'), ("human-numeric", 'h'), ("month", 'M'), ("numeric", 'n'), ("random", 'R'),
      ("version", 'V')]
  let letters := a.options.filterMap fun o =>
    if o.1 = 'σ' then (choiceOf (named.map Prod.fst) o.2).bind fun w => named.lookup w else if SortKey.orderLetters.contains o.1 then some o.1 else none
  let general : SortKey := { SortKey.whole with letters, blanksBefore := a.has 'b', blanksInside := a.has 'b' }
  let given ← (a.values 'k').mapM SortKey.ofText
  let keys := given.map fun k =>
    if k.isPlain then
      { k with letters := general.letters, blanksBefore := general.blanksBefore, blanksInside := general.blanksInside }
    else k
  let keys := if keys.isEmpty && !(general.isPlain || general.letters.all (· == 'r') && !a.has 'b') then [general]
    else keys
  match keys.findSome? SortKey.conflict? with
  | some letters => throw ("options " ++ quote ("-" ++ letters) ++ " are incompatible")
  | none => pure ()
  let separators ← (a.values 't').mapM fun t =>
    match t.toList with
    | [] => .error "empty tab"
    | [c] => .ok c
    | _ => if t = "\\0" then .ok (Char.ofNat 0) else .error ("multi-character tab " ++ quote t)
  if separators.any fun c => some c ≠ separators.head? then throw "incompatible tabs"
  return ⟨keys, separators.head?, !(a.has 's' || a.has 'u'), general.has 'r'⟩

/-- Complains about the first line that is not in its place. -/
def checkOrder (a : Arguments) (s : Sorting) (quiet : Bool) (rows : List SortRow) : Tool Unit := do
  let pairs := rows.zip rows.tail
  let wrong := pairs.zipIdx.find? fun ((x, y), _) =>
    s.compare x y == .gt || (a.has 'u' && s.compare x y == .eq)
  match wrong with
  | some ((_, y), i) =>
    if !quiet then
      say ((a.operands.head?.getD "-") ++ ":" ++ toString (i + 2) ++ ": disorder: " ++ String.ofList y.line)
    setStatus 1
  | none => return ()

/-- The orders that an option names, and the ways to check them. -/
def orderWords : List String := ["general-numeric", "human-numeric", "month", "numeric", "random", "version"]

def checkWords : List String := ["quiet", "silent", "diagnose-first"]

def sort : Arguments → Tool Unit := fun a => do
  let fail (text : String) : Tool Unit := do
    say text
    setStatus 2
  if let some s := (a.values 'σ').find? fun s => (choiceOf orderWords s).isNone then
    misuseChoice "--sort" s orderWords
    return ()
  if let some s := (a.values 'χ').find? fun s => s ≠ "" ∧ (choiceOf checkWords s).isNone then
    misuseChoice "--check" s checkWords
    return ()
  if let some s := (a.values 'S').find? fun s => !s.toList.head?.any Char.isDigit then
    fail ("invalid -S argument " ++ quote s)
    return ()
  if (a.values 'β').any fun s => countOf? s == some 0 then
    fail "number in parallel must be nonzero"
    return ()
  if a.has 'c' && a.has 'C' then
    fail "options '-cC' are incompatible"
    return ()
  let quiet := match a.lastOf "cCχ" with
    | some 'C' => true
    | some 'χ' =>
      match choiceOf checkWords ((a.value? 'χ').getD "diagnose-first") with
      | some w => w ≠ "diagnose-first"
      | none => false
    | _ => false
  let checks := (a.lastOf "cCχ").isSome
  let outputs := a.values 'o'
  match sortingOf a with
  | .error text => fail text
  | .ok s =>
    if outputs.any fun o => some o ≠ outputs.head? then
      fail "multiple output files specified"
      return ()
    if checks && 1 < a.operands.length then
      fail ("extra operand " ++ quote ((a.operands[1]?).getD "") ++ " not allowed with -" ++ if quiet then "C" else "c")
      return ()
    if checks && !outputs.isEmpty then
      fail ("options '-" ++ (if quiet then "C" else "c") ++ "o' are incompatible")
      return ()
    let ending := endingOfLines a
    let listed ← match a.value? 'φ' with
      | some f => pure ((linesEndedBy (Char.ofNat 0) (← allContents [f]).toList).map String.ofList)
      | none => pure []
    let operands := a.operands ++ listed
    let mut texts : List (List SortRow) := []
    for name in if operands.isEmpty then ["-"] else operands do
      let w ← get
      match ← contentOf endless name with
      | .ok text => texts := (linesEndedBy ending text.toList).map s.row :: texts
      | .error .isDirectory =>
        if w.disk.isFolder w.folder name || name = "-" then
          fail (ofFault ("read failed: " ++ name) .isDirectory)
          return ()
      | .error fault =>
        fail (ofFault ("cannot read: " ++ name) fault)
        return ()
    let ordered := texts.reverse
    if checks then checkOrder a s quiet ordered.flatten
    else
      let sorted :=
        if a.has 'm' then ordered.foldl (fun xs ys => s.merge (xs.length + ys.length + 1) xs ys) []
        else ordered.flatten.mergeSort fun x y => s.compare x y != .gt
      let sorted := if a.has 'u' then s.distinct sorted else sorted
      let text := joined (sorted.map fun r => r.line ++ [ending])
      match outputs.head? with
      | some name =>
        if !(← putFile ("open failed: " ++ name) name text false) then setStatus 2
      | none => put text

/-! ### Neighbours -/

/-- Runs of lines that are equal in what counts. -/
def runsOf {α : Type} (key : α → List Char) : List α → List (List α)
  | [] => []
  | s :: r =>
    match runsOf key r with
    | (t :: ts) :: more => if key s = key t then (s :: t :: ts) :: more else [s] :: (t :: ts) :: more
    | more => [s] :: more

/-- Old counts such as `-2` as new ones. -/
def withOldSkips : List String → List String :=
  mapOptions "fsw" fun s =>
    match s.toList with
    | '-' :: r => [if !r.isEmpty && r.all Char.isDigit then "-f" ++ String.ofList r else s]
    | _ => [s]

def uniq : Arguments → Tool Unit := fun a => do
  let count (c : Char) (about : String) : Except String (Option Nat) :=
    match a.value? c with
    | none => .ok none
    | some v =>
      match scanDigits 10 0 v.toList with
      | (n, k + 1, []) => .ok (if k < 18 then some n else none)
      | _ => .error (v ++ ": invalid number of " ++ about)
  let repeats := match a.options.reverse.find? fun o => o.1 = 'D' || o.1 = 'Δ' with
    | some (_, v) => some (if v = "" then "none" else v)
    | none => none
  let grouping := a.value? 'γ' |>.map fun v => if v = "" then "separate" else v
  let repeatWords := ["none", "prepend", "separate"]
  let groupWords := ["prepend", "append", "separate", "both"]
  match count 'f' "fields to skip", count 's' "bytes to skip", count 'w' "bytes to compare" with
  | .error text, _, _ | _, .error text, _ | _, _, .error text => complain text
  | .ok fields, .ok signs, .ok width =>
    if repeats.any fun r => (choiceOf repeatWords r).isNone then
      misuseChoice "--all-repeated" (repeats.getD "") repeatWords
    else if grouping.any fun g => (choiceOf groupWords g).isNone then
      misuseChoice "--group" (grouping.getD "") groupWords
    else if 2 < a.operands.length then misuse ("extra operand " ++ quote ((a.operands[2]?).getD ""))
    else if grouping.isSome && (a.has 'c' || a.has 'd' || repeats.isSome || a.has 'u') then
      misuse "--group is mutually exclusive with -c/-d/-D/-u"
    else if a.has 'c' && repeats.isSome then
      misuse "printing all duplicated lines and repeat counts is meaningless"
    else
      let key (s : List Char) : List Char :=
        let s := (List.range (fields.getD 0)).foldl
          (fun s _ => (s.dropWhile SortKey.isFieldBlank).dropWhile fun c => !SortKey.isFieldBlank c) s
        let s := s.drop (signs.getD 0)
        let s := match width with
          | some n => s.take n
          | none => s
        if a.has 'i' then s.map Char.toUpper else s
      match ← contentOf endless (a.operands.headD "-") with
      | .error fault => complain (ofFault (a.operands.headD "-") fault)
      | .ok text =>
        let ending := endingOfLines a
        let gap := [[ending]]
        let runs := runsOf key (linesEndedBy ending text.toList)
        let line (s : List Char) : List Char := s ++ [ending]
        let pieces : List (List Char) :=
          match grouping.bind (choiceOf groupWords), repeats.bind (choiceOf repeatWords) with
          | some g, _ =>
            let groups := runs.zipIdx.map fun (r, i) =>
              (if g = "prepend" || g = "both" || i ≠ 0 then gap else []) ++ r.map line
            groups.flatten ++ if (g = "append" || g = "both") && !runs.isEmpty then gap else []
          | none, some r =>
            let groups := (runs.filter fun g => 1 < g.length).zipIdx.map fun (g, i) =>
              (if r = "prepend" || r = "separate" && i ≠ 0 then gap else []) ++
                (if a.has 'u' then g.dropLast else g).map line
            groups.flatten
          | none, none =>
            let kept := runs.filter fun g => (!a.has 'd' || 1 < g.length) && (!a.has 'u' || g.length = 1)
            kept.map fun g =>
              (if a.has 'c' then (padLeft 7 (toString g.length) ++ " ").toList else []) ++ line (g.headD [])
        let all := joined pieces
        match a.operands with
        | [_, out] => if out = "-" then put all else let _ ← putFile out out all false
        | _ => put all

/-! ### Before and behind -/

/-- A thing with the things that come behind it, the latest said first, and how many must come before
it. -/
structure Precedence where
  name : String
  behind : List String
  count : Nat
  isDone : Bool

namespace Precedence

def update (things : List Precedence) (name : String) (f : Precedence → Precedence) : List Precedence :=
  things.map fun t => if t.name = name then f t else t

/-- Things in the order of their names, with what pairs of names say. -/
def ofPairs (pairs : List (String × String)) : List Precedence :=
  let names := (pairs.flatMap fun (x, y) => [x, y]).foldl (fun ns n => if ns.contains n then ns else n :: ns) []
  let things := (names.mergeSort fun x y => decide (x ≤ y)).map fun n => Precedence.mk n [] 0 false
  pairs.foldl (fun things (x, y) =>
    if x = y then things
    else
      update (update things y fun t => { t with count := t.count + 1 }) x fun t =>
        { t with behind := y :: t.behind }) things

/-- Takes things that nothing comes before, one after the other. -/
def take : Nat → List String → List Precedence → List String × List Precedence
  | 0, _, things => ([], things)
  | _ + 1, [], things => ([], things)
  | fuel + 1, name :: queue, things =>
    let behind := ((things.find? fun t => t.name = name).map Precedence.behind).getD []
    let things := update things name fun t => { t with isDone := true }
    let (queue, things) := behind.foldl (fun (queue, things) n =>
      let things := update things n fun t => { t with count := t.count - 1 }
      let isFree := (things.find? fun t => t.name = n).any fun t => t.count = 0
      (if isFree then queue ++ [n] else queue, things)) (queue, things)
    let (names, things) := take fuel queue things
    (name :: names, things)

/-- A way back along what comes before what: the thing in hand, and to each thing the one that it was
found from. -/
structure Way where
  head : Option String
  links : List (String × String)

/-- Goes back to each thing that comes before the one in hand. A thing that has been found before closes
a loop. -/
def Way.walk (w : Way) : List Precedence → Way ⊕ (Way × String)
  | [] => .inl w
  | t :: ts =>
    match w.head with
    | none => if t.count = 0 then w.walk ts else { w with head := some t.name }.walk ts
    | some head =>
      if t.count = 0 || !t.behind.contains head then w.walk ts
      else if (w.links.lookup t.name).isSome then .inr (w, t.name)
      else Way.walk ⟨some t.name, (t.name, head) :: w.links⟩ ts

/-- The names from one thing to another. -/
def Way.names (w : Way) (last : String) : Nat → String → List String
  | 0, name => [name]
  | fuel + 1, name =>
    if name = last then [name]
    else
      match w.links.lookup name with
      | some next => name :: w.names last fuel next
      | none => [name]

/-- A loop among things: its names in order, of which the last comes before the first. -/
def findLoop (things : List Precedence) : Nat → Way → List String
  | 0, _ => []
  | fuel + 1, w =>
    match w.walk things with
    | .inl w => findLoop things fuel w
    | .inr (w, name) => w.names name things.length (w.head.getD "")

/-- All things in order. Loops are told and broken. -/
def order (file : String) : Nat → List Precedence → Tool Unit
  | 0, _ => return ()
  | fuel + 1, things => do
    let free := (things.filter fun t => t.count = 0 && !t.isDone).map Precedence.name
    let (names, things) := take (things.length + 1) free things
    names.forM putLine
    if things.any fun t => !t.isDone then
      complain (file ++ ": input contains a loop:")
      let loop := findLoop things (2 * things.length + 2) ⟨none, []⟩
      loop.forM complain
      let behind := loop.headD ""
      let before := loop.getLastD ""
      let things := update things behind fun t => { t with count := t.count - 1 }
      order file fuel (update things before fun t => { t with behind := t.behind.erase behind })

end Precedence

/-- Orders names so that of each pair the first one comes before the second. -/
def tsort : Arguments → Tool Unit := fun a => do
  if let _ :: x :: _ := a.operands then
    misuse ("extra operand " ++ quote x)
    return ()
  let file := a.operands.headD "-"
  match ← contentOf endless file with
  | .error fault => complain (ofFault file fault)
  | .ok text =>
    let words := ((text.toList.splitBy fun c d => isSpace c == isSpace d).filter fun w =>
      !w.any isSpace).map String.ofList
    if words.length % 2 = 1 then complain (file ++ ": input contains an odd number of tokens")
    else
      let rec pairs : List String → List (String × String)
        | x :: y :: more => (x, y) :: pairs more
        | _ => []
      let things := Precedence.ofPairs (pairs words)
      Precedence.order file (words.length + 1) things

/-- Lines in some order: the one that they have. -/
def shuf : Arguments → Tool Unit := fun a => do
  let ending := endingOfLines a
  let range : Option (Nat × Nat) := (a.value? 'i').bind fun s =>
    match scanDigits 10 0 s.toList with
    | (m, _ + 1, '-' :: r) =>
      match scanDigits 10 0 r with
      | (n, _ + 1, []) => if m ≤ n + 1 then some (m, n) else none
      | _ => none
    | _ => none
  let count := if (a.values 'n').isEmpty then none
    else some (((a.values 'n').mapM sizeOf?).map fun ns => ns.foldl min (ns.headD 0))
  if 1 < (a.values 'i').length then
    complain "multiple -i options specified"
    return ()
  if a.has 'e' && a.has 'i' then
    misuse "cannot combine -e and -i options"
    return ()
  if let some s := if a.has 'e' then none else (a.operands.drop (if a.has 'i' then 0 else 1)).head? then
    misuse ("extra operand " ++ quote s)
    return ()
  if a.has 'i' && range.isNone then complain ("invalid input range: " ++ quote ((a.value? 'i').getD ""))
  else if count = some none then complain ("invalid line count: " ++ quote ((a.value? 'n').getD ""))
  else
    let all : List (List Char) ← match range with
      | some (m, n) => pure ((List.range (n + 1 - m)).map fun k => (toString (m + k)).toList)
      | none =>
        if a.has 'e' then pure (a.operands.map String.toList)
        else do pure (linesEndedBy ending (← allContents a.operands).toList)
    let wanted := (count.join).getD all.length
    let chosen :=
      if a.has 'r' && !all.isEmpty then (List.range wanted).map fun i => (all[i % all.length]?).getD []
      else all.take wanted
    let text := joined (chosen.map (· ++ [ending]))
    match a.value? 'o' with
    | some name => let _ ← putFile name name text false
    | none => put text

end PlanReuse.Script.Tool
