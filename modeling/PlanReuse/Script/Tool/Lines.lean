import PlanReuse.Script.Regex.Reader
import PlanReuse.Script.Tool.Basic

/-!
# Lines

Tools that show texts line by line: all lines, those at an end, in another order, counted or numbered.
-/

namespace PlanReuse.Script.Tool

def joined (rows : List (List Char)) : String := String.ofList rows.flatten

/-- A line with a line feed. -/
def ended (row : List Char) : List Char := chomp row ++ ['\n']

/-- The pieces of a text, each with the sign that ends it; the last one may lack it. -/
def piecesOf (ending : Char) : List Char → List (List Char)
  | [] => []
  | c :: r =>
    if c = ending then [c] :: piecesOf ending r
    else
      match piecesOf ending r with
      | [] => [[c]]
      | p :: more => (c :: p) :: more

/-- The sign that ends a line, which an option makes a zero. -/
def endingOfLines (a : Arguments) : Char := if a.has 'z' then Char.ofNat 0 else '\n'

/-- The lines of a text without the sign that ends them. -/
def linesEndedBy (ending : Char) (s : List Char) : List (List Char) :=
  (piecesOf ending s).map fun p => if p.getLast? = some ending then p.dropLast else p

/-! ### Whole texts -/

/-- A character with those that are not printed written in signs that are. -/
def visible (c : Char) : List Char :=
  let n := c.toNat
  let low (n : Nat) : List Char :=
    if n < 32 then ['^', Char.ofNat (n + 64)] else if n = 127 then ['^', '?'] else [Char.ofNat n]
  if n < 128 then low n else 'M' :: '-' :: low (n - 128)

/-- How lines are shown with their numbers and with signs for what is not printed. -/
structure Numbered where
  number : Nat
  afterEmpty : Bool
  /-- Whether the last line has not ended. -/
  isOpen : Bool

/-- The text of a line, and how the next one is shown. -/
def Numbered.show (a : Arguments) (n : Numbered) (row : List Char) : List Char × Numbered :=
  let ends := a.has 'E' || a.has 'A' || a.has 'e'
  let tabs := a.has 'T' || a.has 'A' || a.has 't'
  let signs := a.has 'v' || a.has 'A' || a.has 'e' || a.has 't'
  let isEmpty := row == ['\n'] && !n.isOpen
  let isEnded := row.getLast? == some '\n'
  if a.has 's' && isEmpty && n.afterEmpty then ([], n)
  else
    let counts := !n.isOpen && (if a.has 'b' then !isEmpty else a.has 'n')
    let body := (chomp row).flatMap fun c =>
      if c = '\t' then (if tabs then ['^', 'I'] else [c]) else if signs then visible c else [c]
    let body := if ends && !signs && body.getLast? == some '\r' && isEnded then body.dropLast ++ ['^', 'M'] else body
    let digits := (toString n.number).toList
    ((if counts then List.replicate (6 - digits.length) ' ' ++ digits ++ ['\t'] else []) ++ body ++
        (if isEnded then (if ends then ['$', '\n'] else ['\n']) else []),
      ⟨if counts then n.number + 1 else n.number, isEmpty, !isEnded⟩)

def cat : Arguments → Tool Unit := fun a => do
  let isPlain := !"nbsETAevt".any a.has
  let mut shown : Numbered := ⟨1, false, false⟩
  let mut isWritten := false
  for name in if a.operands.isEmpty then ["-"] else a.operands do
    let isOutput := (← get).isOutput name
    match ← contentOf endless name with
    | .ok text =>
      if isOutput && !(text.isEmpty && !isWritten) then complain (name ++ ": input file is output file")
      else
        isWritten := isWritten || !text.isEmpty
        if isPlain then put text
        else
          for row in rows text.toList do
            let (line, next) := shown.show a row
            put (String.ofList line)
            shown := next
    | .error fault => complain (ofFault name fault)

def tee : Arguments → Tool Unit := fun a => do
  let w ← get
  let isLost := !a.has 'a' && a.operands.any fun name => { w with outputFile := w.inputFile }.isOutput name
  let text ← if isLost then pure "" else takeInput
  put text
  a.operands.forM fun name => do
    let _ ← putFile name name text (a.has 'a')

/-- Cuts a text behind, or in front of, every place where a separator ends or begins. -/
def cutBySeparator (length? : List Char → Option Nat) (before : Bool) : Nat → List Char → List Char →
    List (List Char)
  | 0, piece, s => [piece.reverse ++ s]
  | _ + 1, piece, [] => if piece.isEmpty then [] else [piece.reverse]
  | fuel + 1, piece, c :: r =>
    match length? (c :: r) with
    | some (n + 1) =>
      let sign := (c :: r).take (n + 1)
      let rest := (c :: r).drop (n + 1)
      if before then
        (if piece.isEmpty then [] else [piece.reverse]) ++ cutBySeparator length? before fuel sign.reverse rest
      else (piece.reverse ++ sign) :: cutBySeparator length? before fuel [] rest
    | _ => cutBySeparator length? before fuel (c :: piece) r

/-- The lines of a text from the last to the first. -/
def tac : Arguments → Tool Unit := fun a => do
  let separator := (a.value? 's').getD "\n"
  let regex := if a.has 'r' then Regex.ofText? false separator else none
  let length? (s : List Char) : Option Nat :=
    match regex with
    | some r => (Regex.matchAt? false r [] s).map fun q => s.length - q.after.length
    | none => if separator.toList.isPrefixOf s then some separator.length else none
  eachContent a.operands fun _ text => do
    let s := text.toList
    let pieces := if separator = "\n" ∧ !a.has 'b' then rows s else cutBySeparator length? (a.has 'b') (s.length + 1) [] s
    put (joined pieces.reverse)

def rev : Arguments → Tool Unit := fun a =>
  eachContent a.operands fun _ text =>
    put (joined ((rows text.toList).map fun r =>
      (chomp r).reverse ++ if r.getLast? = some '\n' then ['\n'] else []))

/-! ### Ends -/

/-- An old option in front of all others, such as `-5` or `-2kq`, as new ones. -/
def withOldHead : List String → Except String (List String)
  | [] => .ok []
  | s :: rest =>
    match s.toList with
    | '-' :: c :: r =>
      if !c.isDigit then .ok (s :: rest)
      else
        let digits := (c :: r).takeWhile Char.isDigit
        let letters := (c :: r).drop digits.length
        match letters.find? fun c => !"cbklmqvz".contains c with
        | some c => .error ("invalid trailing option -- " ++ c.toString)
        | none =>
          let kinds := letters.filter fun c => "cbklm".contains c
          let others := letters.filter fun c => "qvz".contains c
          let inBytes := kinds.getLast?.any (· ≠ 'l')
          let unit := ((kinds.filter (· ≠ 'l')).getLast?.filter (· ≠ 'c')).toList
          .ok ((if others.isEmpty then [] else [String.ofList ('-' :: others)]) ++
            (if inBytes then "-c" else "-n") :: String.ofList (digits ++ unit) :: rest)
    | _ => .ok (s :: rest)

/-- An old option in front of all others, such as `-5` or `+3c`, as a new one. It stands with one operand at
most. -/
def withOldTail (arguments : List String) : List String :=
  let isAlone := match arguments with
    | [_] => true
    | [_, t] => !(t.startsWith "-" && 1 < t.length)
    | _ => false
  let isMarked := arguments.length ≤ 3 && arguments[1]? == some "--"
  match arguments with
  | s :: rest =>
    if !(isAlone || isMarked) then arguments
    else
      let renew (sign : List Char) (r : List Char) : Option (List String) :=
        let digits := r.takeWhile Char.isDigit
        let (inBytes, unit, after) := match r.drop digits.length with
          | 'b' :: r => (true, ['b'], r)
          | 'c' :: r => (true, [], r)
          | 'l' :: r => (false, [], r)
          | r => (false, [], r)
        let option := [if inBytes then "-c" else "-n",
          String.ofList (sign ++ (if digits.isEmpty then "10".toList else digits) ++ unit)]
        if after.isEmpty then some option else if after = ['f'] then some ("-f" :: option) else none
      let renewed := match s.toList with
        | '+' :: r => renew ['+'] r
        | ['-'] | ['-', 'c'] => none
        | '-' :: r => renew [] r
        | _ => none
      (renewed.map (· ++ rest)).getD arguments
  | [] => []

/-- Puts what a function leaves of each text, with headers between several. What it does not leave of the
input stays there if `keeps` says so. -/
def eachEnd (a : Arguments) (limit : Nat) (keeps : Bool → Bool) (cut : List Char → List Char) : Tool Unit := do
  let headed := match a.lastOf "qv" with
    | some 'q' => false
    | some _ => true
    | none => a.operands.length > 1
  let names := if a.operands.isEmpty then ["-"] else a.operands
  let mut isFirst := true
  for name in names do
    let w ← get
    let isFolder := name ≠ "-" && w.disk.isFolder w.folder name
    let content ← if isFolder then pure (.ok "") else contentOf limit name
    match content with
    | .error fault => complain (ofFault ("cannot open " ++ quote name ++ " for reading") fault)
    | .ok text =>
      if headed then
        put ((if isFirst then "" else "\n") ++ "==> " ++
          (if name = "-" then "standard input" else name) ++ " <==\n")
      isFirst := false
      if isFolder then complain (ofFault ("error reading " ++ quote name) .isDirectory)
      let s := text.toList
      let shown := cut s
      if name = "-" ∧ keeps w.inputIsFile then modify fun w => { w with input := s.drop shown.length }
      put (String.ofList shown)

/-- The count that options ask for, with the sign in front of it. For the end of a text, one plus makes all
counts start at the front. -/
def wantedCount (isTail : Bool) (a : Arguments) (act : Bool → Char → Nat → Tool Unit) : Tool Unit :=
  let inBytes := a.lastOf "cn" == some 'c'
  let value := ((a.value? (if inBytes then 'c' else 'n')).getD "10").toList
  let isFromStart := isTail && (a.values 'c' ++ a.values 'n').any (·.startsWith "+")
  let (sign, digits) := match value with
    | '-' :: r => (if isFromStart then '+' else '-', r)
    | '+' :: r => ('+', r)
    | r => (if isFromStart then '+' else ' ', r)
  let fault (n : Option Int) : Tool Unit :=
    complain (countFault ("invalid number of " ++ if inBytes then "bytes" else "lines")
      (String.ofList (if sign = '-' then digits else value)) n)
  match sizeOf? (String.ofList digits) with
  | none => fault none
  | some n => if Nat.pow 2 64 ≤ n then fault (some n) else act inBytes sign n

def head : Arguments → Tool Unit := fun a =>
  match a.options.find? fun o => o.1.isDigit with
  | some (c, _) => misuse ("invalid trailing option -- " ++ c.toString)
  | none =>
    wantedCount false a fun inBytes sign n =>
      eachEnd a (max n endless) (· || inBytes && sign != '-') fun s =>
        if inBytes then if sign = '-' then s.take (s.length - n) else s.take n
        else
          let rs := piecesOf (endingOfLines a) s
          (if sign = '-' then rs.take (rs.length - n) else rs.take n).flatten

def tail : Arguments → Tool Unit := fun a => do
  if let some (c, _) := a.options.find? fun o => o.1.isDigit then
    complain ("option used in invalid context -- " ++ c.toString)
    return ()
  if let some s := (a.values 's').find? fun s => s.isEmpty || s.any fun c => !(c.isDigit || c == '.') then
    complain ("invalid number of seconds: " ++ quote s)
    return ()
  wantedCount true a fun inBytes sign n =>
    if n = 0 ∧ sign ≠ '+' then return ()
    else
      eachEnd a endless (fun _ => false) fun s =>
        if inBytes then if sign = '+' then s.drop (n - 1) else s.drop (s.length - n)
        else
          let rs := piecesOf (endingOfLines a) s
          (if sign = '+' then rs.drop (n - 1) else rs.drop (rs.length - n)).flatten

/-! ### Counts -/

/-- Whether a character takes a place on a line. -/
def isPrinted (c : Char) : Bool := 0x20 ≤ c.toNat && c.toNat < 0x7F

/-- The words of a text: signs between blanks of which one at least is printed. -/
def countWords (s : List Char) : Nat :=
  (s.foldl (fun (n, inside) c =>
    if isSpace c then (n, false)
    else if isPrinted c then (if inside then n else n + 1, true)
    else (n, inside)) (0, false)).1

/-- How many places the longest line takes. -/
def longestLine (s : List Char) : Nat :=
  let (longest, here) := s.foldl (fun (longest, here) c =>
    if c = '\n' ∨ c = '\r' ∨ c = '\x0c' then (max longest here, 0)
    else if c = '\t' then (longest, here + (8 - here % 8))
    else (longest, if isPrinted c then here + 1 else here)) (0, 0)
  max longest here

def wc : Arguments → Tool Unit := fun a => do
  let all := !(a.has 'l' || a.has 'w' || a.has 'c' || a.has 'm' || a.has 'L')
  let counts (s : List Char) : List Nat :=
    (if all || a.has 'l' then [s.count '\n'] else []) ++
      (if all || a.has 'w' then [countWords s] else []) ++
      (if a.has 'm' then [s.length] else []) ++ (if all || a.has 'c' then [s.length] else []) ++
      (if a.has 'L' then [longestLine s] else [])
  let listed ← match a.value? 'φ' with
    | some f => do
      match ← contentOf endless f with
      | .ok text => pure ((linesEndedBy (Char.ofNat 0) text.toList).map String.ofList)
      | .error fault =>
        complain (ofFault ("cannot open " ++ quote f ++ " for reading") fault)
        pure []
    | none => pure []
  let operands := a.operands ++ listed
  let names := if operands.isEmpty then ["-"] else operands
  let mut results : List (String × Except DiskFault (Bool × List Nat)) := []
  let mut total := 0
  let mut least := 1
  for name in names do
    let w ← get
    let isFolder := name ≠ "-" && w.disk.isFolder w.folder name
    let file? := if name = "-" then w.inputFile else match w.disk.find w.folder name with
      | .ok (_, .file n) => some n
      | _ => none
    match ← if isFolder then pure (.ok "") else contentOf endless name with
    | .error fault => results := (name, .error fault) :: results
    | .ok text =>
      match file? with
      | some n => total := total + ((w.disk.content? n).map Content.size).getD 0
      | none => least := 7
      results := (name, .ok (isFolder, counts text.toList)) :: results
  let shown := results.filterMap fun r => r.2.toOption.map Prod.snd
  let isSingle := names.length = 1 ∧ (shown.head?.map List.length) = some 1
  let isStreamed := a.value? 'φ' = some "-" ∧ !(← get).inputIsFile
  let width := if isSingle ∨ isStreamed then 1 else max least (toString total).length
  let line (name : String) (ns : List Nat) : Tool Unit :=
    putLine (" ".intercalate (ns.map fun n =>
      String.ofList (List.replicate (width - (toString n).length) ' ') ++ toString n) ++
        if name = "" then "" else " " ++ name)
  results.reverse.forM fun (name, result) => do
    match result with
    | .error fault => complain (ofFault name fault)
    | .ok (isFolder, ns) =>
      if isFolder then complain (ofFault name .isDirectory)
      line (if operands.isEmpty then "" else name) ns
  if names.length > 1 then
    let last := if a.has 'L' then 1 else 0
    let sums := shown.foldl (fun acc r =>
      if acc.isEmpty then r
      else (acc.zip r).zipIdx.map fun ((x, y), i) => if i + last = r.length then max x y else x + y) []
    line "total" (if sums.isEmpty then counts [] else sums)

/-! ### Numbers -/

/-- Which lines get a number. -/
inductive Numbering
  | all
  | notEmpty
  | none
  | matching (r : Regex)

def numbering? (s : String) : Option Numbering :=
  match s.toList with
  | ['a'] => some .all
  | ['t'] => some .notEmpty
  | ['n'] => some .none
  | 'p' :: r => (Regex.ofText? false (String.ofList r)).map .matching
  | _ => none

/-- A number in a column. -/
def numberText (layout : String) (width : Nat) (n : Int) : String :=
  let digits := toString n.natAbs
  let sign := if n < 0 then "-" else ""
  let missing := width - (sign.length + digits.length)
  if layout = "ln" then sign ++ digits ++ String.ofList (List.replicate missing ' ')
  else if layout = "rz" then sign ++ String.ofList (List.replicate missing '0') ++ digits
  else String.ofList (List.replicate missing ' ') ++ sign ++ digits

/-- The lines with their numbers. Lines of signs begin the head, the body and the foot of a page. -/
def nl : Arguments → Tool Unit := fun a => do
  let style (c : Char) (standard : String) : Option Numbering := numbering? ((a.value? c).getD standard)
  match style 'b' "t", style 'h' "n", style 'f' "n" with
  | some body, some header, some footer =>
    let given (c : Char) (about standard : String) (least most : Int) : Except String Int :=
      countWithin ("invalid " ++ about) ((a.value? c).getD standard) least most
    let word : Int := Nat.pow 2 63
    let numbers : Except String (Int × Int × Int × Int) := do
      return (← given 'w' "line number field width" "6" 1 (Nat.pow 2 31 - 1),
        ← given 'v' "starting line number" "1" (-word) (word - 1),
        ← given 'i' "line number increment" "1" (-word) (word - 1),
        ← given 'l' "line number of blank lines" "1" 1 (word - 1))
    match numbers with
    | .error text => complain text
    | .ok (width, start, step, group) =>
    let width := width.toNat
    let separator := (a.value? 's').getD "\t"
    let layout := (a.value? 'n').getD "rn"
    if !(["ln", "rn", "rz"].contains layout) then
      misuse ("invalid line numbering format: " ++ quote layout)
      return ()
    let mark := match ((a.value? 'd').getD "\\:").toList with
      | [c] => [c, ':']
      | m => m
    let mut number := start
    let mut kind := body
    let mut empties := 0
    for name in if a.operands.isEmpty then ["-"] else a.operands do
      match ← contentOf endless name with
      | .error fault => complain (ofFault name fault)
      | .ok text =>
        for row in linesOf text.toList do
          let section? := if mark.isEmpty then none
            else if row = mark ++ mark ++ mark then some 3
            else if row = mark ++ mark then some 2
            else if row = mark then some 1
            else none
          match section? with
          | some n =>
            putLine ""
            kind := if n = 3 then header else if n = 2 then body else footer
            if !a.has 'p' then number := start
          | none =>
            let blank := row.isEmpty
            let counted := match kind with
              | .all => !blank || decide (group ≤ ((empties + 1 : Nat) : Int))
              | .notEmpty => !blank
              | .none => false
              | .matching r => Regex.isIn false r row
            empties := if blank && !counted then empties + 1 else 0
            if counted then
              put (numberText layout width number ++ separator)
              number := number + step
            else put (String.ofList (List.replicate (width + separator.length) ' '))
            putLine (String.ofList row)
  | none, _, _ => misuse ("invalid body numbering style: " ++ quote ((a.value? 'b').getD ""))
  | _, none, _ => misuse ("invalid header numbering style: " ++ quote ((a.value? 'h').getD ""))
  | _, _, none => misuse ("invalid footer numbering style: " ++ quote ((a.value? 'f').getD ""))

/-- Lines without an end; as many as may be asked for. -/
def yes : Arguments → Tool Unit := fun a =>
  let line := (if a.operands.isEmpty then "y" else " ".intercalate a.operands) ++ "\n"
  put (String.join (List.replicate (endless / line.length + 1) line))

end PlanReuse.Script.Tool
