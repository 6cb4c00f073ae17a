import PlanReuse.Script.Format
import PlanReuse.Script.Regex.Reader
import PlanReuse.Script.Tool.Lines

/-!
# Pieces of files

Tools that cut a file into pieces and put each into a file of its own: pieces of one size, a number of
pieces, or pieces that end where lines match.
-/

namespace PlanReuse.Script.Tool

/-! ### Names of pieces -/

/-- How the files of pieces are named. -/
structure PieceNames where
  front : String
  letters : String
  width : Nat
  /-- Whether names grow longer when there are no more. -/
  grows : Bool
  first : Nat
  back : String

/-- A number in the letters of names. -/
def lettersOf (letters : String) (width n : Nat) : String :=
  let base := letters.length
  String.ofList ((List.range width).map fun i =>
    (letters.toList[n / Nat.pow base (width - 1 - i) % base]?).getD 'a')

namespace PieceNames

/-- The letters of the name with a number, if there is one. Names that grow leave the last letter for longer
ones. -/
def suffix? (p : PieceNames) : Nat → Nat → Nat → Option String
  | 0, _, _ => none
  | fuel + 1, depth, n =>
    let base := p.letters.length
    let width := p.width + depth
    let last := (p.letters.toList.getLast?).getD 'z'
    let lead := String.ofList (List.replicate depth last)
    if !p.grows then if n < Nat.pow base width then some (lettersOf p.letters width n) else none
    else
      let room := (base - 1) * Nat.pow base (width - 1)
      if n < room then some (lead ++ lettersOf p.letters width n) else suffix? p fuel (depth + 1) (n - room)

def name? (p : PieceNames) (n : Nat) : Option String :=
  (p.suffix? 20 0 (p.first + n)).map fun s => p.front ++ s ++ p.back

end PieceNames

/-! ### Pieces of one size -/

/-- How a text is cut. -/
inductive Cutting
  | lines (n : Nat)
  | bytes (n : Nat)
  /-- As many lines as fit into a number of bytes. -/
  | lineBytes (n : Nat)
  /-- A number of pieces, or one of them. -/
  | chunks (count : Nat) (wanted : Option Nat)
  /-- The same without breaking lines. -/
  | lineChunks (count : Nat) (wanted : Option Nat)
  /-- Lines in turn. -/
  | rounds (count : Nat) (wanted : Option Nat)

/-- Lines in pieces of at most so many bytes. -/
def fillPieces (limit : Nat) : Nat → List Char → List (List Char) → List (List Char)
  | 0, piece, _ => [piece]
  | _, piece, [] => if piece.isEmpty then [] else [piece]
  | fuel + 1, piece, row :: more =>
    if piece.length + row.length ≤ limit then fillPieces limit fuel (piece ++ row) more
    else if piece.isEmpty then row.take limit :: fillPieces limit fuel [] (row.drop limit :: more)
    else piece :: fillPieces limit fuel [] (row :: more)

/-- Pieces of a number of elements. -/
def everyFew {α : Type} (n : Nat) : Nat → List α → List (List α)
  | 0, _ => []
  | fuel + 1, s => if s.isEmpty then [] else s.take n :: everyFew n fuel (s.drop n)

def Cutting.pieces (c : Cutting) (separator : Char) (s : List Char) : List (List Char) :=
  let rows := piecesOf separator s
  let fuel := s.length + rows.length + 1
  match c with
  | .lines n => (everyFew n fuel rows).map List.flatten
  | .bytes n => everyFew n fuel s
  | .lineBytes n => fillPieces n (2 * fuel) [] rows
  | .chunks count _ =>
    let size := max s.length count / count
    (List.range count).map fun i =>
      if i + 1 = count then s.drop (i * size) else (s.drop (i * size)).take size
  | .lineChunks count _ =>
    let size := max s.length count / count
    let (_, placed) := rows.foldl (fun (at_, out) row => (at_ + row.length, (min (at_ / size) (count - 1), row) :: out))
      (0, ([] : List (Nat × List Char)))
    let placed := placed.reverse
    (List.range count).map fun i => ((placed.filter (·.1 = i)).map Prod.snd).flatten
  | .rounds count _ =>
    let placed := rows.zipIdx
    (List.range count).map fun i => ((placed.filter fun p => p.2 % count = i).map Prod.fst).flatten

def Cutting.wanted? : Cutting → Option Nat
  | .chunks _ k | .lineChunks _ k | .rounds _ k => k
  | _ => none

def Cutting.count? : Cutting → Option Nat
  | .chunks n _ | .lineChunks n _ | .rounds n _ => some n
  | _ => none

/-- The cutting that a text such as `l/2/5` describes. -/
def chunksOf? (text : String) : Except String Cutting :=
  let parts := (cutAt '/' text.toList).map String.ofList
  let make (kind : String) (parts : List String) : Except String Cutting :=
    let number (s : String) : Except String Nat :=
      match scanDigits 10 0 s.toList with
      | (n + 1, _, []) => .ok (n + 1)
      | _ => .error ("invalid number of chunks: " ++ quote s)
    let build (n : Nat) (k : Option Nat) : Cutting :=
      if kind = "l" then .lineChunks n k else if kind = "r" then .rounds n k else .chunks n k
    match parts with
    | [n] => do return build (← number n) none
    | [k, n] => do
      let n ← number n
      match scanDigits 10 0 k.toList with
      | (k + 1, _, []) =>
        if k + 1 ≤ n then return build n (some (k + 1)) else .error ("invalid chunk number: " ++ quote (toString (k + 1)))
      | _ => .error ("invalid chunk number: " ++ quote k)
    | _ => .error ("invalid number of chunks: " ++ quote text)
  match parts with
  | "l" :: rest => make "l" rest
  | "r" :: rest => make "r" rest
  | rest => make "" rest

/-- The cutting that options ask for. -/
def cuttingOf (a : Arguments) : Except String Cutting :=
  let size (c : Char) (about : String) : Except String Nat :=
    let text := (a.value? c).getD ""
    match sizeOf? text with
    | some (n + 1) => .ok (n + 1)
    | _ => .error ("invalid number of " ++ about ++ ": " ++ quote text)
  match a.options.map Prod.fst |>.filter fun c => "lbCn".contains c with
  | [] => .ok (.lines 1000)
  | [c] =>
    match c with
    | 'l' => (size 'l' "lines").map .lines
    | 'b' => (size 'b' "bytes").map .bytes
    | 'C' => (size 'C' "lines").map .lineBytes
    | _ => chunksOf? ((a.value? 'n').getD "")
  | _ => .error "cannot split in more than one way"

/-- Old counts such as `-5` as new ones. -/
def withLineDigits : List String → List String :=
  mapOptions "abClnt" fun s =>
    match s.toList with
    | '-' :: r => [if !r.isEmpty && r.all Char.isDigit then "-l" ++ String.ofList r else s]
    | _ => [s]

/-- Puts each piece into a file, or gives it to a command. -/
def putPieces (launch : Launcher) (a : Arguments) (names : PieceNames) (pieces : List (List Char)) : Tool Unit := do
  for (piece, i) in pieces.zipIdx do
    match names.name? i with
    | none =>
      complain "output file suffixes exhausted"
      return ()
    | some name =>
      if a.has 'β' then putLine ("creating file " ++ quote name)
      match a.value? 'φ' with
      | some command =>
        let input := (← get).input
        modify fun w => { w with input := piece }
        let _ ← launch ["env", "FILE=" ++ name, "sh", "-c", command]
        modify fun w => { w with input }
      | none => let _ ← putFile name name (String.ofList piece) false

def split (launch : Launcher) : Arguments → Tool Unit := fun a => do
  let fail (text : String) : Tool Unit := complain text
  let separator : Except String Char := match a.value? 't' with
    | none => .ok '\n'
    | some "" => .error "empty record separator"
    | some "\\0" => .ok (Char.ofNat 0)
    | some t => match t.toList with
      | [c] => .ok c
      | _ => .error ("multi-character separator " ++ quote t)
  match cuttingOf a, separator with
  | .error text, _ => if text.startsWith "cannot" then misuse text else fail text
  | _, .error text => fail text
  | .ok cutting, .ok separator =>
    let numeric := (a.has 'd' || a.has 'ν')
    let hex := a.has 'x' || a.has 'χ'
    let letters := if hex then "0123456789abcdef" else if numeric then "0123456789" else "abcdefghijklmnopqrstuvwxyz"
    let start := ((a.value? 'ν').or (a.value? 'χ')).filter (· ≠ "")
    let first := start.map fun s =>
      let (n, _, rest) := scanDigits letters.length 0 s.toList
      if rest.isEmpty then some n else none
    let width := (a.value? 'a').map countOf?
    match width, first, a.operands with
    | some none, _, _ => fail ("invalid suffix length: " ++ quote ((a.value? 'a').getD ""))
    | _, some none, _ => fail ((start.getD "") ++ ": invalid start value for numerical suffix")
    | _, _, _ :: _ :: extra :: _ => misuse ("extra operand " ++ quote extra)
    | width, first, operands =>
      let given := ((width.bind id).getD 0)
      let first := (first.bind id).getD 0
      let needed := match cutting.count? with
        | some n => (List.range 20).find? (fun k => n ≤ Nat.pow letters.length k) |>.getD 2
        | none => 0
      let names : PieceNames := {
        front := (operands[1]?).getD "x"
        letters
        width := if given ≠ 0 then given else max 2 (max needed (start.getD "").length)
        grows := given = 0 && start.isNone && cutting.count?.isNone
        first
        back := (a.value? 'σ').getD "" }
      if given ≠ 0 ∧ given < needed then
        fail ("the suffix length needs to be at least " ++ toString needed)
        return ()
      if (names.back.contains '/') then
        fail ("invalid suffix " ++ quote names.back ++ ", contains directory separator")
        return ()
      let input := operands.headD "-"
      match ← contentOf endless input with
      | .error fault => fail (ofFault ("cannot open " ++ quote input ++ " for reading") fault)
      | .ok text =>
        let sized := match cutting with
          | .chunks _ _ | .lineChunks _ _ => true
          | _ => false
        if sized && input = "-" && !(← get).inputIsFile then fail (input ++ ": cannot determine file size")
        else
          let pieces := cutting.pieces separator text.toList
          match cutting.wanted? with
          | some k => put (String.ofList ((pieces[k - 1]?).getD []))
          | none => putPieces launch a names (if a.has 'e' then pieces.filter fun p => !p.isEmpty else pieces)

/-! ### Pieces that end at matches -/

/-- Where a piece ends: before a line with a number, or near one that matches. -/
inductive PieceEnd
  | line (n : Nat)
  | pattern (r : Regex) (offset : Int) (skips : Bool)

/-- An end, how often it is wanted again, if not without end, and how it is written. -/
structure PieceRule where
  goal : PieceEnd
  again : Option Nat
  /-- Whether it has been said how often. -/
  isCounted : Bool
  text : String

/-- The end that an operand describes. -/
def pieceEnd (s : String) : Except String PieceEnd :=
  match s.toList with
  | c :: r =>
    if c = '/' ∨ c = '%' then
      match r.reverse.dropWhile (· ≠ c) with
      | _ :: pattern =>
        let offset := String.ofList (r.drop (pattern.length + 1))
        match Regex.ofText? false (String.ofList pattern.reverse),
            if offset = "" then some 0 else integerOf? 10 offset with
        | some e, some n => .ok (.pattern e n (c == '%'))
        | none, _ => .error (quote s ++ ": invalid regular expression: Invalid regular expression")
        | _, none => .error (quote s ++ ": integer expected after delimiter")
      | [] => .error (s ++ ": closing delimiter " ++ quote c.toString ++ " missing")
    else
      match scanDigits 10 0 s.toList with
      | (n + 1, _, []) => .ok (.line (n + 1))
      | (0, _ + 1, []) => .error (s ++ ": line number must be greater than zero")
      | _ => .error (quote s ++ ": invalid pattern")
  | [] => .error (quote s ++ ": invalid pattern")

/-- How often an end is wanted again that an operand in braces describes; none is without end. -/
def pieceAgain (s : String) : Except String (Option Nat) :=
  if !s.endsWith "\x7d" then .error (quote s ++ ": '\x7d' is required in repeat count")
  else
    let front := (s.dropEnd 1).toString
    if front = "\x7b*" then .ok none
    else
      match countOf? (front.drop 1).toString with
      | some n => .ok (some n)
      | none => .error (quote front ++ "\x7d: integer required between '\x7b' and '\x7d'")

/-- Reads the ends that operands describe; a count in braces belongs to the end before it. The numbers of
lines must not fall. Warnings come along. -/
def readPieceRules : Nat → List String → List PieceRule → List String → Except String (List PieceRule × List String)
  | _, [], rules, warnings => .ok (rules.reverse, warnings.reverse)
  | last, s :: rest, rules, warnings =>
    match s.startsWith "\x7b", rules with
    | true, rule :: rules =>
      match rule.isCounted, pieceAgain s with
      | true, _ => .error (quote s ++ ": invalid pattern")
      | false, .ok again => readPieceRules last rest ({ rule with again, isCounted := true } :: rules) warnings
      | false, .error text => .error text
    | _, rules =>
      match pieceEnd s with
      | .error text => .error text
      | .ok goal =>
        let number := match goal with
          | .line n => n
          | .pattern _ _ _ => last + 1
        let next := match goal with
          | .line n => n
          | .pattern _ _ _ => last
        if number < last then
          .error ("line number " ++ quote s ++ " is smaller than preceding line number, " ++ toString last)
        else
          readPieceRules next rest (⟨goal, some 0, false, s⟩ :: rules)
            (if number = last then
              ("warning: line number " ++ quote s ++ " is the same as preceding line number") :: warnings
            else warnings)

/-- A file that is being cut: the pieces so far, the latest first, how many lines have been taken, and the
line that was looked at last. -/
structure Dissection where
  pieces : List (List Char)
  taken : Nat
  looked : Nat

/-- How a step of cutting has gone: there is a next one, the file is at its end, or there is no such end. An
error may be told before the sizes of pieces that have been cut, or behind all but the last. -/
inductive Dissected
  | next (d : Dissection)
  | finished (d : Dissection)
  | failed (d : Dissection) (isEarly : Bool) (about : String)

namespace Dissection

variable (rows : Array (List Char)) (drops : Bool)

def text (first stop : Nat) : List Char := (rows.extract first stop).toList.flatten

/-- Takes the lines up to one. -/
def take (d : Dissection) (stop : Nat) (keeps : Bool) : Dissection :=
  { d with
    pieces := if keeps then text rows d.taken stop :: d.pieces else d.pieces
    taken := stop }

def step (d : Dissection) (rule : PieceRule) (round : Nat) : Dissected :=
  let failed (d : Dissection) (text : String) : Dissected :=
    .failed d true (quote rule.text ++ ": " ++ text ++
      if round = 0 then "" else " on repetition " ++ toString round)
  match rule.goal with
  | .line n =>
    let stop := n * (round + 1) - 1
    if drops && rows.size ≤ d.taken then
      if rule.again.isNone then .finished d else failed (d.take rows d.taken true) "line number out of range"
    else if rows.size < max stop d.taken then
      if rule.again.isNone then .finished d else failed (d.take rows rows.size true) "line number out of range"
    else
      let e := d.take rows (max stop d.taken) true
      let e := { e with taken := e.taken + if drops then 1 else 0, looked := max e.looked (e.taken + if drops then 1 else 0) }
      if rows.size ≤ e.taken && !drops then
        if rule.again.isNone then .finished d else failed e "line number out of range"
      else .next e
  | .pattern r offset skips =>
    let found := (List.range (rows.size - d.looked)).find? fun k =>
      Regex.isIn false r (chomp (rows.getD (d.looked + k) []))
    match found with
    | none =>
      if rule.again.isNone then
        if skips then .finished { d with taken := rows.size } else .finished d
      else failed (d.take rows rows.size (!skips)) "match not found"
    | some k =>
      let line := d.looked + k
      let stop := (line : Int) + offset
      if stop < d.taken || (rows.size : Int) < stop then
        let end_ := if stop < d.taken then d.taken else rows.size
        .failed (d.take rows end_ (!skips)) skips (quote rule.text ++ ": line number out of range")
      else
        let e := d.take rows stop.toNat (!skips)
        .next { e with
          looked := (if 0 < offset then stop.toNat else line) + 1
          taken := e.taken + if drops then 1 else 0 }

/-- Follows a rule as often as it says. -/
def follow (rule : PieceRule) : Nat → Nat → Dissection → Dissected
  | 0, _, d => .next d
  | fuel + 1, round, d =>
    match d.step rows drops rule round with
    | .next d => if rule.again.all fun n => round < n then follow rule fuel (round + 1) d else .next d
    | other => other

def followAll : List PieceRule → Dissection → Dissected
  | [], d => .finished d
  | r :: rs, d =>
    match d.follow rows drops r (rows.size + ((r.again.map (· + 1)).getD 0) + 2) 0 with
    | .next d => followAll rs d
    | other => other

end Dissection

def csplit : Arguments → Tool Unit := fun a => do
  match a.operands with
  | [] => misuse "missing operand"
  | [s] => misuse ("missing operand after " ++ quote s)
  | input :: patterns =>
    match readPieceRules 0 patterns [] [] with
    | .error text => complain text
    | .ok (rules, warnings) =>
      if let some n := (a.values 'n').find? fun n => (countOf? n).isNone then
        complain ("invalid number: " ++ quote n)
        return ()
      warnings.forM say
      match ← contentOf endless input with
      | .error fault => complain (ofFault ("cannot open " ++ quote input ++ " for reading") fault)
      | .ok text =>
        let width := ((a.value? 'n').bind countOf?).getD 2
        let name (i : Nat) : String :=
          (a.value? 'f').getD "xx" ++
            match a.value? 'b' with
            | some format => (Print.format true format [toString i]).output
            | none => String.ofList (Layout.integer { Layout.plain with zeros := true, width } i)
        let rows := (rows text.toList).toArray
        let (d, fault) := match Dissection.followAll rows (a.has 'σ') rules ⟨[], 0, 0⟩ with
          | .failed d isEarly about => (d, some (isEarly, about))
          | .finished d | .next d => (d.take rows rows.size true, none)
        let pieces := d.pieces.reverse.filter fun p => !(a.has 'z' && p.isEmpty)
        let tell (pieces : List (List Char)) : Tool Unit :=
          if a.has 's' || a.has 'q' then return () else pieces.forM fun p => putLine (toString p.length)
        match fault with
        | some (true, about) =>
          complain about
          tell pieces
        | some (false, about) =>
          tell pieces.dropLast
          complain about
          tell (pieces.drop (pieces.length - 1))
        | none => tell pieces
        if fault.isNone || a.has 'k' then
          for (p, i) in pieces.zipIdx do
            let _ ← putFile (name i) (name i) (String.ofList p) false

end PlanReuse.Script.Tool
