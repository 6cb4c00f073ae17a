import PlanReuse.Script.Tool.Columns

/-!
# Filled paragraphs

A paragraph is broken into lines of about one length. Each way to break it has a cost: lines that are far
from the wanted length, or from that of the next line, cost more, and so do breaks in the middle of a
sentence. The cheapest breaks behind a word do not depend on those before it, so they are found from the
last word to the first.
-/

namespace PlanReuse.Script.Tool

/-- A word of a paragraph, with what matters for breaking lines. -/
structure FilledWord where
  text : List Char
  /-- The width of the blanks behind it. -/
  space : Nat
  paren : Bool
  period : Bool
  punct : Bool
  isFinal : Bool

/-- A way to break the rest of a paragraph: its cost, where the first line ends and how long it is. -/
structure Breaking where
  cost : Int
  next : Nat
  length : Int

/-! ### Costs -/

def square (n : Int) : Int := n * n

/-- What it costs to begin a line with a word. -/
def beginCost (words : Array FilledWord) (i : Nat) : Int :=
  match words[i]? with
  | none => 0
  | some this =>
    let before : Int :=
      if i = 0 then 0
      else
        match words[i - 1]? with
        | none => 0
        | some w =>
          if w.period then if w.isFinal then -(square 50) else square 600
          else if w.punct then -(square 40)
          else if 1 < i ∧ ((words[i - 2]?).any FilledWord.isFinal) then square 200 / (w.text.length + 2)
          else 0
    let own : Int := if this.paren then -(square 40)
      else if this.isFinal then square 150 / (this.text.length + 2)
      else 0
    square 70 + before + own

/-- The best ways to break a paragraph from each word on, from the last one to the first. The line before
the paragraph counts if it has a length. -/
def breakings (words : Array FilledWord) (first other width goal : Nat) (earlier : Int) : Array Breaking :=
  let count := words.size
  let start : Array Breaking := Array.replicate (count + 1) ⟨0, count, 0⟩
  (List.range count).reverse.foldl (fun table i =>
    let indent : Int := if i = 0 then first else other
    let rec go : Nat → Nat → Int → Option Breaking → Option Breaking
      | 0, _, _, best => best
      | fuel + 1, w, len, best =>
        let after := (table[w]?).getD ⟨0, count, 0⟩
        let cost : Int :=
          if w = count then 0
          else
            let short := square (10 * ((goal : Int) - len))
            short + if after.next = count then 0 else square (10 * (len - after.length)) / 2
        let cost := cost + after.cost
        let cost := if i = 0 ∧ 0 < earlier then cost + square (10 * (len - earlier)) / 2 else cost
        let best := match best with
          | some b => if cost < b.cost then some ⟨cost, w, len⟩ else some b
          | none => some ⟨cost, w, len⟩
        if w = count then best
        else
          let len := len + ((words[w - 1]?).map FilledWord.space).getD 1 +
            ((words[w]?).map fun x => x.text.length).getD 0
          if len < width then go fuel (w + 1) len best else best
    let len := indent + ((words[i]?).map fun x => x.text.length).getD 0
    match go (count + 1) (i + 1) len none with
    | some b => table.set! i { b with cost := b.cost + beginCost words i }
    | none => table) start

/-- The words of each line of a broken paragraph up to a word, and how long the last line is. -/
def brokenLines (words : Array FilledWord) (table : Array Breaking) (stop : Nat) :
    Nat → Nat → Int → List (List FilledWord) × Int
  | 0, _, length => ([], length)
  | fuel + 1, i, length =>
    if stop ≤ i then ([], length)
    else
      let b := (table[i]?).getD ⟨0, words.size, 0⟩
      let next := if b.next ≤ i then words.size else b.next
      let (lines, length) := brokenLines words table stop fuel next b.length
      ((words.extract i next).toList :: lines, length)

/-- The word at which a paragraph is best cut in two: where a line begins that is cheap, the later the
better. -/
def cuttingPoint (table : Array Breaking) (count : Nat) : Nat :=
  let costFrom (i : Nat) : Int := ((table[i]?).map Breaking.cost).getD 0
  let nextOf (i : Nat) : Nat := ((table[i]?).map Breaking.next).getD count
  let rec go : Nat → Nat → Option Int → Nat → Nat
    | 0, _, _, found => found
    | fuel + 1, i, best, found =>
      if count ≤ i then found
      else
        let cost := costFrom i - costFrom (nextOf i)
        if best.all fun b => cost < b then go fuel (nextOf i) (some (cost + 9)) i
        else go fuel (nextOf i) (best.map (· + 9)) found
  go (count + 1) (nextOf 0) none count

/-! ### Reading -/

/-- How paragraphs are filled. -/
structure Filling where
  /-- Whether the second line of a paragraph says how far the others are indented. -/
  crown : Bool
  /-- Whether the same holds, and the first line must be indented in another way. -/
  tagged : Bool
  /-- Whether lines are only broken. -/
  split : Bool
  /-- Whether there is one blank between words and two between sentences. -/
  uniform : Bool
  width : Nat
  goal : Nat
  /-- What each line of a paragraph begins with: blanks, a mark, and the width of the mark with the blanks
  behind it. -/
  lead : Nat
  mark : List Char
  markWidth : Nat

namespace Filling

/-- How a line begins. -/
structure Opening where
  /-- The column of the mark. -/
  indent : Nat
  /-- The column of what follows. -/
  column : Nat
  hasTab : Bool
  rest : List Char

/-- Passes blanks: the column behind them, whether there is a tab, and the rest. -/
def passBlanks (column : Nat) (s : List Char) : Nat × Bool × List Char :=
  let blanks := s.takeWhile fun c => c == ' ' || c == '\t'
  (blanks.foldl (fun n c => if c = '\t' then (n / 8 + 1) * 8 else n + 1) column, blanks.contains '\t',
    s.drop blanks.length)

/-- How much of the mark a line begins with. -/
def passMark : List Char → List Char → Nat × List Char
  | m :: mark, c :: s => if m = c then let (n, rest) := passMark mark s; (n + 1, rest) else (0, c :: s)
  | _, s => (0, s)

def openingOf (f : Filling) (s : List Char) : Opening :=
  let (column, hasTab, rest) := passBlanks 0 s
  if f.mark.isEmpty then ⟨min f.lead column, column, hasTab, rest⟩
  else
    let (n, rest) := passMark f.mark rest
    if n < f.mark.length then ⟨column, column + n, hasTab, rest⟩
    else
      let (end_, more, rest) := passBlanks (column + n) rest
      ⟨column, end_, hasTab || more, rest⟩

def Opening.isBlank (o : Opening) : Bool := o.rest.isEmpty || o.rest.head? == some '\n'

/-- Whether a line may go on with a paragraph whose mark has an indent. -/
def continues (f : Filling) (indent : Nat) (o : Opening) : Bool :=
  o.indent = indent && o.indent + f.markWidth ≤ o.column && !o.isBlank

/-- The words of a line, whether there is a tab between them, and what follows the line. -/
def wordsOfLine (f : Filling) : Nat → Nat → List Char → List FilledWord × Bool × List Char
  | 0, _, s => ([], false, s)
  | _ + 1, _, [] => ([], false, [])
  | fuel + 1, column, c :: s =>
    let more := s.takeWhile fun c => !isSpace c
    let word := c :: more
    let column := column + word.length
    let (behind, hasTab, rest) := passBlanks column (s.drop more.length)
    let ends := rest.isEmpty || rest.head? == some '\n'
    let space := behind - column
    let inner : Char := match more.reverse.dropWhile fun c => ")]'\"".contains c with
      | [] => c
      | d :: _ => d
    let period := ['.', '?', '!'].contains inner
    let isFinal := rest.isEmpty || period && (ends || 1 < space)
    let w : FilledWord :=
      { text := word
        space := if ends || f.uniform then (if isFinal then 2 else 1) else space
        paren := "(['\x60\"".contains c
        period
        punct := isInClass "punct" (word.getLast?.getD c)
        isFinal }
    if ends then ([w], hasTab, rest.drop 1)
    else
      let (words, tabs, rest) := f.wordsOfLine fuel behind rest
      (w :: words, hasTab || tabs, rest)

/-- The words of the lines that go on with a paragraph, and how the line behind them begins. -/
def moreWords (f : Filling) (indent column : Nat) : Nat → Opening → List FilledWord × Bool × Opening
  | 0, o => ([], false, o)
  | fuel + 1, o =>
    if f.continues indent o ∧ o.column = column then
      let (words, tabs, rest) := f.wordsOfLine ((o.rest.takeWhile (· ≠ '\n')).length + 1) o.column o.rest
      let next := f.openingOf rest
      let (more, others, last) := f.moreWords indent column fuel next
      (words ++ more, tabs || next.hasTab || others, last)
    else ([], false, o)

/-! ### Writing -/

/-- Blanks from one column to another; tabs stand for them if the text has some. -/
def blanks (tabs : Bool) (column target : Nat) : List Char :=
  let stop := target / 8 * 8
  if tabs ∧ column + 1 < stop then
    List.replicate (stop / 8 - column / 8) '\t' ++ List.replicate (target - stop) ' '
  else List.replicate (target - column) ' '

/-- The text of a line of a paragraph whose mark has an indent. -/
def lineText (f : Filling) (tabs : Bool) (indent column : Nat) (words : List FilledWord) : List Char :=
  let front := blanks tabs 0 indent ++ f.mark
  let start := max column (indent + f.mark.length)
  let rec go : Nat → List FilledWord → List Char
    | _, [] => []
    | _, [w] => w.text
    | n, w :: rest =>
      let n := n + w.text.length
      w.text ++ blanks tabs n (n + w.space) ++ go (n + w.space) rest
  front ++ blanks tabs (indent + f.mark.length) column ++ go start words ++ ['\n']

/-- What is written of a line that belongs to no paragraph, as far as it has been read. -/
def strayFront (f : Filling) (tabs : Bool) (o : Opening) : List Char :=
  if o.indent < o.column ∨ !o.isBlank then
    let mark := f.mark.take (o.column - o.indent)
    let behind := o.indent + mark.length
    blanks tabs 0 o.indent ++ mark ++ (if o.isBlank then [] else blanks tabs behind o.column) ++
      if o.rest.isEmpty ∧ o.indent + f.mark.length ≤ o.column then ['\n'] else []
  else []

/-- How far the lines of a paragraph behind the first are indented; `last` was it for the paragraph
before. -/
def otherIndent (f : Filling) (last first : Nat) (next : Opening) (isSame : Bool) : Nat :=
  if f.split then first
  else if f.crown then if isSame then next.column else first
  else if f.tagged then
    if isSame ∧ next.column ≠ first then next.column
    else if last = first then if first = 0 then 3 else 0
    else last
  else first

/-- How many characters and words of a paragraph are kept at most before its first lines are written. -/
def mostCharacters : Nat := 5000

def mostWords : Nat := 998

/-- A paragraph in the making: what has been written of it, the latest first, the words that are kept with
their number of characters, and the length of the last line that has been written. -/
structure Heap where
  written : List (List Char)
  words : Array FilledWord
  size : Nat
  length : Int

/-- Writes lines of the words that are kept, all of them or those up to the best place. -/
def writeLines (line : List FilledWord → Bool → List Char) (first other width goal : Nat) (isLast : Bool)
    (h : Heap) : Heap :=
  let count := h.words.size
  let table := breakings h.words first other width goal h.length
  let stop := if isLast then count else cuttingPoint table count
  let (lines, length) := brokenLines h.words table stop (count + 1) 0 h.length
  let kept := h.words.extract stop count
  { written := (lines.zipIdx.map fun (ws, i) => line ws (i = 0)).reverse ++ h.written
    words := kept
    size := kept.foldl (fun n w => n + w.text.length) 0
    length }

/-- Adds a word; if there is no room for it, some lines are written first. A word that has no room alone is
written as it is. -/
def addWord (write : Bool → Heap → Heap) : Nat → Heap → FilledWord → Heap
  | 0, h, _ => h
  | fuel + 1, h, w =>
    if mostCharacters < h.size + w.text.length then
      if h.words.isEmpty then
        addWord write fuel { h with written := w.text.take mostCharacters :: h.written, size := 0 }
          { w with text := w.text.drop mostCharacters }
      else addWord write fuel (write false h) w
    else
      let h := if h.words.size = mostWords then write false h else h
      { h with words := h.words.push w, size := h.size + w.text.length }

/-- Fills a text, piece by piece. -/
def pieces (f : Filling) : Nat → Bool → Nat → Opening → List (List Char)
  | 0, _, _, _ => []
  | fuel + 1, tabs, last, o =>
    let tabs := tabs || o.hasTab
    if o.isBlank ∨ o.indent < f.lead ∨ o.column < o.indent + f.markWidth then
      let body := o.rest.takeWhile (· ≠ '\n')
      let front := f.strayFront tabs o ++ body
      match o.rest.drop body.length with
      | [] => [front]
      | _ :: rest => (front ++ ['\n']) :: f.pieces fuel tabs last (f.openingOf rest)
    else
      let (words, inner, rest) := f.wordsOfLine ((o.rest.takeWhile (· ≠ '\n')).length + 1) o.column o.rest
      let next := f.openingOf rest
      let isSame := f.continues o.indent next
      let other := f.otherIndent last o.column next isSame
      let goesOn := !f.split && (f.crown || !f.tagged || next.column ≠ o.column)
      let (more, others, behind) := if goesOn then f.moreWords o.indent other fuel next
        else ([], false, next)
      let tabs := tabs || inner || next.hasTab || others
      let words := words ++ more
      let words := match words.reverse with
        | w :: ws => ({ w with period := true, isFinal := true } :: ws).reverse
        | [] => []
      let line (ws : List FilledWord) (isFirst : Bool) : List Char :=
        f.lineText tabs o.indent (if isFirst then o.column else other) ws
      let write := writeLines line o.column other f.width f.goal
      let h := words.foldl (fun h w => addWord write (2 * w.text.length + 2) h w) ⟨[], #[], 0, 0⟩
      (write true h).written.reverse ++ f.pieces fuel tabs other behind

end Filling

/-- What options say about how paragraphs are filled. -/
def fillingOf (a : Arguments) : Except String Filling := do
  let width ← (a.value? 'w').mapM fun s => countWithin "invalid width" s 0 2500
  let goal ← (a.value? 'g').mapM fun s => countWithin "invalid width" s 0 (width.getD 75)
  let most := (width.map Int.toNat).getD ((goal.map fun g => g.toNat + 10).getD 75)
  let given := ((a.value? 'p').getD "").toList
  let full := given.dropWhile (· == ' ')
  return {
    crown := a.has 'c'
    tagged := a.has 't'
    split := a.has 's'
    uniform := a.has 'u'
    width := most
    goal := (goal.map Int.toNat).getD (most * 187 / 200)
    lead := given.length - full.length
    mark := (full.reverse.dropWhile (· == ' ')).reverse
    markWidth := full.length }

/-- An option such as `-40` in front of all others as an option for the width. -/
def withFirstWidth : List String → List String
  | s :: rest =>
    match s.toList with
    | '-' :: c :: r => if c.isDigit then "-w" :: String.ofList (c :: r) :: rest else s :: rest
    | _ => s :: rest
  | [] => []

def fmt : Arguments → Tool Unit := fun a => do
  match a.options.find? fun o => o.1.isDigit with
  | some (c, _) =>
    misuse ("invalid option -- " ++ c.toString ++ "; -WIDTH is recognized only when it is the first\n" ++
      "option; use -w N instead")
  | none =>
    match fillingOf a with
    | .error text => complain text
    | .ok f =>
      eachContent a.operands fun _ text => do
        let s := text.toList
        for piece in f.pieces (s.length + 1) false 0 (f.openingOf s) do
          put (String.ofList piece)

end PlanReuse.Script.Tool
