import PlanReuse.Script.Edit.Replacing
import PlanReuse.Script.Tool.Lines

/-!
# Running edits

An editor takes line after line and follows its steps. A line that lacks its end is put out without it, and
what is put out next adds it.
-/

namespace PlanReuse.Script.Edit

/-- A line of the input, without its end. -/
structure Row where
  text : List Char
  isEnded : Bool
  file : String

/-- What waits to be put out behind the line. -/
inductive Queued
  | text (s : String)
  | file (name : String)

/-- What has been written to a file but is not yet there, the latest first, and whether the end of a line is
due. -/
structure Written where
  pieces : List String
  isDue : Bool

/-- An editor between two steps. -/
structure Editor where
  space : List Char
  isEnded : Bool
  held : List Char
  heldEnded : Bool
  file : String
  /-- The lines to come. -/
  rows : List Row
  number : Nat
  queued : List Queued
  /-- Whether something has been replaced since a line was read. -/
  made : Bool
  /-- What was looked for last. -/
  last : Option Target
  /-- The steps whose lines have begun, with the line that ends them if it is known. -/
  begun : List (Nat × Option Nat)
  /-- The steps whose lines have ended for good. -/
  finished : List Nat
  /-- Whether the end of the line that was put out last is due. -/
  isDue : Bool
  /-- What is put out in place of a file, the latest first. -/
  page : Option (List String)
  written : List (String × Written)
  /-- What is left of the files that are read line by line. -/
  sources : List (String × List (List Char))

/-- What does not change while an editor runs. -/
structure Settings where
  steps : Array Step
  quiet : Bool
  /-- The sign that ends lines. -/
  ending : Char
  /-- How wide lines are that show all signs. -/
  width : Nat
  launch : Launcher

/-- How the steps for a line have ended. -/
inductive LineEnd
  /-- The line is put out. -/
  | done
  /-- The line is gone. -/
  | deleted
  /-- The first part of the line is gone, and the steps begin again. -/
  | again
  | quit (status : Nat) (prints : Bool)

abbrev Editing := ExceptT String (StateT Editor Tool)

/-! ### Output -/

/-- Puts out a text as it is. -/
def emit (text : String) : Editing Unit := do
  match (← get).page with
  | some pieces => modify fun e => { e with page := some (text :: pieces) }
  | none => (Tool.put text : Tool Unit)

/-- Puts out the end of a line that is due. -/
def settle (s : Settings) : Editing Unit := do
  if (← get).isDue then
    emit s.ending.toString
    modify fun e => { e with isDue := false }

/-- Puts out a text on lines of its own. -/
def putText (s : Settings) (text : String) : Editing Unit := do
  settle s
  emit text

/-- Puts out a line. -/
def putLine (s : Settings) (row : List Char) (isEnded : Bool) : Editing Unit := do
  putText s (String.ofList row ++ if isEnded then s.ending.toString else "")
  modify fun e => { e with isDue := !isEnded }

/-- Writes a line to a file. -/
def writeRow (s : Settings) (name : String) (row : List Char) (isEnded : Bool) : Editing Unit := do
  let e ← get
  let w := (e.written.lookup name).getD ⟨[], false⟩
  let text := (if w.isDue then s.ending.toString else "") ++ String.ofList row ++
    (if isEnded then s.ending.toString else "")
  let keep (pieces : List String) : Editing Unit :=
    modify fun e => { e with written := (name, ⟨pieces, !isEnded⟩) :: e.written.filter (·.1 ≠ name) }
  if name = "/dev/stdout" then
    (Tool.put text : Tool Unit)
    keep []
  else if name = "/dev/stderr" then
    (Tool.note text : Tool Unit)
    keep []
  else keep (text :: w.pieces)

/-- Brings the files that are written on the disk. -/
def flushFiles : Editing Unit := do
  (← get).written.reverse.forM fun (name, w) => do
    if !w.pieces.isEmpty then
      discard (Tool.putFile ("couldn't open file " ++ name) name (String.join w.pieces.reverse) true : Tool Bool)
  modify fun e => { e with written := e.written.map fun (name, w) => (name, { w with pieces := [] }) }

/-- Puts out what waits behind the line. -/
def flushQueue (s : Settings) : Editing Unit := do
  let queued := (← get).queued
  modify fun e => { e with queued := [] }
  queued.reverse.forM fun q => do
    settle s
    match q with
    | .text t => emit t
    | .file name =>
      flushFiles
      match ← (Tool.contentOf Tool.endless (if name = "-" then "./-" else name) : Tool _) with
      | .ok text => emit text
      | .error _ => pure ()

/-! ### Lines -/

def isLast : Editing Bool := do return (← get).rows.isEmpty

/-- Takes the next line, behind the line at hand or in its place; false if there is none. -/
def takeLine (s : Settings) (joins : Bool) : Editing Bool := do
  flushQueue s
  match (← get).rows with
  | [] => return false
  | row :: rows =>
    modify fun e =>
      { e with
        space := if joins then e.space ++ s.ending :: row.text else row.text
        isEnded := row.isEnded
        file := row.file
        rows
        number := e.number + 1
        made := false }
    return true

/-- What is looked for, which is then what was looked for last. -/
def useTarget (t : Option Target) : Editing Target := do
  match t, (← get).last with
  | some t, _ =>
    modify fun e => { e with last := some t }
    return t
  | none, some t => return t
  | none, none => throw "no previous regular expression"

def fits (a : Address) : Editing Bool := do
  let e ← get
  match a with
  | .line n => return e.number == n
  | .last => isLast
  | .every first step => return first ≤ e.number && (e.number - first) % step == 0
  | .found t =>
    let t ← useTarget t
    return t.regex.isIn t.fold e.space
  | .more _ | .multiple _ => return false

/-- Ends the lines of a step; if they begin at a line of some number, for good. -/
def endLines (index : Nat) (first : Address) : Editing Unit :=
  modify fun e =>
    { e with
      begun := e.begun.filter (·.1 ≠ index)
      finished := match first with
        | .line _ => index :: e.finished
        | _ => e.finished }

def beginLines (index : Nat) (final : Option Nat) : Editing Unit :=
  modify fun e => { e with begun := (index, final) :: e.begun }

/-- Whether the line at hand is one of those between two addresses. -/
def isBetween (index : Nat) (first final : Address) : Editing Bool := do
  let e ← get
  match e.begun.lookup index with
  | some stop =>
    match final, stop with
    | .line n, _ =>
      if n ≤ e.number then endLines index first
      return e.number ≤ n
    | _, some n =>
      if n ≤ e.number then endLines index first
      return true
    | _, none =>
      if ← fits final then endLines index first
      return true
  | none =>
    let starts ← match first with
      | .line n => pure (!e.finished.contains index && n ≤ e.number)
      | a => fits a
    if !starts then return false
    match final with
    | .line m =>
      if e.number < m then
        beginLines index none
        return true
      else
        endLines index first
        return match first with
          | .line n => e.number ≤ m || e.number == n
          | _ => true
    | .more 0 | .multiple 0 => endLines index first
    | .more n => beginLines index (some (e.number + n))
    | .multiple n => beginLines index (some (e.number + n - e.number % n))
    | .last => if ← isLast then endLines index first else beginLines index none
    | _ => beginLines index none
    return true

/-- Whether a step is for the line at hand. -/
def isChosen (index : Nat) (step : Step) : Editing Bool := do
  let chosen ← match step.first, step.last with
    | none, _ => pure true
    | some a, none => fits a
    | some a, some b => isBetween index a b
  return chosen != step.negated

/-! ### Steps -/

/-- Where a step with an opening brace ends. -/
def closingOf (steps : Array Step) : Nat → Nat → Nat → Nat
  | 0, i, _ => i
  | fuel + 1, i, depth =>
    match (steps[i]?).map Step.action with
    | none => i
    | some .opening => closingOf steps fuel (i + 1) (depth + 1)
    | some .closing => if depth ≤ 1 then i + 1 else closingOf steps fuel (i + 1) (depth - 1)
    | some _ => closingOf steps fuel (i + 1) depth

/-- The place of a label; without a name, the end. -/
def labelAt (steps : Array Step) (name : String) : Nat :=
  (steps.findIdx? fun s =>
    match s.action with
    | .label n => n == name && name != ""
    | _ => false).getD steps.size

/-- A sign as it is shown. -/
def shownSign (c : Char) : List Char :=
  match [('\\', '\\'), ('\x07', 'a'), ('\x08', 'b'), ('\x0c', 'f'), ('\n', 'n'), ('\r', 'r'), ('\t', 't'),
      ('\x0b', 'v')].lookup c with
  | some d => ['\\', d]
  | none =>
    if 0x20 ≤ c.toNat ∧ c.toNat < 0x7F then [c]
    else
      let ds := Nat.toDigits 8 c.toNat
      '\\' :: (List.replicate (3 - ds.length) '0' ++ ds)

/-- A text with all its signs, in lines of some width. -/
def shownText (width : Nat) (s : List Char) : List Char :=
  let (out, _) := s.foldl (fun ((out : List Char), column) c =>
    let sign := shownSign c
    if width ≠ 0 ∧ width - 1 < column + sign.length then
      (sign.reverse ++ '\n' :: '\\' :: out, sign.length)
    else (sign.reverse ++ out, column + sign.length)) ([], 0)
  (('$' :: out).reverse) ++ ['\n']

/-- Runs a command and takes what it writes. -/
def outputOf (s : Settings) (command : List Char) : Editing String := do
  flushFiles
  let w : Work ← (get : Tool Work)
  let (text, w) := w.aside fun v => ((s.launch ["sh", "-c", String.ofList command]).run v).2
  (set w : Tool Unit)
  return text

/-- Replaces what a substitution looks for. -/
def substitute (s : Settings) (x : Substitution) : Editing Unit := do
  let t ← useTarget x.target
  let most := (x.pieces.filterMap Piece.group).foldl max 0
  if t.regex.groupCount < most then
    throw ("invalid reference \\" ++ toString most ++ " on \x60s' command's RHS")
  let e ← get
  match replaceIn t x.pieces x.which x.all e.space with
  | none => return ()
  | some text =>
    modify fun e => { e with space := text, made := true }
    if x.printsBefore then putLine s text e.isEnded
    if x.runs then
      let output := (← outputOf s text).toList
      modify fun e =>
        { e with space := if output.getLast? = some s.ending then output.dropLast else output, isEnded := true }
    let e ← get
    if x.printsAfter then putLine s e.space e.isEnded
    match x.file with
    | some f => writeRow s f e.space e.isEnded
    | none => return ()

/-- The next line of a file that is read line by line. -/
def sourceLine? (s : Settings) (name : String) : Editing (Option (List Char)) := do
  if ((← get).sources.lookup name).isNone then
    flushFiles
    let text ← (Tool.contentOf Tool.endless (if name = "-" then "./-" else name) : Tool _)
    let pieces := match text with
      | .ok text => Tool.piecesOf s.ending text.toList
      | .error _ => []
    modify fun e => { e with sources := (name, pieces) :: e.sources }
  match (← get).sources.lookup name with
  | some (p :: ps) =>
    modify fun e => { e with sources := (name, ps) :: e.sources.filter (·.1 ≠ name) }
    return some p
  | _ => return none

/-- What a step does that is neither a jump nor the end of the line. -/
def act (s : Settings) : Action → Editing Unit
  | .substitute x => substitute s x
  | .translate pairs => modify fun e => { e with space := e.space.map fun c => (pairs.lookup c).getD c }
  | .insert text => putText s (String.ofList text)
  | .append text => modify fun e => { e with queued := .text (String.ofList text) :: e.queued }
  | .readFile name => modify fun e => { e with queued := .file name :: e.queued }
  | .readLine name => do
    match ← sourceLine? s name with
    | some row => modify fun e => { e with queued := .text (String.ofList row) :: e.queued }
    | none => return ()
  | .writeFile name => do
    let e ← get
    writeRow s name e.space e.isEnded
  | .writeLine name => do writeRow s name ((← get).space.takeWhile (· ≠ s.ending)) true
  | .run none => do
    let output := (← outputOf s (← get).space).toList
    modify fun e =>
      { e with space := if output.getLast? = some s.ending then output.dropLast else output, isEnded := true }
  | .run (some command) => do
    let text ← outputOf s command
    putText s text
  | .list width => do putText s (String.ofList (shownText (width.getD s.width) (← get).space))
  | .print => do
    let e ← get
    putLine s e.space e.isEnded
  | .printLine => do putLine s ((← get).space.takeWhile (· ≠ s.ending)) true
  | .number => do putText s (toString (← get).number ++ "\n")
  | .fileName => do putText s ((← get).file ++ "\n")
  | .hold => modify fun e => { e with held := e.space, heldEnded := e.isEnded }
  | .holdMore => modify fun e => { e with held := e.held ++ s.ending :: e.space, heldEnded := e.isEnded }
  | .get => modify fun e => { e with space := e.held, isEnded := e.heldEnded }
  | .getMore => modify fun e => { e with space := e.space ++ s.ending :: e.held, isEnded := e.heldEnded }
  | .exchange => modify fun e =>
      { e with space := e.held, isEnded := e.heldEnded, held := e.space, heldEnded := e.isEnded }
  | .empty => modify fun e => { e with space := [] }
  | _ => return ()

/-- Follows the steps from a place on. -/
def follow (s : Settings) : Nat → Nat → Editing LineEnd
  | 0, _ => return .done
  | fuel + 1, i => do
    match s.steps[i]? with
    | none => return .done
    | some step =>
      if !(← isChosen i step) then
        match step.action with
        | .opening => follow s fuel (closingOf s.steps s.steps.size (i + 1) 1)
        | _ => follow s fuel (i + 1)
      else
        let jump (name : String) : Editing LineEnd := follow s fuel (labelAt s.steps name)
        match step.action with
        | .jump .always name => jump name
        | .jump occasion name =>
          let made := (← get).made
          modify fun e => { e with made := false }
          if made == (occasion == .replaced) then jump name else follow s fuel (i + 1)
        | .quit status prints => return .quit status prints
        | .delete => return .deleted
        | .deleteLine =>
          match (← get).space.dropWhile (· ≠ s.ending) with
          | [] => return .deleted
          | _ :: rest =>
            modify fun e => { e with space := rest }
            return .again
        | .change text =>
          if ((← get).begun.lookup i).isNone then putText s (String.ofList text)
          return .deleted
        | .next =>
          if ← isLast then return .done
          if !s.quiet then
            let e ← get
            putLine s e.space e.isEnded
          discard (takeLine s false)
          follow s fuel (i + 1)
        | .nextMore =>
          if ← isLast then return .done
          discard (takeLine s true)
          follow s fuel (i + 1)
        | action =>
          act s action
          follow s fuel (i + 1)

/-- Goes over the lines that are there; the status if a step ends the editor. -/
def goOver (s : Settings) (steps : Nat) : Nat → Bool → Editing (Option Nat)
  | 0, _ => return none
  | fuel + 1, again => do
    if !again then
      if !(← takeLine s false) then return none
    match ← follow s steps 0 with
    | .done =>
      if !s.quiet then
        let e ← get
        putLine s e.space e.isEnded
      goOver s steps fuel false
    | .deleted => goOver s steps fuel false
    | .again => goOver s steps fuel true
    | .quit status prints =>
      if prints then
        if !s.quiet then
          let e ← get
          putLine s e.space e.isEnded
        flushQueue s
      return some status

/-- Begins with lines, whose numbers count from one. Lines from the first line on, before which there is
none, have begun. -/
def startOver (s : Settings) (rows : List Row) (page : Option (List String)) : Editing Unit :=
  modify fun e =>
    { e with
      rows
      number := 0
      begun := s.steps.toList.zipIdx.filterMap fun (step, i) =>
        match step.first, step.last with
        | some (.line 0), some _ => some (i, none)
        | _, _ => none
      finished := []
      page }

/-- Edits lines; the status if a step ends the editor. -/
def edit (s : Settings) (rows : List Row) (page : Option (List String)) : Editing (Option Nat) := do
  startOver s rows page
  let size := (rows.map fun r => r.text.length + 1).foldl (· + ·) 0
  let ending ← goOver s (200000 + 1000 * size) (200000 + 10 * size) false
  flushQueue s
  return ending

/-- An editor before its first line. -/
def Editor.fresh : Editor :=
  ⟨[], true, [], true, "-", [], 0, [], false, none, [], [], false, none, [], []⟩

end PlanReuse.Script.Edit
