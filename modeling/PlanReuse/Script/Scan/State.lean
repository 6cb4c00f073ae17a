import PlanReuse.Script.Regex.Reader
import PlanReuse.Script.Scan.Chance
import PlanReuse.Script.Scan.Value
import PlanReuse.Script.State
import PlanReuse.Script.Tool.Permissions

/-!
# States of scanning programs

Variables, tables, the record with its fields, and the texts that are being read and written.
-/

namespace PlanReuse.Script.Scan

/-- A table: values by key, in the order in which the keys were first used. -/
abbrev Table := List (String × Value)

/-- A parameter of a routine: its value, and where its table is kept. -/
structure Local where
  value : Value
  table : String

structure State where
  bindings : List (String × Value)
  tables : List (String × Table)
  locals : List (String × Local)
  /-- How many tables of parameters there have been. -/
  localTables : Nat
  /-- The record; none while it is to be put together from its fields. -/
  record : Option String
  fields : List Value
  /-- The rules that are between their patterns. -/
  active : List Nat
  /-- The file that records are read from. -/
  current : Option String
  /-- The place of the next operand. -/
  operand : Nat
  /-- Whether a file has been read, or the input in its stead. -/
  sawFile : Bool
  /-- What is left of the texts that are being read. -/
  inputs : List (String × List Char)
  /-- What has been written to files and commands, the latest first. -/
  outputs : List (String × Goal × List String)
  /-- What has been printed but not yet put out, and its length. -/
  pending : String
  waiting : Nat
  seed : Binary64
  chance : Chance
  work : Work

namespace State

/-! ### Variables -/

def textOf (s : State) (name : String) : String := ((s.bindings.lookup name).getD .unset).toText "%.6g"

/-- The format in which numbers become texts. -/
def convert (s : State) : String := s.textOf "CONVFMT"

def value (s : State) (name : String) : Value :=
  match s.locals.lookup name with
  | some l => l.value
  | none => if name = "NF" then .ofNat s.fields.length else (s.bindings.lookup name).getD .unset

/-- Where the table of a name is kept. -/
def tableName (s : State) (name : String) : String := ((s.locals.lookup name).map Local.table).getD name

def table (s : State) (name : String) : Table := (s.tables.lookup (s.tableName name)).getD []

def setTable (s : State) (name : String) (t : Table) : State :=
  { s with tables := putNamed (s.tableName name) t s.tables }

def setVariable (s : State) (name : String) (v : Value) : State :=
  { s with bindings := putNamed name v s.bindings }

def count (s : State) (name : String) : State :=
  s.setVariable name (.number ((s.value name).toNumber.add (.ofNat 1)))

/-! ### The order of keys -/

/-- The slot of a key among some slots: its bytes are mixed one after the other in 32 bits. -/
def slotOf (slots : Nat) (key : String) : Nat :=
  key.toList.foldl (fun h c => (h ^^^ c.toNat) * 16777619 % Nat.pow 2 32) 2166136261 % slots

/-- The slots of a table: 64, doubled while there are more than twelve keys for each. -/
def slotsFor (size : Nat) : Nat → Nat → Nat
  | 0, n => n
  | fuel + 1, n => if 12 * n < size then slotsFor size fuel (2 * n) else n

/-- The keys of a table in the order of their slots, in one slot the latest first. -/
def keysOf (t : Table) : List String :=
  let slots := slotsFor t.length t.length 64
  let marked := (t.map fun e => (slotOf slots e.1, e.1)).reverse
  (marked.mergeSort fun a b => decide (a.1 ≤ b.1)).map Prod.snd

/-! ### Fields -/

/-- The parts of a text between matches that are not empty. -/
def splitAtMatches (r : Regex) : Nat → List Char → List Char → List Char → List (List Char)
  | 0, part, _, after => [part.reverse ++ after]
  | fuel + 1, part, before, after =>
    match after with
    | [] => [part.reverse]
    | c :: rest =>
      match Regex.matchAt? false r before after with
      | some q =>
        if q.after.length < after.length then part.reverse :: splitAtMatches r fuel [] q.before q.after
        else splitAtMatches r fuel (c :: part) (c :: before) rest
      | none => splitAtMatches r fuel (c :: part) (c :: before) rest

/-- The words of a text between blanks. -/
def wordsOf (isBlank : Char → Bool) : Nat → List Char → List (List Char)
  | 0, _ => []
  | fuel + 1, s =>
    match s.dropWhile isBlank with
    | [] => []
    | c :: r =>
      let word := (c :: r).takeWhile fun d => !isBlank d
      word :: wordsOf isBlank fuel ((c :: r).drop word.length)

/-- What separates parts of a text. -/
inductive Separator
  | blanks
  | nothing
  | char (c : Char)
  | regex (r : Regex)

def Separator.ofText (s : String) : Separator :=
  match s.toList with
  | [] => nothing
  | [' '] => blanks
  | [c] => char c
  | _ => ((Regex.read .table s).toOption.map regex).getD (char '\n')

def Separator.split (sep : Separator) (s : List Char) : List (List Char) :=
  if s.isEmpty then []
  else
    match sep with
    | blanks => wordsOf (fun c => c == ' ' || c == '\t' || c == '\n') (s.length + 1) s
    | nothing => s.map fun c => [c]
    | char c => cutAt c s
    | regex r => splitAtMatches r (s.length + 1) [] [] s

def fieldsOf (s : State) (text : String) : List Value :=
  let separator := Separator.ofText (s.textOf "FS")
  let parts :=
    if s.textOf "RS" = "" then
      match separator with
      | .blanks => separator.split text.toList
      | _ => (cutAt '\n' text.toList).flatMap separator.split
    else separator.split text.toList
  parts.map fun p => .given (String.ofList p)

def setRecord (s : State) (text : String) : State :=
  { s with record := some text, fields := s.fieldsOf text }

/-- The text of the record, put together from its fields if they have changed. -/
def recordText (s : State) : String :=
  match s.record with
  | some text => text
  | none => (s.textOf "OFS").intercalate (s.fields.map (Value.toText s.convert))

/-- Fields up to a count; missing ones are unset. -/
def setCount (s : State) (n : Nat) : State :=
  { s with record := none, fields := s.fields.take n ++ List.replicate (n - s.fields.length) .unset }

def field (s : State) (n : Nat) : Value :=
  if n = 0 then .given s.recordText else (s.fields[n - 1]?).getD .unset

def setField (s : State) (n : Nat) (v : Value) : State :=
  if n = 0 then s.setRecord (v.toText s.convert)
  else
    let s := if s.fields.length < n then s.setCount n else s
    { s with record := none, fields := s.fields.set (n - 1) v }

def assign (s : State) (name : String) (v : Value) : State :=
  match s.locals.lookup name with
  | some l => { s with locals := putNamed name { l with value := v } s.locals }
  | none => if name = "NF" then s.setCount v.toNumber.whole.toNat else s.setVariable name v

/-! ### Reading -/

/-- Cuts a text behind the first two line feeds in a row. -/
def takeParagraph : List Char → List Char × List Char
  | [] => ([], [])
  | '\n' :: '\n' :: r => ([], r)
  | ['\n'] => ([], [])
  | c :: r =>
    let (more, rest) := takeParagraph r
    (c :: more, rest)

/-- The record in front of a text and the rest. -/
def takeRecord (separator : String) (s : List Char) : Option (List Char × List Char) :=
  match separator.toList with
  | [] =>
    match s.dropWhile (· == '\n') with
    | [] => none
    | s =>
      let (text, rest) := takeParagraph s
      some (text, rest.dropWhile (· == '\n'))
  | [c] => if s.isEmpty then none else some (s.takeWhile (· ≠ c), (s.dropWhile (· ≠ c)).drop 1)
  | _ =>
    if s.isEmpty then none
    else
      match (Regex.read .table separator).toOption.bind fun r => Regex.find? false r [] s with
      | some (before, q) =>
        if q.after.length + before.length < s.length then some (before.reverse, q.after) else some (s, [])
      | none => some (s, [])

/-- The one name of the input. -/
def inputName (name : String) : String := if name = "/dev/stdin" then "-" else name

/-- Opens a file, unless it is open; none if it cannot be read. -/
def openInput? (s : State) (name : String) : Option State :=
  if (s.inputs.lookup name).isSome then some s
  else
    match (Tool.contentOf Tool.endless name).run s.work with
    | (.ok text, w) => some { s with work := w, inputs := putNamed name text.toList s.inputs }
    | (.error _, _) => none

/-- The next record of an open text. -/
def readInput (s : State) (name : String) : Option String × State :=
  match takeRecord (s.textOf "RS") ((s.inputs.lookup name).getD []) with
  | some (text, rest) => (some (String.ofList text), { s with inputs := putNamed name rest s.inputs })
  | none => (none, { s with inputs := putNamed name [] s.inputs })

def closeInput (s : State) (name : String) : State :=
  { s with inputs := s.inputs.filter (·.1 ≠ name) }

/-- A name and a value with an equals sign between them. -/
def assignmentOf? (text : String) : Option (String × String) :=
  let name := String.ofList (text.toList.takeWhile (· ≠ '='))
  match text.toList.dropWhile (· ≠ '=') with
  | _ :: value =>
    if isName name then some (name, String.ofList (plainText (value.length + 1) value)) else none
  | [] => none

/-- Goes on to the next file of the operands, or to the input if they name none: true if there is one,
and an error if it cannot be read. -/
def openNext : Nat → State → Except String (Bool × State)
  | 0, s => .ok (false, s)
  | fuel + 1, s =>
    let openAs (s : State) (name : String) : Except String (Bool × State) :=
      match s.openInput? name with
      | some s =>
        .ok (true, ({ s with current := some name, sawFile := true }).setVariable "FNR" (.ofNat 0))
      | none => .error ("cannot open \"" ++ name ++ "\" (No such file or directory)")
    if (s.value "ARGC").toNumber.whole ≤ (s.operand : Int) then
      if s.sawFile then .ok (false, s) else openAs s "-"
    else
      let text := (((s.tables.lookup "ARGV").getD []).lookup (decimal s.operand)).getD .unset |>.toText s.convert
      let s := { s with operand := s.operand + 1 }
      if text.isEmpty then openNext fuel s
      else
        match assignmentOf? text with
        | some (name, value) => openNext fuel (s.assign name (.given value))
        | none => (openAs s (inputName text)).map fun (b, s) => (b, s.setVariable "FILENAME" (.text text))

/-- The next record of the input, which is counted. -/
def nextRecord : Nat → State → Except String (Option String × State)
  | 0, s => .ok (none, s)
  | fuel + 1, s =>
    match s.current with
    | some name =>
      match s.readInput name with
      | (some text, s) => .ok (some text, (s.count "NR").count "FNR")
      | (none, s) => nextRecord fuel { s.closeInput name with current := none }
    | none =>
      match s.openNext fuel with
      | .ok (true, s) => nextRecord fuel s
      | .ok (false, s) => .ok (none, s)
      | .error text => .error text

/-! ### Writing -/

def joined (pieces : List String) : String := String.join pieces.reverse

/-- Puts out what has been printed. -/
def settle (s : State) : State :=
  { s with pending := "", waiting := 0, work := { s.work with output := s.work.output ++ s.pending } }

/-- How much is printed before it is put out. -/
def bufferSize : Nat := 4096

/-- Prints a text; what is printed is put out in whole buffers. -/
def printText (s : State) (text : String) : State :=
  let pending := s.pending ++ text
  let waiting := s.waiting + text.length
  if waiting ≤ bufferSize then { s with pending, waiting }
  else
    let count := (waiting - 1) / bufferSize * bufferSize
    let now := String.ofList (pending.toList.take count)
    { s with
      pending := String.ofList (pending.toList.drop count)
      waiting := waiting - count
      work := { s.work with output := s.work.output ++ now } }

/-- Brings a file on the disk up to date. -/
def flushFile (s : State) (name : String) : State :=
  match s.outputs.lookup name with
  | none | some (.command, _) => s
  | some (_, pieces) =>
    match s.work.disk.writeFile s.work.folder name (joined pieces) (Tool.masked s.work 0o666) with
    | .ok d => { s with work := { s.work with disk := d } }
    | .error _ => s

/-- Brings all files on the disk up to date. -/
def flush (s : State) : State := s.outputs.foldl (fun s o => s.flushFile o.1) s

/-- Puts a text behind what has been written to a goal, which is then the one used last. -/
def add (s : State) (goal : Goal) (name : String) (pieces : List String) : State :=
  { s with outputs := (name, goal, pieces) :: s.outputs.filter (·.1 ≠ name) }

/-- Writes a text; a file that cannot be written is an error. -/
def write (s : State) (goal : Option (Goal × String)) (text : String) : Except String State :=
  match goal with
  | none => .ok (s.printText text)
  | some (goal, name) =>
    if goal ≠ .command ∧ (name = "-" ∨ name = "/dev/stdout") then .ok (s.printText text)
    else if goal ≠ .command ∧ name = "/dev/stderr" then
      .ok { s with work := s.work.note text }
    else
      match s.outputs.lookup name with
      | some (goal, pieces) => .ok (s.add goal name (text :: pieces))
      | none =>
        if goal = .command then .ok (s.settle.add goal name [text])
        else
          let w := s.work
          let old := match goal, w.disk.readFile w.folder name with
            | .append, .ok c => c.text
            | _, _ => ""
          match w.disk.writeFile w.folder name old (Tool.masked w 0o666) with
          | .ok d => .ok ({ s with work := { w with disk := d } }.add goal name [text, old])
          | .error fault => .error ("cannot open \"" ++ name ++ "\" for output (" ++ fault.message ++ ")")

end State

end PlanReuse.Script.Scan
