import PlanReuse.Script.Scan.Reader
import PlanReuse.Script.Scan.State

/-!
# Running scanning programs

The first rules are carried out before any input is read, the last ones when all of it has been, and all
others for each record. Commands are run by a function from outside.
-/

namespace PlanReuse.Script.Scan

/-- Runs the text of a command in the place of a tool. -/
abbrev Commands := String → Work → Work

/-- Why an action goes no further. -/
inductive Stop
  | nextRecord
  | nextFile
  | exit
  | giveBack (v : Value)
  | leaveLoop
  | again
  | fault (text : String)

abbrev Act := ExceptT Stop (StateM State)

/-- What a value can be put into. -/
inductive Place
  | variable (name : String)
  | field (n : Nat)
  | item (table key : String)

def failWith {α : Type} (text : String) : Act α := throw (.fault text)

def convertText (v : Value) : Act String := do return v.toText (← get).convert

def load : Place → Act Value
  | .variable name => do return (← get).value name
  | .field n => do return (← get).field n
  | .item table key => do
    let s ← get
    match (s.table table).lookup key with
    | some v => return v
    | none =>
      set (s.setTable table (putNamed key .unset (s.table table)))
      return .unset

def store (v : Value) : Place → Act Unit
  | .variable name => modify (·.assign name v)
  | .field n => modify (·.setField n v)
  | .item table key => modify fun s => s.setTable table (putNamed key v (s.table table))

/-- Writes a text to where a print goes. -/
def writeTo (goal : Option (Goal × String)) (text : String) : Act Unit := do
  match (← get).write goal text with
  | .ok s => set s
  | .error text => failWith text

/-! ### Commands -/

/-- What a command leaves; the files written so far are on the disk before it runs. -/
def runCommand (commands : Commands) (text : String) : Act Nat := do
  let s := (← get).flush.settle
  let w := commands text s.work
  set { s with work := { w with status := 0 } }
  return w.status

/-- What a command writes, as a text that is open for reading. -/
def openCommand (commands : Commands) (text : String) : Act Unit := do
  if ((← get).inputs.lookup text).isNone then
    let s := (← get).settle
    let (output, w) := s.work.aside (commands text)
    set { s with work := { w with status := 0 }, inputs := putNamed text output.toList s.inputs }

/-- Ends writing to a file or a command; the status of the command. -/
def closeOutput (commands : Commands) (s : State) (name : String) : Nat × State :=
  match s.outputs.lookup name with
  | none => (0, s)
  | some (goal, pieces) =>
    let s := s.flushFile name
    let rest := s.outputs.filter (·.1 ≠ name)
    if goal = .command then
      let w := commands name { s.work with input := (State.joined pieces).toList }
      (w.status, { s with work := { w with input := s.work.input, status := 0 }, outputs := rest })
    else (0, { s with outputs := rest })

/-- Ends all writing. -/
def closeAll (commands : Commands) (s : State) : State :=
  s.outputs.foldl (fun s o => (closeOutput commands s o.1).2) s

/-! ### Functions on texts -/

/-- The part of a text from a place on, as much of it as there is. -/
def partOf (text : List Char) (first : Binary64) (count : Option Binary64) : List Char :=
  let whole (x : Binary64) : Int :=
    if x.isNaN then 0
    else if x.isInfinite then if x.isNegative then -(Nat.pow 2 62 : Int) else (Nat.pow 2 62 : Int)
    else x.whole
  let start := whole first
  let rest := text.drop (start - 1).toNat
  match count with
  | none => rest
  | some n => rest.take (start + whole n - max start 1).toNat

/-- The place of a text in another one, counted from one; zero if it is not there. -/
def placeOf (part : List Char) : Nat → List Char → Nat
  | n, [] => if part.isEmpty then n else 0
  | n, c :: r => if part.isPrefixOf (c :: r) then n else placeOf part (n + 1) r

/-- What is put in the place of a match: an ampersand stands for the match. -/
def substitute (matched : List Char) : List Char → List Char
  | [] => []
  | '\\' :: '&' :: r => '&' :: substitute matched r
  | '\\' :: '\\' :: r => '\\' :: substitute matched r
  | '&' :: r => matched ++ substitute matched r
  | c :: r => c :: substitute matched r

/-- Replaces matches, all of them or the first: how many, and the text. An empty match right behind
another one does not count. -/
def replaceMatches (r : Regex) (new : List Char) (all : Bool) :
    Nat → Bool → List Char → List Char → Nat × List Char
  | 0, _, _, after => (0, after)
  | fuel + 1, behind, before, after =>
    let pass (count : Nat) (front : List Char) : Nat × List Char :=
      match after with
      | [] => (count, front)
      | c :: rest =>
        if count > 0 ∧ !all then (count, front ++ after)
        else
          let (n, s) := replaceMatches r new all fuel false (c :: before) rest
          (count + n, front ++ c :: s)
    match Regex.matchAt? false r before after with
    | none => pass 0 []
    | some q =>
      if q.after.length = after.length then
        if behind then pass 0 [] else pass 1 (substitute [] new)
      else
        let text := substitute (after.take (after.length - q.after.length)) new
        if all then
          let (n, s) := replaceMatches r new all fuel true q.before q.after
          (n + 1, text ++ s)
        else (1, text ++ q.after)

/-- Splits a text into the items of a table. -/
def itemsOf (separator : State.Separator) (text : String) : Table :=
  (separator.split text.toList).zipIdx.map fun (p, i) => (decimal (i + 1), .given (String.ofList p))

/-- The functions of numbers. -/
def numberFunction? (name : String) : List Binary64 → Option Binary64
  | [x] =>
    match name with
    | "sin" => some x.sin
    | "cos" => some x.cos
    | "exp" => some x.exp
    | "log" => some x.log
    | "sqrt" => some x.sqrt
    | "int" => some x.truncate
    | _ => none
  | [x, y] => if name = "atan2" then some (x.atan2 y) else none
  | _ => none

/-! ### Actions -/

mutual

def evaluate (p : Program) (commands : Commands) : Nat → Expr → Act Value
  | 0, _ => throw .exit
  | fuel + 1, e => do
    match e with
    | .number x => return .number x
    | .text s => return .text s
    | .regex r => return .ofBool (Regex.isIn false r (← get).recordText.toList)
    | .variable _ | .field _ | .item _ _ => load (← placeFor p commands fuel e)
    | .assign target op a =>
      let place ← placeFor p commands fuel target
      let v ← evaluate p commands fuel a
      let v ← match op with
        | none => pure v
        | some o => pure (.number (o.apply (← load place).toNumber v.toNumber))
      store v place
      return v
    | .choose c a b =>
      if (← evaluate p commands fuel c).isTrue then evaluate p commands fuel a
      else evaluate p commands fuel b
    | .or a b =>
      if (← evaluate p commands fuel a).isTrue then return .ofBool true
      else return .ofBool (← evaluate p commands fuel b).isTrue
    | .and a b =>
      if (← evaluate p commands fuel a).isTrue then return .ofBool (← evaluate p commands fuel b).isTrue
      else return .ofBool false
    | .not a => return .ofBool !(← evaluate p commands fuel a).isTrue
    | .isIn keys table =>
      let key ← keyFor p commands fuel keys
      return .ofBool (((← get).table table).lookup key).isSome
    | .matching negated a b =>
      let s ← convertText (← evaluate p commands fuel a)
      let r ← regexFor p commands fuel b
      return .ofBool (Regex.isIn false r s.toList != negated)
    | .compare c a b =>
      let v ← evaluate p commands fuel a
      let w ← evaluate p commands fuel b
      return .ofBool (v.holds (← get).convert c w)
    | .join a b =>
      let s ← convertText (← evaluate p commands fuel a)
      let t ← convertText (← evaluate p commands fuel b)
      return .text (s ++ t)
    | .binary o a b =>
      let v ← evaluate p commands fuel a
      let w ← evaluate p commands fuel b
      return .number (o.apply v.toNumber w.toNumber)
    | .negative a =>
      let x := (← evaluate p commands fuel a).toNumber
      return .number x.negate
    | .positive a => return .number (← evaluate p commands fuel a).toNumber
    | .step up before target =>
      let place ← placeFor p commands fuel target
      let old := (← load place).toNumber
      let new := if up then old.add (.ofNat 1) else old.sub (.ofNat 1)
      store (.number new) place
      return .number (if before then new else old)
    | .call name arguments => callRoutine p commands fuel name arguments
    | .builtin name arguments => callBuiltin p commands fuel name arguments
    | .several es => return .text (← keyFor p commands fuel es)
    | .readRecord target file =>
      match file with
      | some file =>
        let name := State.inputName (← convertText (← evaluate p commands fuel file))
        match (← get).openInput? name with
        | none => return .number (Binary64.ofNat 1).negate
        | some s =>
          set s
          takeInto p commands fuel name target
      | none =>
        match (← get).nextRecord (Nat.pow 2 32) with
        | .error text => failWith text
        | .ok (none, s) =>
          set s
          return .ofBool false
        | .ok (some text, s) =>
          set s
          putInto p commands fuel text target
    | .readCommand command target =>
      let text ← convertText (← evaluate p commands fuel command)
      openCommand commands text
      takeInto p commands fuel text target

/-- Puts the next record of an open text into a target, or makes it the record: one if there was one. -/
def takeInto (p : Program) (commands : Commands) : Nat → String → Option Expr → Act Value
  | 0, _, _ => throw .exit
  | fuel + 1, name, target => do
    match (← get).readInput name with
    | (none, s) =>
      set s
      return .ofBool false
    | (some text, s) =>
      set s
      putInto p commands fuel text target

def putInto (p : Program) (commands : Commands) : Nat → String → Option Expr → Act Value
  | 0, _, _ => throw .exit
  | fuel + 1, text, target => do
    match target with
    | none => modify (·.setRecord text)
    | some e => store (.given text) (← placeFor p commands fuel e)
    return .ofBool true

/-- What a target stands for. -/
def placeFor (p : Program) (commands : Commands) : Nat → Expr → Act Place
  | 0, _ => throw .exit
  | fuel + 1, e => do
    match e with
    | .variable name => return .variable name
    | .field e =>
      let n := (← evaluate p commands fuel e).toNumber.whole
      if n < 0 then failWith ("negative field index $" ++ decimal n)
      return .field n.toNat
    | .item table keys => return .item table (← keyFor p commands fuel keys)
    | _ => failWith "assignment to something that is no variable"

/-- The key that some values make together. -/
def keyFor (p : Program) (commands : Commands) : Nat → List Expr → Act String
  | 0, _ => throw .exit
  | _ + 1, [] => return ""
  | fuel + 1, [e] => do convertText (← evaluate p commands fuel e)
  | fuel + 1, e :: es => do
    let s ← convertText (← evaluate p commands fuel e)
    return s ++ (← get).textOf "SUBSEP" ++ (← keyFor p commands fuel es)

/-- The expression for matches that an operand stands for. -/
def regexFor (p : Program) (commands : Commands) : Nat → Expr → Act Regex
  | 0, _ => throw .exit
  | fuel + 1, e => do
    match e with
    | .regex r => return r
    | e =>
      let s ← convertText (← evaluate p commands fuel e)
      match (Regex.read .table s).toOption with
      | some r => return r
      | none => failWith ("regular expression compile failed: " ++ s)

def evaluateAll (p : Program) (commands : Commands) : Nat → List Expr → Act (List Value)
  | 0, _ => throw .exit
  | _ + 1, [] => return []
  | fuel + 1, e :: es => do
    let v ← evaluate p commands fuel e
    return v :: (← evaluateAll p commands fuel es)

/-- The parameters of a routine with arguments; a name brings its table along. -/
def bindLocals (p : Program) (commands : Commands) : Nat → List String → List Expr → Act (List (String × Local))
  | 0, _, _ => throw .exit
  | _ + 1, [], _ => return []
  | fuel + 1, name :: names, es => do
    let fresh : Act String := do
      let s ← get
      set { s with localTables := s.localTables + 1 }
      return "#" ++ decimal s.localTables
    let l : Local ← match es with
      | [] => pure ⟨.unset, ← fresh⟩
      | .variable n :: _ => pure ⟨(← get).value n, (← get).tableName n⟩
      | e :: _ =>
        let v ← evaluate p commands fuel e
        pure ⟨v, ← fresh⟩
    return (name, l) :: (← bindLocals p commands fuel names es.tail)

def callRoutine (p : Program) (commands : Commands) : Nat → String → List Expr → Act Value
  | 0, _, _ => throw .exit
  | fuel + 1, name, arguments => do
    match p.routines.find? (·.name = name) with
    | none => failWith ("function " ++ name ++ " never defined")
    | some f =>
      let before := (← get).locals
      let first := (← get).localTables
      let locals ← bindLocals p commands fuel f.parameters arguments
      let own := (locals.map fun l => l.2.table).filter fun t =>
        t.startsWith "#" && !(before.any fun l => l.2.table == t)
      modify fun s => { s with locals }
      let outcome ← tryCatch (do
        execute p commands fuel f.body
        return Value.unset) (fun
        | .giveBack v => return v
        | e => throw e)
      modify fun s =>
        { s with
          locals := before
          localTables := max first s.localTables
          tables := s.tables.filter fun t => !own.contains t.1 }
      return outcome

def callBuiltin (p : Program) (commands : Commands) : Nat → String → List Expr → Act Value
  | 0, _, _ => throw .exit
  | fuel + 1, name, es => do
    let textAt (e : Expr) : Act String := do convertText (← evaluate p commands fuel e)
    match name, es with
    | "length", [] => return .ofNat (← get).recordText.length
    | "length", [.variable n] =>
      let s ← get
      match s.table n with
      | [] => return .ofNat (← convertText (s.value n)).length
      | t => return .ofNat t.length
    | "length", [e] => return .ofNat (← textAt e).length
    | "substr", e :: first :: count =>
      let s ← textAt e
      let first := (← evaluate p commands fuel first).toNumber
      let count ← match count with
        | [] => pure none
        | n :: _ => pure (some (← evaluate p commands fuel n).toNumber)
      return .text (String.ofList (partOf s.toList first count))
    | "index", [a, b] =>
      let s ← textAt a
      let t ← textAt b
      return .ofNat (placeOf t.toList 1 s.toList)
    | "split", e :: .variable table :: separator =>
      let s ← textAt e
      let separator ← match separator with
        | [] => pure (State.Separator.ofText ((← get).textOf "FS"))
        | .regex r :: _ => pure (State.Separator.regex r)
        | e :: _ => pure (State.Separator.ofText (← textAt e))
      let items := itemsOf separator s
      modify (·.setTable table items)
      return .ofNat items.length
    | "match", [a, b] =>
      let s ← textAt a
      let r ← regexFor p commands fuel b
      let (first, count) : Nat × Int := match Regex.find? false r [] s.toList with
        | some (before, q) => (before.length + 1, (s.length - before.length - q.after.length : Nat))
        | none => (0, -1)
      modify fun s =>
        (s.assign "RSTART" (.ofNat first)).assign "RLENGTH" (.number (.nearest (count < 0) count.natAbs 1))
      return .ofNat first
    | "sprintf", format :: rest =>
      let format ← textAt format
      let vs ← evaluateAll p commands fuel rest
      match formatText (← get).convert format vs with
      | (s, none) => return .text s
      | (_, some fault) => failWith (fault.message "sprintf" format)
    | "tolower", [e] => return .text (String.ofList ((← textAt e).toList.map Char.toLower))
    | "toupper", [e] => return .text (String.ofList ((← textAt e).toList.map Char.toUpper))
    | "rand", [] =>
      let (x, c) := (← get).chance.share
      modify fun s => { s with chance := c }
      return .number x
    | "srand", es =>
      let x ← match es with
        | [] => pure (Binary64.ofNat 0)
        | e :: _ => do pure (← evaluate p commands fuel e).toNumber
      let old := (← get).seed
      modify fun s => { s with seed := x, chance := .ofSeed (x.whole % (Nat.pow 2 32 : Int)).toNat }
      return .number old
    | "system", [e] => return .ofNat (← runCommand commands (← textAt e))
    | "close", e :: _ =>
      let name := State.inputName (← textAt e)
      let s ← get
      let isOpen := (s.outputs.lookup name).isSome || (s.inputs.lookup name).isSome
      let (status, s) := closeOutput commands s name
      set (s.closeInput name)
      if isOpen then return .ofNat status else return .number (Binary64.ofNat 1).negate
    | "fflush", _ =>
      modify (·.flush.settle)
      return .ofNat 0
    | _, e :: new :: rest =>
      if name = "sub" ∨ name = "gsub" then
        let r ← regexFor p commands fuel e
        let new ← textAt new
        let target := rest.headD (.field (.number (.ofNat 0)))
        let place ← placeFor p commands fuel target
        let s ← convertText (← load place)
        let (n, t) := replaceMatches r new.toList (name = "gsub") (s.length + 2) false [] s.toList
        if n > 0 then store (.text (String.ofList t)) place
        return .ofNat n
      else
        let xs := (← evaluateAll p commands fuel es).map Value.toNumber
        match numberFunction? name xs with
        | some x => return .number x
        | none => failWith ("wrong number of arguments in call to " ++ name)
    | _, _ =>
      let xs := (← evaluateAll p commands fuel es).map Value.toNumber
      match numberFunction? name xs with
      | some x => return .number x
      | none => failWith ("wrong number of arguments in call to " ++ name)

def execute (p : Program) (commands : Commands) : Nat → Stmt → Act Unit
  | 0, _ => throw .exit
  | fuel + 1, a => do
    match a with
    | .nothing => return ()
    | .value e => discard (evaluate p commands fuel e)
    | .print items goal =>
      let vs ← evaluateAll p commands fuel items
      let s ← get
      let text :=
        if items.isEmpty then s.recordText
        else (s.textOf "OFS").intercalate (vs.map (Value.toText (s.textOf "OFMT")))
      let goal ← goalFor p commands fuel goal
      writeTo goal (text ++ s.textOf "ORS")
    | .format items goal =>
      match ← evaluateAll p commands fuel items with
      | [] => return ()
      | format :: vs =>
        let format ← convertText format
        let (text, fault?) := formatText (← get).convert format vs
        writeTo (← goalFor p commands fuel goal) text
        match fault? with
        | some fault => failWith (fault.message "printf" format)
        | none => pure ()
    | .choose c a b =>
      if (← evaluate p commands fuel c).isTrue then execute p commands fuel a else execute p commands fuel b
    | .loop free c after body => runLoop p commands fuel free c after body
    | .each name table body => runEach p commands fuel name body (State.keysOf ((← get).table table))
    | .block body => executeAll p commands fuel body
    | .nextRecord => throw .nextRecord
    | .nextFile => throw .nextFile
    | .leaveLoop => throw .leaveLoop
    | .again => throw .again
    | .exit status =>
      match status with
      | some e =>
        let n := (← evaluate p commands fuel e).toNumber.whole
        modify fun s => { s with work := { s.work with status := (n % 256).toNat } }
      | none => pure ()
      throw .exit
    | .giveBack e =>
      match e with
      | some e => throw (.giveBack (← evaluate p commands fuel e))
      | none => throw (.giveBack .unset)
    | .delete table keys =>
      match keys with
      | none => modify (·.setTable table [])
      | some keys =>
        let key ← keyFor p commands fuel keys
        modify fun s => s.setTable table ((s.table table).filter (·.1 ≠ key))

def goalFor (p : Program) (commands : Commands) :
    Nat → Option (Goal × Expr) → Act (Option (Goal × String))
  | 0, _ => throw .exit
  | _ + 1, none => return none
  | fuel + 1, some (goal, e) => do return some (goal, ← convertText (← evaluate p commands fuel e))

def executeAll (p : Program) (commands : Commands) : Nat → List Stmt → Act Unit
  | 0, _ => throw .exit
  | _ + 1, [] => return ()
  | fuel + 1, a :: as => do
    execute p commands fuel a
    executeAll p commands fuel as

/-- A round of a loop after the other, the first one without its condition if it is free. -/
def runLoop (p : Program) (commands : Commands) :
    Nat → Bool → Option Expr → Stmt → Stmt → State → Except Stop Unit × State
  | 0, _, _, _, _, s => (.error .exit, s)
  | fuel + 1, free, c, after, body, s =>
    let test : Except Stop Bool × State :=
      match free, c with
      | false, some c => (do return (← evaluate p commands fuel c).isTrue : Act Bool) s
      | _, _ => (.ok true, s)
    match test with
    | (.error e, s) => (.error e, s)
    | (.ok false, s) => (.ok (), s)
    | (.ok true, s) =>
      match (execute p commands fuel body : Act Unit) s with
      | (.error .leaveLoop, s) => (.ok (), s)
      | (.ok (), s) | (.error .again, s) =>
        match (execute p commands fuel after : Act Unit) s with
        | (.ok (), s) => runLoop p commands fuel false c after body s
        | (.error e, s) => (.error e, s)
      | (.error e, s) => (.error e, s)

/-- A round of a loop for each of some keys. -/
def runEach (p : Program) (commands : Commands) :
    Nat → String → Stmt → List String → State → Except Stop Unit × State
  | 0, _, _, _, s => (.error .exit, s)
  | _ + 1, _, _, [], s => (.ok (), s)
  | fuel + 1, name, body, key :: keys, s =>
    match (execute p commands fuel body : Act Unit) (s.assign name (.given key)) with
    | (.error .leaveLoop, s) => (.ok (), s)
    | (.ok (), s) | (.error .again, s) => runEach p commands fuel name body keys s
    | (.error e, s) => (.error e, s)

end

/-! ### Rules -/

/-- Whether a rule is for the record. -/
def applies (p : Program) (commands : Commands) (fuel place : Nat) : Pattern → Act Bool
  | .start | .finish => return false
  | .always => return true
  | .when e => do return (← evaluate p commands fuel e).isTrue
  | .between first last => do
    let inside := (← get).active.contains place
    let begun ← if inside then pure true else (do return (← evaluate p commands fuel first).isTrue)
    if !begun then return false
    let ended := (← evaluate p commands fuel last).isTrue
    modify fun s =>
      { s with active := if ended then s.active.filter (· ≠ place) else
          if inside then s.active else place :: s.active }
    return true

/-- Carries out the rules that are for the record. -/
def runRules (p : Program) (commands : Commands) (fuel : Nat) : List (Rule × Nat) → Act Unit
  | [] => return ()
  | (rule, place) :: rest => do
    if ← applies p commands fuel place rule.pattern then
      execute p commands fuel (rule.action.getD (.print [] none))
    runRules p commands fuel rest

/-- Carries out the rules for one record after the other. -/
def scanRecords (p : Program) (commands : Commands) (rules : List (Rule × Nat)) :
    Nat → State → Except Stop Unit × State
  | 0, s => (.ok (), s)
  | fuel + 1, s =>
    match s.nextRecord fuel with
    | .error text => (.error (.fault text), s)
    | .ok (none, s) => (.ok (), s)
    | .ok (some text, s) =>
      match (runRules p commands fuel rules : Act Unit) (s.setRecord text) with
      | (.ok (), s) | (.error .nextRecord, s) => scanRecords p commands rules fuel s
      | (.error .nextFile, s) =>
        let s := match s.current with
          | some name => { s.closeInput name with current := none }
          | none => s
        scanRecords p commands rules fuel s
      | (.error e, s) => (.error e, s)

/-- The actions of the rules with a pattern. -/
def Program.actions (p : Program) (isOne : Pattern → Bool) : List Stmt :=
  p.rules.filterMap fun r => if isOne r.pattern then r.action else none

def Pattern.isStart : Pattern → Bool
  | .start => true
  | _ => false

def Pattern.isFinish : Pattern → Bool
  | .finish => true
  | _ => false

/-- All of a program. An exit leads to the last rules, and an exit there to the end. -/
def runAll (p : Program) (commands : Commands) (fuel : Nat) (s : State) : Except Stop Unit × State :=
  let rules := p.rules.zipIdx.filter fun r => !r.1.pattern.isStart && !r.1.pattern.isFinish
  let last := p.actions Pattern.isFinish
  let finish (s : State) : Except Stop Unit × State := (executeAll p commands fuel last : Act Unit) s
  match (executeAll p commands fuel (p.actions Pattern.isStart) : Act Unit) s with
  | (.error .exit, s) => finish s
  | (.error e, s) => (.error e, s)
  | (.ok (), s) =>
    if rules.isEmpty && last.isEmpty then (.ok (), s)
    else
      match scanRecords p commands rules fuel s with
      | (.ok (), s) | (.error .exit, s) => finish s
      | (.error e, s) => (.error e, s)

/-- The state before anything has been done. -/
def State.ofWork (w : Work) (operands : List String) : State where
  bindings :=
    [("NR", .ofNat 0), ("FNR", .ofNat 0), ("FS", .text " "), ("OFS", .text " "), ("ORS", .text "\n"),
      ("RS", .text "\n"), ("SUBSEP", .text "\x1c"), ("CONVFMT", .text "%.6g"), ("OFMT", .text "%.6g"),
      ("FILENAME", .text ""), ("RSTART", .ofNat 0), ("RLENGTH", .number (Binary64.ofNat 1).negate),
      ("ARGC", .ofNat (operands.length + 1))]
  tables :=
    [("ARGV", ("0", .text w.name) :: operands.zipIdx.map fun (t, i) => (decimal (i + 1), .given t)),
      ("ENVIRON", w.environment.map fun (n, t) => (n, .given t))]
  locals := []
  localTables := 0
  record := some ""
  fields := []
  active := []
  current := none
  operand := 1
  sawFile := false
  inputs := []
  outputs := []
  pending := ""
  waiting := 0
  seed := .ofNat 0
  chance := .ofSeed 0
  work := w

/-- The work of a program with some variables set and some operands. -/
def run (p : Program) (commands : Commands) (fuel : Nat) (settings : List (String × String))
    (operands : List String) (w : Work) : Work :=
  let s := settings.foldl (fun s (name, value) => s.assign name (.given value)) (State.ofWork w operands)
  let (outcome, s) := runAll p commands fuel s
  let finish (status : Nat) (s : State) : Work := { (closeAll commands s).settle.work with status }
  let number (name : String) : String := decimal (s.value name).toNumber.whole
  let noted (text : String) : Work := finish 2 { s with work := s.work.note (s.work.name ++ ": " ++ text ++ "\n") }
  let fault (text : String) : Work :=
    noted ("run time error: " ++ text ++ "\n\tFILENAME=\"" ++ s.textOf "FILENAME" ++ "\" FNR=" ++ number "FNR" ++
      " NR=" ++ number "NR")
  match outcome with
  | .ok () | .error .exit => finish s.work.status s
  | .error (.fault text) => if text.startsWith "cannot open" then noted text else fault text
  | .error _ => fault "improper use of a jump"

end PlanReuse.Script.Scan
