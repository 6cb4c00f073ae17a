import PlanReuse.Script.Regex.Reader
import PlanReuse.Script.Scan.Token

/-!
# Reading scanning programs

Rules and routines from tokens. Operators bind in levels; two operands side by side are joined.
-/

namespace PlanReuse.Script.Scan

abbrev Reading := StateT (List Token) Option

namespace Reading

/-- Passes over an operator if it is in front. -/
def pass (s : String) : Reading Bool := do
  match ← get with
  | t :: r =>
    if t = .op s then
      set r
      return true
    else return false
  | [] => return false

def want (s : String) : Reading Unit := do
  if !(← pass s) then failure

/-- Passes over line ends. -/
def skipLines : Reading Unit := modify (·.dropWhile (· = .newline))

/-- Passes over line ends and semicolons. -/
def skipEnds : Reading Unit := modify (·.dropWhile fun t => t = .newline || t = .op ";")

/-- Whether a statement ends here. -/
def atEnd : Reading Bool := do
  match ← get with
  | [] | .newline :: _ => return true
  | t :: _ => return t = .op ";" || t = .op "\x7d"

/-- The end of a statement: a semicolon, a line end, or a brace that stays. -/
def finish : Reading Unit := do
  if !(← atEnd) then failure
  skipEnds

def readName : Reading String := do
  match ← get with
  | .name s :: r =>
    set r
    return s
  | _ => failure

end Reading

open PlanReuse.Script.Scan.Reading

/-- Whether a value may be put into what an expression stands for. -/
def Expr.isTarget : Expr → Bool
  | .variable _ | .field _ | .item _ _ => true
  | _ => false

/-- The keys that an expression before `in` stands for. -/
def Expr.keys : Expr → List Expr
  | .several es => es
  | e => [e]

def wholeOperator? (s : String) : Option Operator :=
  match s with
  | "+" => some .add
  | "-" => some .sub
  | "*" => some .mul
  | "/" => some .div
  | "%" => some .rem
  | "^" => some .pow
  | _ => none

/-- What an assignment does before it assigns. -/
def assignment? (s : String) : Option (Option Operator) :=
  if s = "=" then some none
  else
    match s.toList with
    | [c, '='] => (wholeOperator? c.toString).map some
    | _ => none

/-- The comparison of a sign. In a print a sign for more says where it goes. -/
def comparison? (printing : Bool) (s : String) : Option Comparison :=
  match s with
  | "<" => some .less
  | "<=" => some .lessEq
  | "==" => some .equal
  | "!=" => some .different
  | ">" => if printing then none else some .more
  | ">=" => if printing then none else some .moreEq
  | _ => none

/-- The level at which operands side by side are joined, and the one of operators before an operand. -/
def joinLevel : Nat := 6
def unaryLevel : Nat := 9

/-- What a sign does between two operands of a level; higher levels bind more. -/
def operatorAt? (printing : Bool) (level : Nat) (s : String) : Option (Expr → Expr → Expr) :=
  match level with
  | 1 => if s = "||" then some .or else none
  | 2 => if s = "&&" then some .and else none
  | 4 => if s = "~" then some (.matching false) else if s = "!~" then some (.matching true) else none
  | 5 => (comparison? printing s).map .compare
  | 7 => if s = "+" ∨ s = "-" then (wholeOperator? s).map .binary else none
  | 8 => if s = "*" ∨ s = "/" ∨ s = "%" then (wholeOperator? s).map .binary else none
  | _ => none

/-- Whether a token begins an operand that is joined to the one before it. -/
def Token.isBeginning : Token → Bool
  | .number _ | .text _ | .name _ | .call _ | .builtin _ => true
  | .op s => s == "(" || s == "$" || s == "!" || s == "++" || s == "--"
  | _ => false

/-! ### Expressions -/

mutual

def readExpr : Nat → Bool → Reading Expr
  | 0, _ => failure
  | fuel + 1, printing => do
    let a ← readLevel fuel printing 1
    if ← Reading.pass "?" then
      skipLines
      let b ← readExpr fuel printing
      skipLines
      want ":"
      skipLines
      return .choose a b (← readExpr fuel printing)
    else return a

/-- Operands with operators of a level or above. -/
def readLevel : Nat → Bool → Nat → Reading Expr
  | 0, _, _ => failure
  | fuel + 1, printing, level => do
    if level = unaryLevel then readUnary fuel printing
    else readMore fuel printing level (← readLevel fuel printing (level + 1))

/-- What follows an operand at a level. -/
def readMore : Nat → Bool → Nat → Expr → Reading Expr
  | 0, _, _, _ => failure
  | fuel + 1, printing, level, a => do
    match ← get with
    | [] => return a
    | t :: r =>
      if level = 3 then
        if t = .word "in" then
          set r
          readMore fuel printing level (.isIn a.keys (← readName))
        else return a
      else if level = joinLevel then
        if t.isBeginning then
          let b ← readLevel fuel printing (level + 1)
          readMore fuel printing level (.join a b)
        else return a
      else
        match t with
        | .op s =>
          match operatorAt? printing level s with
          | some f =>
            set r
            if level ≤ 2 then skipLines
            let b ← readLevel fuel printing (level + 1)
            readMore fuel printing level (f a b)
          | none => return a
        | _ => return a

/-- An operand with signs before it. -/
def readUnary : Nat → Bool → Reading Expr
  | 0, _ => failure
  | fuel + 1, printing => do
    if ← Reading.pass "!" then return .not (← readUnary fuel printing)
    else if ← Reading.pass "-" then return .negative (← readUnary fuel printing)
    else if ← Reading.pass "+" then return .positive (← readUnary fuel printing)
    else
      let a ← readPostfix fuel printing
      if ← Reading.pass "^" then return .binary .pow a (← readUnary fuel printing) else return a

/-- An operand with a step or an assignment behind it, or one that is a command to read from. -/
def readPostfix : Nat → Bool → Reading Expr
  | 0, _ => failure
  | fuel + 1, printing => do
    let a ← readPrimary fuel
    let a ←
      if !a.isTarget then pure a
      else if ← Reading.pass "++" then pure (.step true false a)
      else if ← Reading.pass "--" then pure (.step false false a)
      else
        match ← get with
        | .op s :: r =>
          match assignment? s with
          | some o =>
            set r
            skipLines
            pure (.assign a o (← readExpr fuel printing))
          | none => pure a
        | _ => pure a
    readCommands fuel a

/-- Reads from commands, one from the other. -/
def readCommands : Nat → Expr → Reading Expr
  | 0, _ => failure
  | fuel + 1, a => do
    match ← get with
    | .op "|" :: .word "getline" :: r =>
      set r
      let target ← readTarget? fuel
      readCommands fuel (.readCommand a target)
    | _ => return a

/-- What a value is put into, if something like that follows. -/
def readTarget? : Nat → Reading (Option Expr)
  | 0 => failure
  | fuel + 1 => do
    match ← get with
    | .name _ :: _ | .op "$" :: _ => return some (← readPrimary fuel)
    | _ => return none

def readPrimary : Nat → Reading Expr
  | 0 => failure
  | fuel + 1 => do
    match ← get with
    | [] => failure
    | t :: r =>
      set r
      match t with
      | .number x => return .number x
      | .text s => return .text s
      | .regex s =>
        match (Regex.read .table s).toOption with
        | some e => return .regex e
        | none => failure
      | .name s => if ← Reading.pass "[" then return .item s (← readItems fuel "]") else return .variable s
      | .call s =>
        want "("
        return .call s (← readItems fuel ")")
      | .builtin s =>
        if ← Reading.pass "(" then return .builtin s (← readItems fuel ")")
        else if s = "length" then return .builtin s []
        else failure
      | .word "getline" =>
        let target ← readTarget? fuel
        if ← Reading.pass "<" then return .readRecord target (some (← readPrimary fuel))
        else return .readRecord target none
      | .op "(" =>
        match ← readItems fuel ")" with
        | [] => failure
        | [e] => return e
        | es => return .several es
      | .op "$" =>
        if ← Reading.pass "-" then return .field (.negative (← readPrimary fuel))
        else return .field (← readPrimary fuel)
      | .op "++" => return .step true true (← readPrimary fuel)
      | .op "--" => return .step false true (← readPrimary fuel)
      | .op "-" => return .negative (← readPrimary fuel)
      | _ => failure

/-- Expressions with commas between them, up to a closing sign. -/
def readItems : Nat → String → Reading (List Expr)
  | 0, _ => failure
  | fuel + 1, closing => do
    skipLines
    if ← Reading.pass closing then return []
    let e ← readExpr fuel false
    skipLines
    if ← Reading.pass "," then
      let es ← readItems fuel closing
      if es.isEmpty then failure
      return e :: es
    else
      want closing
      return [e]

end

/-- Expressions with commas between them that are printed. -/
def readPrinted : Nat → Reading (List Expr)
  | 0 => failure
  | fuel + 1 => do
    let e ← readExpr fuel true
    if ← Reading.pass "," then
      skipLines
      return e :: (← readPrinted fuel)
    else return [e]

/-! ### Statements -/

/-- What a print prints, and where. -/
def readPrint (fuel : Nat) : Reading (List Expr × Option (Goal × Expr)) := do
  let atGoal ← match ← get with
    | .op s :: _ => pure (s == ">" || s == ">>" || s == "|")
    | _ => pure false
  let items ← if atGoal || (← atEnd) then pure [] else readPrinted fuel
  let items := match items with
    | [.several es] => es
    | es => es
  let goal? : Option Goal ←
    if ← Reading.pass ">" then pure (some Goal.file)
    else if ← Reading.pass ">>" then pure (some Goal.append)
    else if ← Reading.pass "|" then pure (some Goal.command)
    else pure none
  match goal? with
  | some goal => return (items, some (goal, ← readExpr fuel true))
  | none => return (items, none)

/-- An expression, unless the statement ends here. -/
def readOptional (fuel : Nat) : Reading (Option Expr) := do
  if ← atEnd then return none else return some (← readExpr fuel false)

/-- A statement of one line, without its end. -/
def readSimple (fuel : Nat) : Reading Stmt := do
  let s ← get
  set s.tail
  match s with
  | .word "print" :: _ =>
    let (items, goal) ← readPrint fuel
    return .print items goal
  | .word "printf" :: _ =>
    let (items, goal) ← readPrint fuel
    if items.isEmpty then failure
    return .format items goal
  | .word "next" :: _ => return .nextRecord
  | .word "nextfile" :: _ => return .nextFile
  | .word "break" :: _ => return .leaveLoop
  | .word "continue" :: _ => return .again
  | .word "exit" :: _ => return .exit (← readOptional fuel)
  | .word "return" :: _ => return .giveBack (← readOptional fuel)
  | .word "delete" :: _ =>
    let name ← readName
    if ← Reading.pass "[" then return .delete name (some (← readItems fuel "]")) else return .delete name none
  | _ =>
    set s
    return .value (← readExpr fuel false)

/-- A condition in parentheses. -/
def readCondition (fuel : Nat) : Reading Expr := do
  want "("
  let e ← readExpr fuel false
  want ")"
  return e

/-- Passes over `else`, and over line ends and a semicolon before it. -/
def passElse : Reading Bool := do
  let s ← get
  skipEnds
  match ← get with
  | .word "else" :: r =>
    set r
    skipLines
    return true
  | _ =>
    set s
    return false

/-- The head of a loop over keys: the name and the table. -/
def passKeys? : Reading (Option (String × String)) := do
  match ← get with
  | .name name :: .word "in" :: .name table :: .op ")" :: r =>
    set r
    return some (name, table)
  | _ => return none

mutual

def readStmt : Nat → Reading Stmt
  | 0 => failure
  | fuel + 1 => do
    match ← get with
    | .op "\x7b" :: r =>
      set r
      return .block (← readStmts fuel)
    | .op ";" :: r =>
      set r
      return .nothing
    | .word "if" :: r =>
      set r
      let c ← readCondition fuel
      let yes ← readBody fuel
      if ← passElse then return .choose c yes (← readStmt fuel) else return .choose c yes .nothing
    | .word "while" :: r =>
      set r
      let c ← readCondition fuel
      return .loop false (some c) .nothing (← readBody fuel)
    | .word "do" :: r =>
      set r
      let body ← readBody fuel
      skipEnds
      match ← get with
      | .word "while" :: r =>
        set r
        let c ← readCondition fuel
        finish
        return .loop true (some c) .nothing body
      | _ => failure
    | .word "for" :: r =>
      set r
      want "("
      match ← passKeys? with
      | some (name, table) => return .each name table (← readBody fuel)
      | none =>
        let first ← readPart fuel ";"
        let c ← do
          skipLines
          if ← Reading.pass ";" then pure none
          else
            let c ← readExpr fuel false
            want ";"
            pure (some c)
        skipLines
        let after ← readPart fuel ")"
        return .block [first, .loop false c after (← readBody fuel)]
    | _ =>
      let a ← readSimple fuel
      finish
      return a

/-- A statement in the head of a loop, up to a sign. -/
def readPart : Nat → String → Reading Stmt
  | 0, _ => failure
  | fuel + 1, closing => do
    if ← Reading.pass closing then return .nothing
    let a ← readSimple fuel
    want closing
    return a

/-- A statement that may stand on the next line. -/
def readBody : Nat → Reading Stmt
  | 0 => failure
  | fuel + 1 => do
    skipLines
    readStmt fuel

/-- Statements up to a closing brace. -/
def readStmts : Nat → Reading (List Stmt)
  | 0 => failure
  | fuel + 1 => do
    skipEnds
    if ← Reading.pass "\x7d" then return []
    let a ← readStmt fuel
    return a :: (← readStmts fuel)

end

/-- Statements in braces. -/
def readBlock (fuel : Nat) : Reading Stmt := do
  want "\x7b"
  return .block (← readStmts fuel)

/-! ### Programs -/

def readParameters : Nat → Reading (List String)
  | 0 => failure
  | fuel + 1 => do
    if ← Reading.pass ")" then return []
    let name ← readName
    if ← Reading.pass "," then
      skipLines
      return name :: (← readParameters fuel)
    else
      want ")"
      return [name]

def readRoutine (fuel : Nat) : Reading Routine := do
  match ← get with
  | .call name :: r | .name name :: r =>
    set r
    want "("
    let parameters ← readParameters fuel
    skipLines
    return ⟨name, parameters, ← readBlock fuel⟩
  | _ => failure

/-- A pattern with the action behind it. -/
def readRule (fuel : Nat) : Reading Rule := do
  let s ← get
  match s with
  | .word "BEGIN" :: r =>
    set r
    return ⟨.start, some (← readBlock fuel)⟩
  | .word "END" :: r =>
    set r
    return ⟨.finish, some (← readBlock fuel)⟩
  | .op "\x7b" :: _ => return ⟨.always, some (← readBlock fuel)⟩
  | _ =>
    let first ← readExpr fuel false
    let pattern ←
      if ← Reading.pass "," then
        skipLines
        pure (Pattern.between first (← readExpr fuel false))
      else pure (Pattern.when first)
    match ← get with
    | .op "\x7b" :: _ => return ⟨pattern, some (← readBlock fuel)⟩
    | _ => return ⟨pattern, none⟩

def readProgram : Nat → Reading Program
  | 0 => failure
  | fuel + 1 => do
    skipEnds
    match ← get with
    | [] => return ⟨[], []⟩
    | .word "function" :: r | .word "func" :: r =>
      set r
      let f ← readRoutine fuel
      let p ← readProgram fuel
      return { p with routines := f :: p.routines }
    | _ =>
      let rule ← readRule fuel
      let p ← readProgram fuel
      return { p with rules := rule :: p.rules }

/-- The program that a text writes. -/
def Program.ofText? (text : String) : Option Program := do
  let ts ← tokens? text
  let (p, _) ← (readProgram (24 * ts.length + 64)).run ts
  return p

end PlanReuse.Script.Scan
