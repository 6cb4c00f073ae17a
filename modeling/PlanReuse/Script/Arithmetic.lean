import PlanReuse.Script.Text

/-!
# Arithmetic

Expressions over integers of 64 bits, with the operators of C. Variables hold texts; one that is not set
or empty is zero.
-/

namespace PlanReuse.Script

inductive Term
  | number (n : Int)
  | name (s : String)
  | op (s : String)
deriving DecidableEq

/-- The operators, longer ones first. -/
def operators : List String :=
  ["<<=", ">>=", "<<", ">>", "<=", ">=", "==", "!=", "&&", "||", "*=", "/=", "%=", "+=", "-=", "&=", "^=",
    "|=", "<", ">", "=", "!", "~", "&", "|", "^", "*", "/", "%", "+", "-", "(", ")", "?", ":"]

/-- The terms of an expression; a sign outside the language ends them with a term that fits nowhere. -/
def terms : Nat → List Char → List Term
  | 0, _ => []
  | fuel + 1, s =>
    match s with
    | [] => []
    | c :: r =>
      if isSpace c then terms fuel r
      else if c.isDigit then
        match scanInteger 0 s with
        | some (n, rest) => .number (max (-(Nat.pow 2 63 : Int)) (min n (Nat.pow 2 63 - 1))) :: terms fuel rest
        | none => [.op ""]
      else if isNameStart c then
        .name (String.ofList (s.takeWhile isNamePart)) :: terms fuel (s.dropWhile isNamePart)
      else
        match operators.find? fun o => o.toList.isPrefixOf s with
        | some o => .op o :: terms fuel (s.drop o.length)
        | none => [.op ""]

/-- Why an expression has no value. -/
inductive SumFault
  | expectingPrimary
  | expectingEnd
  | expectingClose
  | expectingColon
  | divisionByZero
  | illegalNumber (text : String)
  | readOnly (name : String)
deriving DecidableEq

/-- What is said about an expression without a value. -/
def SumFault.message (expression : String) : SumFault → String
  | expectingPrimary => about "expecting primary"
  | expectingEnd => about "expecting EOF"
  | expectingClose => about "expecting ')'"
  | expectingColon => about "expecting ':'"
  | divisionByZero => about "division by zero"
  | illegalNumber text => "Illegal number: " ++ text
  | readOnly name => name ++ ": is read only"
where
  about (what : String) : String := "arithmetic expression: " ++ what ++ ": \"" ++ expression ++ "\""

/-- The variables while an expression is worked out. -/
structure Sums where
  value : String → Option String
  /-- Variables that may not change. -/
  isFixed : String → Bool
  /-- The variables set, the latest last. -/
  changes : List (String × String)

abbrev Calculation := StateT (List Term) (StateT Sums (Except SumFault))

def Sums.integerOf (s : Sums) (name : String) : Except SumFault Int :=
  match (s.changes.reverse.lookup name).or (s.value name) with
  | none => .ok 0
  | some text =>
    match integerOf? 0 text with
    | some n => .ok n
    | none => .error (.illegalNumber text)

/-- How tightly an operator binds; the least binds most. -/
def precedence? (op : String) : Option Nat :=
  match op with
  | "*" | "/" | "%" => some 0
  | "+" | "-" => some 1
  | "<<" | ">>" => some 2
  | "<" | "<=" | ">" | ">=" => some 3
  | "==" | "!=" => some 4
  | "&" => some 5
  | "^" => some 6
  | "|" => some 7
  | _ => none

def ofBool (b : Bool) : Int := if b then 1 else 0

/-- The value of an operator at two integers. -/
def applyOperator (op : String) (a b : Int) : Except SumFault Int :=
  let bits (f : Nat → Nat → Nat) : Int :=
    wrap (f (a % (Nat.pow 2 64 : Int)).toNat (b % (Nat.pow 2 64 : Int)).toNat)
  let shift : Nat := (b % 64).toNat
  match op with
  | "*" => .ok (wrap (a * b))
  | "/" => if b = 0 then .error .divisionByZero else .ok (wrap (Int.tdiv a b))
  | "%" => if b = 0 then .error .divisionByZero else .ok (wrap (Int.tmod a b))
  | "+" => .ok (wrap (a + b))
  | "-" => .ok (wrap (a - b))
  | "<<" => .ok (wrap (a * Nat.pow 2 shift))
  | ">>" => .ok (Int.fdiv a (Nat.pow 2 shift))
  | "<" => .ok (ofBool (a < b))
  | "<=" => .ok (ofBool (a ≤ b))
  | ">" => .ok (ofBool (b < a))
  | ">=" => .ok (ofBool (b ≤ a))
  | "==" => .ok (ofBool (a = b))
  | "!=" => .ok (ofBool (a ≠ b))
  | "&" => .ok (bits (· &&& ·))
  | "^" => .ok (bits (· ^^^ ·))
  | _ => .ok (bits (· ||| ·))

def nextTerm : Calculation (Option Term) := do
  match ← get with
  | [] => return none
  | t :: r =>
    set r
    return some t

def throwFault {α : Type} (fault : SumFault) : Calculation α := fun _ _ => .error fault

/-- Passes over an operator if it is in front. -/
def pass (op : String) : Calculation Bool := do
  match ← get with
  | t :: r =>
    if t = .op op then
      set r
      return true
    else return false
  | [] => return false

mutual

/-- An assignment, or an expression without one at its top. `quiet` says that the value will not be
used, so nothing is set and nothing can go wrong. -/
def assignment : Nat → Bool → Calculation Int
  | 0, _ => throwFault .expectingPrimary
  | fuel + 1, quiet => do
    match ← get with
    | .name x :: .op o :: r =>
      let binary := o.dropEnd 1
      if o = "=" ∨ (o.endsWith "=" ∧ o ≠ "==" ∧ o ≠ "!=" ∧ o ≠ "<=" ∧ o ≠ ">=") then
        set r
        let b ← assignment fuel quiet
        if quiet then return b
        let sums ← getThe Sums
        if sums.isFixed x then throwFault (.readOnly x)
        let n ← if o = "=" then pure b else (do
          let a ← (sums.integerOf x : Except SumFault Int)
          (applyOperator binary.toString a b : Except SumFault Int))
        modifyThe Sums fun s => { s with changes := s.changes ++ [(x, decimal n)] }
        return n
      else conditional fuel quiet
    | _ => conditional fuel quiet

def conditional : Nat → Bool → Calculation Int
  | 0, _ => throwFault .expectingPrimary
  | fuel + 1, quiet => do
    let a ← disjunction fuel quiet
    if ← pass "?" then
      let b ← assignment fuel (quiet || a == 0)
      if !(← pass ":") then throwFault .expectingColon
      let c ← conditional fuel (quiet || a != 0)
      return if a ≠ 0 then b else c
    else return a

def disjunction : Nat → Bool → Calculation Int
  | 0, _ => throwFault .expectingPrimary
  | fuel + 1, quiet => do
    let a ← conjunction fuel quiet
    if ← pass "||" then
      let b ← disjunction fuel (quiet || a != 0)
      return ofBool (a ≠ 0 ∨ b ≠ 0)
    else return a

def conjunction : Nat → Bool → Calculation Int
  | 0, _ => throwFault .expectingPrimary
  | fuel + 1, quiet => do
    let a ← binary fuel quiet 7
    if ← pass "&&" then
      let b ← conjunction fuel (quiet || a == 0)
      return ofBool (a ≠ 0 ∧ b ≠ 0)
    else return a

/-- Operators that bind at least as tightly as a level. -/
def binary : Nat → Bool → Nat → Calculation Int
  | 0, _, _ => throwFault .expectingPrimary
  | fuel + 1, quiet, level => do
    let a ← if level = 0 then primary fuel quiet else binary fuel quiet (level - 1)
    binaryFrom fuel quiet level a

def binaryFrom : Nat → Bool → Nat → Int → Calculation Int
  | 0, _, _, _ => throwFault .expectingPrimary
  | fuel + 1, quiet, level, a => do
    match ← get with
    | .op o :: r =>
      if precedence? o = some level then
        set r
        let b ← if level = 0 then primary fuel quiet else binary fuel quiet (level - 1)
        if quiet then binaryFrom fuel quiet level 0
        else
          let n ← (applyOperator o a b : Except SumFault Int)
          binaryFrom fuel quiet level n
      else return a
    | _ => return a

def primary : Nat → Bool → Calculation Int
  | 0, _ => throwFault .expectingPrimary
  | fuel + 1, quiet => do
    match ← nextTerm with
    | some (.number n) => return n
    | some (.name x) =>
      if quiet then return 0
      let sums ← getThe Sums
      (sums.integerOf x : Except SumFault Int)
    | some (.op "(") =>
      let n ← assignment fuel quiet
      if ← pass ")" then return n else throwFault .expectingClose
    | some (.op "+") => primary fuel quiet
    | some (.op "-") => return wrap (-(← primary fuel quiet))
    | some (.op "!") => return ofBool ((← primary fuel quiet) = 0)
    | some (.op "~") => return -(← primary fuel quiet) - 1
    | _ => throwFault .expectingPrimary

end

/-- The value of an expression, and the variables that it sets. -/
def calculate (value : String → Option String) (isFixed : String → Bool) (expression : String) :
    Except SumFault (Int × List (String × String)) := do
  let s := expression.toList
  let ((n, rest), sums) ←
    ((assignment (16 * s.length + 32) false).run (terms (s.length + 1) s)).run ⟨value, isFixed, []⟩
  if rest = [] then return (n, sums.changes) else .error .expectingEnd

end PlanReuse.Script
