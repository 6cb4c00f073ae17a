import PlanReuse.Script.Regex.Reader
import PlanReuse.Script.Tool.Basic

/-!
# Expressions of arguments

A tool works out an expression whose operators and operands are arguments of their own: integers, texts,
comparisons and matches.
-/

namespace PlanReuse.Script.Tool

/-- Why an expression has no value. -/
inductive ExpressionFault
  | noOperand
  | missing (before : String)
  | unexpected (word : String)
  | strayEnd
  | openBefore (last : String)
  | openInstead (word : String)
  | notInteger
  | divisionByZero
  | badPattern (fault : Regex.Fault)

def ExpressionFault.message : ExpressionFault → String
  | noOperand => "missing operand"
  | missing before => "syntax error: missing argument after " ++ quote before
  | unexpected word => "syntax error: unexpected argument " ++ quote word
  | strayEnd => "syntax error: unexpected ')'"
  | openBefore last => "syntax error: expecting ')' after " ++ quote last
  | openInstead word => "syntax error: expecting ')' instead of " ++ quote word
  | notInteger => "non-integer argument"
  | divisionByZero => "division by zero"
  | badPattern fault => fault.message

/-- The word that was read last, and those that are left. -/
abbrev Evaluation := StateT (String × List String) (Except ExpressionFault)

def nextWord? : Evaluation (Option String) := do return (← get).2.head?

def passWord : Evaluation Unit :=
  modify fun (last, words) =>
    match words with
    | w :: ws => (w, ws)
    | [] => (last, [])

def faulty {α : Type} (fault : ExpressionFault) : Evaluation α := fun _ => .error fault

/-- The integer that a whole text writes; no blanks are allowed. -/
def exactInteger? (s : String) : Option Int :=
  let (negative, digits) := match s.toList with
    | '-' :: r => (true, r)
    | r => (false, r)
  match scanDigits 10 0 digits with
  | (n, _ + 1, []) => some (if negative then -(n : Int) else n)
  | _ => none

def wantInteger (s : String) : Evaluation Int :=
  match exactInteger? s with
  | some n => return n
  | none => faulty .notInteger

/-- Whether a value counts as false: empty, or a zero. -/
def isNull (s : String) : Bool :=
  s.isEmpty || (match s.toList with
    | '-' :: r => !r.isEmpty && r.all (· == '0')
    | r => r.all (· == '0'))

/-- What a pattern matches at the start of a text: its first group, or how long the match is. -/
def matchValue (text pattern : String) : Evaluation String :=
  match Regex.read .basic pattern with
  | .error fault => faulty (.badPattern fault)
  | .ok r =>
    match Regex.matchAt? false r [] text.toList with
    | some q =>
      return if r.groupCount = 0 then toString (text.length - q.after.length)
        else String.ofList ((q.groups.lookup 1).getD [])
    | none => return if r.groupCount = 0 then "0" else ""

def compareWords (op a b : String) : String :=
  let o := match exactInteger? a, exactInteger? b with
    | some m, some n => Ord.compare m n
    | _, _ => Ord.compare a b
  let holds : Bool := match op with
    | "=" | "==" => o == .eq
    | "!=" => o != .eq
    | "<" => o == .lt
    | "<=" => o != .gt
    | ">" => o == .gt
    | _ => o != .lt
  if holds then "1" else "0"

/-- The operators of each level, the loosest first. -/
def levels : List (List String) :=
  [["|"], ["&"], ["=", "==", "!=", "<", "<=", ">", ">="], ["+", "-"], ["*", "/", "%"], [":"]]

/-- Whether the value of the right side is asked for. -/
def wantsRight (op left : String) : Bool :=
  if op = "|" then isNull left else if op = "&" then !isNull left else true

def combine (op a b : String) : Evaluation String := do
  match op with
  | "|" => return if !isNull a then a else if isNull b then "0" else b
  | "&" => return if isNull a || isNull b then "0" else a
  | ":" => matchValue a b
  | "+" | "-" | "*" | "/" | "%" =>
    let m ← wantInteger a
    let n ← wantInteger b
    match op with
    | "+" => return decimal (m + n)
    | "-" => return decimal (m - n)
    | "*" => return decimal (m * n)
    | "/" => if n = 0 then faulty .divisionByZero else return decimal (Int.tdiv m n)
    | _ => if n = 0 then faulty .divisionByZero else return decimal (Int.tmod m n)
  | _ => return compareWords op a b

mutual

/-- Operators of a level and all tighter ones. Where the value is not `wanted`, nothing can be wrong with it
but its form. -/
def evaluateLevel : Nat → List (List String) → Bool → Evaluation String
  | 0, _, _ => faulty .noOperand
  | fuel + 1, [], wanted => evaluateCall fuel wanted
  | fuel + 1, ops :: tighter, wanted => do
    let a ← evaluateLevel fuel tighter wanted
    evaluateFrom fuel ops tighter wanted a

def evaluateFrom : Nat → List String → List (List String) → Bool → String → Evaluation String
  | 0, _, _, _, _ => faulty .noOperand
  | fuel + 1, ops, tighter, wanted, a => do
    match ← nextWord? with
    | some op =>
      if ops.contains op then
        passWord
        let b ← evaluateLevel fuel tighter (wanted && wantsRight op a)
        evaluateFrom fuel ops tighter wanted (← if wanted then combine op a b else pure a)
      else return a
    | none => return a

/-- A word that asks for something about the operands behind it, or an operand. -/
def evaluateCall : Nat → Bool → Evaluation String
  | 0, _ => faulty .noOperand
  | fuel + 1, wanted => do
    match ← nextWord? with
    | some "+" =>
      passWord
      match ← nextWord? with
      | some w =>
        passWord
        return w
      | none => faulty (.missing "+")
    | some "length" =>
      passWord
      return toString (← evaluateCall fuel wanted).length
    | some "match" =>
      passWord
      let a ← evaluateCall fuel wanted
      let b ← evaluateCall fuel wanted
      if wanted then matchValue a b else return a
    | some "index" =>
      passWord
      let a ← evaluateCall fuel wanted
      let b ← evaluateCall fuel wanted
      return match a.toList.findIdx? (b.contains ·) with
        | some i => toString (i + 1)
        | none => "0"
    | some "substr" =>
      passWord
      let a ← evaluateCall fuel wanted
      let b ← evaluateCall fuel wanted
      let c ← evaluateCall fuel wanted
      match exactInteger? b, exactInteger? c with
      | some first, some count =>
        return if first ≤ 0 ∨ count ≤ 0 then ""
          else String.ofList ((a.toList.drop (first - 1).toNat).take count.toNat)
      | _, _ => return ""
    | _ => evaluateSingle fuel wanted

/-- A word, or an expression in parentheses. -/
def evaluateSingle : Nat → Bool → Evaluation String
  | 0, _ => faulty .noOperand
  | fuel + 1, wanted => do
    match ← nextWord? with
    | none => faulty (.missing (← get).1)
    | some "(" =>
      passWord
      let a ← evaluateLevel fuel levels wanted
      match ← nextWord? with
      | some ")" =>
        passWord
        return a
      | some w => faulty (.openInstead w)
      | none => faulty (.openBefore (← get).1)
    | some ")" => faulty .strayEnd
    | some w =>
      passWord
      return w

end

def expr (arguments : List String) : Tool Unit := do
  let words := if arguments.head? = some "--" then arguments.tail else arguments
  let result : Except ExpressionFault String := do
    if words.isEmpty then throw .noOperand
    let (a, (_, rest)) ← (evaluateLevel (16 * words.length + 32) levels true).run ("", words)
    match rest with
    | [] => return a
    | w :: _ => throw (.unexpected w)
  match result with
  | .ok a =>
    putLine a
    setStatus (if isNull a then 1 else 0)
  | .error fault =>
    match fault with
    | .noOperand => misuse fault.message
    | _ => say fault.message
    setStatus 2

/-- An expression, unless its only word asks for help. -/
def expression (arguments : List String) : Tool Unit :=
  match arguments with
  | [word] =>
    if word.startsWith "--" && word.length > 2 && ("--help".startsWith word || "--version".startsWith word) then
      withOptions ⟨"", "", "", [("help", 'h'), ("version", 'v')]⟩ 2
        [if "--help".startsWith word then "--help" else "--version"] fun _ => return
    else expr arguments
  | _ => expr arguments

end PlanReuse.Script.Tool
