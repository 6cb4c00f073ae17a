import PlanReuse.Script.Text

/-!
# Conditions

The conditions that scripts test: properties of files, comparisons of texts and of integers, joined by
`-a`, `-o`, `!` and parentheses. What a word means depends on the words after it, so that an operator may
also stand as a plain text.
-/

namespace PlanReuse.Script

inductive ConditionSign
  | unary
  | binary
  | not
  | and
  | or
  | opening
  | closing
deriving DecidableEq

def conditionSign? (s : String) : Option ConditionSign :=
  if ["-r", "-w", "-x", "-e", "-f", "-d", "-c", "-b", "-p", "-u", "-g", "-k", "-s", "-t", "-z", "-n", "-h",
      "-O", "-G", "-L", "-S"].contains s then some .unary
  else if ["=", "!=", "<", ">", "-eq", "-ne", "-ge", "-gt", "-le", "-lt", "-nt", "-ot", "-ef"].contains s then
    some .binary
  else
    match s with
    | "!" => some .not
    | "-a" => some .and
    | "-o" => some .or
    | "(" => some .opening
    | ")" => some .closing
    | _ => none

/-- What the word in front is taken for; none is a plain text. A unary operator is a text at the end and
before a binary one. -/
def leadingSign? : List String → Option ConditionSign
  | [] => none
  | s :: rest =>
    match conditionSign? s, rest with
    | some .unary, [] => none
    | some .unary, t :: _ :: _ => if conditionSign? t = some .binary then none else some .unary
    | some .opening, [] => none
    | sign, _ => sign

/-- What a condition asks of the disk. -/
structure FileTests where
  /-- A property of a file, by its letter. -/
  has : Char → String → Bool
  /-- Two names of one file. -/
  same : String → String → Bool
  /-- Whether the first of two files was changed after the second. -/
  newer : String → String → Bool

abbrev Conditions := StateT (List String) (Except String)

def illegalNumber (s : String) : String := "Illegal number: " ++ s

def integerOrFault (s : String) : Except String Int :=
  match integerOf? 10 s with
  | some n => .ok n
  | none => .error (illegalNumber s)

def compare (files : FileTests) (a op b : String) : Except String Bool := do
  let integers (p : Int → Int → Bool) : Except String Bool := do
    let m ← integerOrFault a
    let n ← integerOrFault b
    return p m n
  match op with
  | "=" => return a == b
  | "!=" => return a != b
  | "<" => return decide (a < b)
  | ">" => return decide (b < a)
  | "-eq" => integers (· == ·)
  | "-ne" => integers (· != ·)
  | "-lt" => integers (· < ·)
  | "-le" => integers (· ≤ ·)
  | "-gt" => integers (· > ·)
  | "-ge" => integers (· ≥ ·)
  | "-ef" => return files.same a b
  | "-nt" => return files.newer a b
  | "-ot" => return files.newer b a
  | _ => return false

def testUnary (files : FileTests) (op s : String) : Bool :=
  match op with
  | "-z" => s.isEmpty
  | "-n" => !s.isEmpty
  | _ => files.has ((op.toList.drop 1).headD ' ') s

mutual

def alternatives (files : FileTests) : Nat → Bool → Conditions Bool
  | 0, _ => return false
  | fuel + 1, asText => do
    let a ← conjuncts files fuel asText
    if leadingSign? (← get) = some .or then
      modify List.tail
      let b ← alternatives files fuel false
      return a || b
    else return a

def conjuncts (files : FileTests) : Nat → Bool → Conditions Bool
  | 0, _ => return false
  | fuel + 1, asText => do
    let a ← negations files fuel asText
    if leadingSign? (← get) = some .and then
      modify List.tail
      let b ← conjuncts files fuel false
      return a && b
    else return a

def negations (files : FileTests) : Nat → Bool → Conditions Bool
  | 0, _ => return false
  | fuel + 1, asText => do
    if !asText && leadingSign? (← get) = some .not then
      modify List.tail
      return !(← negations files fuel false)
    else single files fuel asText

/-- One test; `asText` says that the first word is a plain text whatever it looks like. -/
def single (files : FileTests) : Nat → Bool → Conditions Bool
  | 0, _ => return false
  | fuel + 1, asText => do
    match ← get with
    | [] => return false
    | s :: rest =>
      match if asText then none else leadingSign? (s :: rest) with
      | some .opening =>
        set rest
        if leadingSign? rest = some .closing then
          modify List.tail
          return false
        let a ← alternatives files fuel false
        if leadingSign? (← get) = some .closing then
          modify List.tail
          return a
        else throw "closing paren expected"
      | some .unary =>
        match rest with
        | [] => throw (s ++ ": argument expected")
        | t :: rest =>
          set rest
          return testUnary files s t
      | _ =>
        match leadingSign? rest, rest with
        | some .binary, op :: b :: rest =>
          set rest
          compare files s op b
        | some .binary, [op] => throw (op ++ ": argument expected")
        | _, _ =>
          set rest
          return !s.isEmpty

end

/-- The truth of a condition, or what is wrong with it. Three words with a binary operator in the middle
are a comparison, whatever the first one looks like; parentheses around one or two words are dropped. -/
def condition (files : FileTests) (words : List String) : Except String Bool := do
  let comparison := words.length = 3 ∧ (words[1]?).bind conditionSign? = some .binary
  let enclosed := (words.length = 3 ∨ words.length = 4) ∧ words.head? = some "(" ∧
    words.getLast? = some ")"
  let words := if !comparison ∧ enclosed then words.tail.dropLast else words
  let (b, rest) ← (alternatives files (8 * words.length + 8) comparison).run words
  match rest, words[words.length - rest.length - 1]? with
  | [], _ => return b
  | _, some s => throw (if s.isEmpty then "unexpected operator" else s ++ ": unexpected operator")
  | _, none => throw "unexpected operator"

end PlanReuse.Script
