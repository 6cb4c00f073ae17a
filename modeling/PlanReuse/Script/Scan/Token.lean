import PlanReuse.Script.Format
import PlanReuse.Script.Scan.Syntax

/-!
# Tokens of scanning programs

A slash begins an expression for matches where no operand stands before it, and is a division elsewhere.
-/

namespace PlanReuse.Script.Scan

inductive Token
  | number (x : Binary64)
  | text (s : String)
  | regex (s : String)
  | name (s : String)
  /-- A name with a parenthesis right behind it. -/
  | call (s : String)
  | builtin (s : String)
  | word (s : String)
  | op (s : String)
  | newline
deriving DecidableEq

/-- Words that belong to the language. -/
def words : List String :=
  ["BEGIN", "END", "function", "func", "if", "else", "while", "for", "do", "break", "continue", "next",
    "nextfile", "exit", "return", "delete", "in", "getline", "print", "printf"]

/-- Functions that belong to the language. -/
def builtins : List String :=
  ["length", "substr", "index", "split", "sub", "gsub", "match", "sprintf", "sin", "cos", "atan2", "exp",
    "log", "sqrt", "int", "rand", "srand", "tolower", "toupper", "system", "close", "fflush"]

/-- The operators, longer ones first. -/
def signs : List String :=
  ["+=", "-=", "*=", "/=", "%=", "^=", "==", "<=", ">=", "!=", "++", "--", "&&", "||", ">>", "!~", "\x7b",
    "\x7d", "(", ")", "[", "]", ";", ",", "+", "-", "*", "/", "%", "^", "!", ">", "<", "|", "?", ":", "~",
    "$", "="]

/-- Whether a slash behind a token divides. -/
def Token.isOperand : Token → Bool
  | .number _ | .text _ | .regex _ | .name _ | .builtin _ => true
  | .op s => s == ")" || s == "]" || s == "$" || s == "++" || s == "--"
  | _ => false

/-! ### Texts -/

/-- The character that a backslash makes with what follows it, and how much of that it takes. -/
def escape? : List Char → Option (Char × Nat)
  | [] => none
  | c :: r =>
    if c = '"' then some (c, 1)
    else if isOctal c then
      let digits := ((c :: r).take 3).takeWhile isOctal
      some (octalChar digits, digits.length)
    else if c = 'x' then
      match (r.take 2).takeWhile (digitOf · < 16) with
      | [] => none
      | digits => some (Char.ofNat (scanDigits 16 0 digits).1, digits.length + 1)
    else if c = 'e' then none
    else (escapeLetters.lookup c).map fun d => (d, 1)

/-- A text with its escapes resolved. -/
def plainText : Nat → List Char → List Char
  | 0, _ => []
  | _, [] => []
  | fuel + 1, '\\' :: r =>
    match escape? r with
    | some (c, count) => c :: plainText fuel (r.drop count)
    | none => '\\' :: plainText fuel r
  | fuel + 1, c :: r => c :: plainText fuel r

/-- What stands up to a delimiter without a backslash before it, and the rest behind it. -/
def upTo? (delimiter : Char) : List Char → Option (List Char × List Char)
  | [] => none
  | '\\' :: c :: r => (upTo? delimiter r).map fun (s, rest) => ('\\' :: c :: s, rest)
  | c :: r =>
    if c = delimiter then some ([], r)
    else if c = '\n' then none
    else (upTo? delimiter r).map fun (s, rest) => (c :: s, rest)

/-- The text of an expression for matches, in which a slash may have a backslash before it. -/
def bareSlashes : List Char → List Char
  | '\\' :: '/' :: r => '/' :: bareSlashes r
  | '\\' :: c :: r => '\\' :: c :: bareSlashes r
  | c :: r => c :: bareSlashes r
  | [] => []

/-- The end of a line, or the text from there. -/
def skipLine (s : List Char) : List Char := s.dropWhile (· ≠ '\n')

/-! ### Tokens -/

/-- The token of a word. -/
def wordToken (s : List Char) (rest : List Char) : Token :=
  let name := String.ofList s
  if words.contains name then .word name
  else if builtins.contains name then .builtin name
  else if rest.head? = some '(' then .call name
  else .name name

/-- The decimal number in front of a text. -/
def scanNumber? (s : List Char) : Option (Binary64 × List Char) :=
  if s.head?.any Char.isDigit || (s.head? == some '.' && s.tail.head?.any Char.isDigit) then scanReal s
  else none

/-- The token in front of a text that does not begin with a blank, and the rest. -/
def nextToken? (last : Option Token) (s : List Char) : Option (Token × List Char) :=
  match s with
  | [] => none
  | c :: r =>
    if c = '\n' then some (.newline, r)
    else if c = '"' then
      (upTo? '"' r).map fun (t, rest) => (.text (String.ofList (plainText (t.length + 1) t)), rest)
    else if c = '/' ∧ !last.any Token.isOperand then
      (upTo? '/' r).map fun (t, rest) => (.regex (String.ofList (bareSlashes t)), rest)
    else if isNameStart c then
      let rest := s.dropWhile isNamePart
      some (wordToken (s.takeWhile isNamePart) rest, rest)
    else
      match scanNumber? s with
      | some (x, rest) => some (.number x, rest)
      | none =>
        (signs.find? fun o => o.toList.isPrefixOf s).map fun o => (.op o, s.drop o.length)

/-- The tokens of a text; none if it has something outside the language. -/
def tokensFrom : Nat → Option Token → List Char → Option (List Token)
  | 0, _, _ => none
  | fuel + 1, last, s =>
    match s with
    | [] => some []
    | c :: r =>
      if c = ' ' ∨ c = '\t' ∨ c = '\r' then tokensFrom fuel last r
      else if c = '#' then tokensFrom fuel last (skipLine r)
      else if c = '\\' ∧ r.head? = some '\n' then tokensFrom fuel last r.tail
      else
        match nextToken? last s with
        | none => none
        | some (t, rest) => (tokensFrom fuel (some t) rest).map (t :: ·)

/-- The tokens of a program. -/
def tokens? (program : String) : Option (List Token) :=
  tokensFrom (program.length + 1) none program.toList

end PlanReuse.Script.Scan
