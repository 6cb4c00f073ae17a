import PlanReuse.Text.Blank
import PlanReuse.Toml.Document
import PlanReuse.Toml.Text

/-!
# Reading TOML

The text of a document, line by line. Inside brackets and braces a value may run over several lines,
with comments, and the last item may be followed by a comma. Each reader takes the text that is left and
gives what it has read and the rest.
-/

namespace PlanReuse.Toml

/-! ### Blanks and comments -/

/-- Passes over a comment, if there is one. -/
def skipComment : List Char → List Char
  | '#' :: r => r.dropWhile isPrintable
  | s => s

/-- The end of a line that says no more: blanks, a comment, and a line end or the end of the text. -/
def restOfLine? (s : List Char) : Option (List Char) :=
  match skipComment (skipSpaces s) with
  | [] => some []
  | r => dropLineEnd? r

/-- Passes over blanks, line ends and comments; `inComment` says that a comment has begun. -/
def skipFiller (inComment : Bool) : List Char → List Char
  | [] => []
  | c :: r =>
    if c = '\n' then skipFiller false r
    else if c = '\r' then if r.head? = some '\n' then skipFiller false r else c :: r
    else if inComment then if isPrintable c then skipFiller true r else c :: r
    else if c = '#' then skipFiller true r
    else if isSpace c then skipFiller false r
    else c :: r

/-! ### Keys -/

def isBareChar (c : Char) : Bool := c.isAlphanum || c == '_' || c == '-'

/-- A key without dots. -/
def readSimpleKey? : List Char → Option (List Char × List Char)
  | '"' :: r => readBasic? r
  | '\'' :: r => readLiteral? r
  | s => if (s.takeWhile isBareChar).isEmpty then none else some (s.takeWhile isBareChar, s.dropWhile isBareChar)

/-- How many names a dotted key may have. -/
def nameLimit : Nat := 80

/-- Keys with dots between them, up to a number of them: the ones before the last, and the last. -/
def readKey? : Nat → List Char → Option ((List String × String) × List Char)
  | 0, _ => none
  | limit + 1, s =>
    match readSimpleKey? s with
    | none => none
    | some (k, r) =>
      match skipSpaces r with
      | '.' :: r' =>
        (readKey? limit (skipSpaces r')).map fun ((path, key), rest) =>
          ((String.ofList k :: path, key), rest)
      | _ => some (([], String.ofList k), r)

/-! ### Values -/

/-- How deep brackets and braces may be nested. -/
def depthLimit : Nat := 80

/-- The characters of a value without delimiters, and the rest. Blanks between two words belong to the
value: a date may be followed by a time of day. -/
def splitPlain : List Char → List Char × List Char
  | [] => ([], [])
  | c :: r =>
    let goesOn : Bool := match r.dropWhile isSpace with
      | d :: _ => isPlainChar d && d != '"' && d != '\''
      | [] => false
    if isPlainChar c || (isSpace c && goesOn) then
      let (more, rest) := splitPlain r
      (c :: more, rest)
    else ([], c :: r)

def readPlainValue? (s : List Char) : Option (Value × List Char) :=
  let (word, rest) := splitPlain s
  (readPlain? word).map fun v => (v, rest)

mutual

/-- A value and the rest. The first argument bounds the steps, the second counts the brackets that are
open. -/
def readValue? : Nat → Nat → List Char → Option (Value × List Char)
  | 0, _, _ => none
  | fuel + 1, depth, s =>
    match s with
    | '[' :: r =>
      if depth < depthLimit then
        (readItems? fuel (depth + 1) (skipFiller false r)).map fun (vs, rest) => (.array vs, rest)
      else none
    | '\x7b' :: r =>
      if depth < depthLimit then
        match readPairs? fuel (depth + 1) (skipFiller false r) with
        | none => none
        | some (pairs, rest) =>
          (assembleBraces pairs .braces []).map fun es => (.table .braces es, rest)
      else none
    | '"' :: _ | '\'' :: _ => (readString? s).map fun (t, rest) => (.string (String.ofList t), rest)
    | _ => readPlainValue? s

/-- The items up to a closing bracket. -/
def readItems? : Nat → Nat → List Char → Option (List Value × List Char)
  | 0, _, _ => none
  | fuel + 1, depth, s =>
    match s with
    | ']' :: r => some ([], r)
    | _ =>
      match readValue? fuel depth s with
      | none => none
      | some (v, r) =>
        match skipFiller false r with
        | ']' :: r => some ([v], r)
        | ',' :: r =>
          (readItems? fuel depth (skipFiller false r)).map fun (vs, rest) => (v :: vs, rest)
        | _ => none

/-- The keys and values up to a closing brace. -/
def readPairs? : Nat → Nat → List Char → Option (List (List String × String × Value) × List Char)
  | 0, _, _ => none
  | fuel + 1, depth, s =>
    match s with
    | '\x7d' :: r => some ([], r)
    | _ =>
      match readEntry? fuel depth s with
      | none => none
      | some (pair, r) =>
        match skipFiller false r with
        | '\x7d' :: r => some ([pair], r)
        | ',' :: r =>
          (readPairs? fuel depth (skipFiller false r)).map fun (ps, rest) => (pair :: ps, rest)
        | _ => none

/-- A key, an equals sign and a value. Inside brackets they need not stand in one line. -/
def readEntry? : Nat → Nat → List Char → Option ((List String × String × Value) × List Char)
  | 0, _, _ => none
  | fuel + 1, depth, s =>
    let skip := if depth = 0 then skipSpaces else skipFiller false
    match readKey? nameLimit s with
    | none => none
    | some ((path, key), r) =>
      match skip r with
      | '=' :: r =>
        (readValue? fuel depth (skip r)).map fun (v, rest) => ((path, key, v), rest)
      | _ => none

end

/-- Steps enough for a value in a text: each one takes a character or comes before one that does. -/
def stepsFor (s : List Char) : Nat := 3 * s.length + 3

/-! ### Lines -/

/-- The inside of a header, up to its closing brackets. -/
def readHeader? (close : List Char) (s : List Char) : Option ((List String × String) × List Char) :=
  let s := skipSpaces s
  match readKey? nameLimit s with
  | none => none
  | some (k, r) =>
    let r := skipSpaces r
    if close.isPrefixOf r then (restOfLine? (r.drop close.length)).map fun rest => (k, rest) else none

/-- A line that says something. -/
def readItem? (s : List Char) : Option (Item × List Char) :=
  match s with
  | '[' :: '[' :: r => (readHeader? [']', ']'] r).map fun ((path, key), rest) => (.arrayHeader path key, rest)
  | '[' :: r => (readHeader? [']'] r).map fun ((path, key), rest) => (.header path key, rest)
  | _ =>
    match readEntry? (stepsFor s) 0 s with
    | none => none
    | some ((path, key, v), r) => (restOfLine? r).map fun rest => (.entry path key v, rest)

/-- The lines of a text that say something. -/
def readLinesUpTo? : Nat → List Char → Option (List Item)
  | 0, _ => none
  | fuel + 1, s =>
    match skipSpaces s with
    | [] => some []
    | c :: r =>
      if c = '#' ∨ c = '\n' ∨ c = '\r' then
        match restOfLine? (c :: r) with
        | none => none
        | some rest => readLinesUpTo? fuel rest
      else
        match readItem? (c :: r) with
        | none => none
        | some (item, rest) => (readLinesUpTo? fuel rest).map (item :: ·)

/-- The entries of the document that a text writes. -/
def read? (text : List Char) : Option Entries :=
  let s := Text.dropMark text
  (readLinesUpTo? (s.length + 1) s).bind assemble

end PlanReuse.Toml
