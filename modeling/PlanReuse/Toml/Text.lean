import PlanReuse.Toml.Scalar

/-!
# TOML strings

The four notations of a string: between one quote or three, with escapes between double quotes and
without between single ones. A reader takes what follows the opening quotes and gives the string and the
rest of the text.
-/

namespace PlanReuse.Toml

def isSpace (c : Char) : Bool := c == ' ' || c == '\t'

def skipSpaces (s : List Char) : List Char := s.dropWhile isSpace

/-- A line end: a line feed, or a carriage return and a line feed. -/
def dropLineEnd? : List Char → Option (List Char)
  | '\n' :: r => some r
  | '\r' :: '\n' :: r => some r
  | _ => none

/-- Characters that may stand in comments and strings as they are. -/
def isPrintable (c : Char) : Bool := c == '\t' || (0x20 ≤ c.toNat && c.toNat ≠ 0x7F)

/-! ### Escapes -/

/-- The character that a single letter after a backslash stands for. -/
def letterEscape? (c : Char) : Option Char :=
  match c with
  | 'b' => some '\x08'
  | 't' => some '\t'
  | 'n' => some '\n'
  | 'f' => some '\x0c'
  | 'r' => some '\r'
  | 'e' => some '\x1b'
  | '"' => some '"'
  | '\\' => some '\\'
  | _ => none

/-- The character with a number in hexadecimal; a surrogate is no character. -/
def codeEscape? (digits : List Char) : Option Char :=
  match digits.foldlM (fun n c => (hexValue? c).map (n * 16 + ·)) 0 with
  | some n => if n.isValidChar then some (Char.ofNat n) else none
  | none => none

/-- A string and the rest, with one more character in front of the string. -/
def consTo (c : Char) (r : Option (List Char × List Char)) : Option (List Char × List Char) :=
  r.map fun (s, rest) => (c :: s, rest)

/-! ### Between one quote -/

/-- What follows an opening double quote. -/
def readBasic? : List Char → Option (List Char × List Char)
  | [] => none
  | c :: r =>
    if c = '"' then some ([], r)
    else if c = '\\' then
      match r with
      | [] => none
      | e :: r =>
        match letterEscape? e with
        | some v => consTo v (readBasic? r)
        | none =>
          match e, r with
          | 'x', h1 :: h2 :: r =>
            (codeEscape? [h1, h2]).bind fun v => consTo v (readBasic? r)
          | 'u', h1 :: h2 :: h3 :: h4 :: r =>
            (codeEscape? [h1, h2, h3, h4]).bind fun v => consTo v (readBasic? r)
          | 'U', h1 :: h2 :: h3 :: h4 :: h5 :: h6 :: h7 :: h8 :: r =>
            (codeEscape? [h1, h2, h3, h4, h5, h6, h7, h8]).bind fun v => consTo v (readBasic? r)
          | _, _ => none
    else if isPrintable c then consTo c (readBasic? r)
    else none

/-- What follows an opening single quote. -/
def readLiteral? : List Char → Option (List Char × List Char)
  | [] => none
  | c :: r =>
    if c = '\'' then some ([], r)
    else if isPrintable c then consTo c (readLiteral? r)
    else none

/-! ### Between three quotes -/

/-- The end of a string of several lines: three quotes, and up to two before them that belong to the
string. -/
def closing? (quote : Char) : List Char → Option (List Char × List Char)
  | a :: b :: c :: r =>
    if a = quote ∧ b = quote ∧ c = quote then
      match r with
      | d :: e :: r' =>
        if d = quote ∧ e = quote then some ([quote, quote], r')
        else if d = quote then some ([quote], e :: r')
        else some ([], r)
      | [d] => if d = quote then some ([quote], []) else some ([], r)
      | [] => some ([], [])
    else none
  | _ => none

/-- Whether a backslash before these characters ends its line. -/
def endsLine (s : List Char) : Bool := (dropLineEnd? (skipSpaces s)).isSome

/-- What follows three opening double quotes; `skipping` says that a backslash has ended its line and
blanks and line ends are passed over. -/
def readLines? (skipping : Bool) : List Char → Option (List Char × List Char)
  | [] => none
  | c :: r =>
    if skipping ∧ (isSpace c ∨ c = '\n') then readLines? true r
    else if c = '\r' then
      if r.head? = some '\n' then
        if skipping then readLines? true r else consTo '\r' (readLines? false r)
      else none
    else
      match closing? '"' (c :: r) with
      | some found => some found
      | none =>
        if c = '\\' then
          if endsLine r then readLines? true r
          else
            match r with
            | [] => none
            | e :: r =>
              match letterEscape? e with
              | some v => consTo v (readLines? false r)
              | none =>
                match e, r with
                | 'x', h1 :: h2 :: r =>
                  (codeEscape? [h1, h2]).bind fun v => consTo v (readLines? false r)
                | 'u', h1 :: h2 :: h3 :: h4 :: r =>
                  (codeEscape? [h1, h2, h3, h4]).bind fun v => consTo v (readLines? false r)
                | 'U', h1 :: h2 :: h3 :: h4 :: h5 :: h6 :: h7 :: h8 :: r =>
                  (codeEscape? [h1, h2, h3, h4, h5, h6, h7, h8]).bind fun v =>
                    consTo v (readLines? false r)
                | _, _ => none
        else if isPrintable c ∨ c = '\n' then consTo c (readLines? false r)
        else none

/-- What follows three opening single quotes. -/
def readLiteralLines? : List Char → Option (List Char × List Char)
  | [] => none
  | c :: r =>
    match closing? '\'' (c :: r) with
    | some found => some found
    | none =>
      if isPrintable c ∨ c = '\n' ∨ (c = '\r' ∧ r.head? = some '\n') then consTo c (readLiteralLines? r)
      else none

/-- A line end right after the opening quotes is not part of the string. -/
def dropFirstLineEnd (s : List Char) : List Char := (dropLineEnd? s).getD s

/-- A string in any notation, and the rest. -/
def readString? : List Char → Option (List Char × List Char)
  | '"' :: '"' :: '"' :: r => readLines? false (dropFirstLineEnd r)
  | '\'' :: '\'' :: '\'' :: r => readLiteralLines? (dropFirstLineEnd r)
  | '"' :: r => readBasic? r
  | '\'' :: r => readLiteral? r
  | _ => none

end PlanReuse.Toml
