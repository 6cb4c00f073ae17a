import PlanReuse.Script.Text

/-!
# Commands

The command language as data: words with what is to be put into them, redirections of streams, and
commands built from simple ones.
-/

namespace PlanReuse.Script

/-- What is taken in place of a parameter. -/
inductive Fallback
  /-- A word if the parameter is not set. -/
  | use
  /-- The same, and the parameter is set to it. -/
  | assign
  /-- Nothing: the script ends with the word as a message. -/
  | fail
  /-- A word if the parameter is set. -/
  | replace
deriving DecidableEq

/-- How a redirection opens its file. -/
inductive Way
  | read
  | write
  | append
  /-- Writes even over a file that is kept from it. -/
  | force
  | both
  /-- Takes over another stream. -/
  | copy
deriving DecidableEq

mutual

inductive Piece
  | char (c : Char) (quoted : Bool)
  /-- Quotes were here, so the word is there even if it is empty. -/
  | quotes
  | param (name : String) (change : Change) (quoted : Bool)
  /-- The output of a command. -/
  | output (c : Command) (quoted : Bool)
  /-- The value of an arithmetic expression. -/
  | sum (expression : List Piece) (quoted : Bool)

/-- What is done to the value of a parameter. -/
inductive Change
  | keep
  | length
  /-- Something else in its place; with `orEmpty` an empty value counts as not set. -/
  | fallback (kind : Fallback) (orEmpty : Bool) (word : List Piece)
  /-- Cuts what a pattern matches, at the end or in front, as much or as little as can be. -/
  | trim (atEnd most : Bool) (pattern : List Piece)
  /-- A change outside the language. -/
  | unknown

inductive Redirection
  | file (stream : Nat) (way : Way) (target : List Piece)
  /-- A text of the script itself, by its number. -/
  | document (stream : Nat) (number : Nat)

inductive Command
  | skip
  | simple (line : Nat) (assignments : List (String × List Piece)) (words : List (List Piece))
      (redirections : List Redirection)
  | sequence (a b : Command)
  | both (a b : Command)
  | either (a b : Command)
  | negate (a : Command)
  | pipe (parts : List Command)
  | background (a : Command)
  | subshell (a : Command)
  | redirected (line : Nat) (a : Command) (redirections : List Redirection)
  | choose (condition yes no : Command)
  /-- Repeats the body as long as the condition holds, or until it does. -/
  | loop (whileTrue : Bool) (condition body : Command)
  /-- Runs the body for each word, or for each parameter of the script if no words are given. -/
  | each (name : String) (words : Option (List (List Piece))) (body : Command)
  | select (subject : List Piece) (branches : List (List (List Piece) × Command))
  | define (name : String) (body : Command)

end

abbrev Word := List Piece

namespace Word

/-- The text of a word without quotes and expansions. -/
def plain? : Word → Option String
  | [] => some ""
  | .char c false :: r => (plain? r).map (c.toString ++ ·)
  | _ => none

/-- The text of a word with its quotes removed; expansions are left out. -/
def unquoted : Word → String
  | [] => ""
  | .char c _ :: r => c.toString ++ unquoted r
  | _ :: r => unquoted r

/-- Whether a part of a word is quoted. -/
def hasQuotes (w : Word) : Bool :=
  w.any fun
    | .quotes | .char _ true => true
    | _ => false

/-- The name and the value of a word that assigns. -/
def assignment? (w : Word) : Option (String × Word) :=
  let isName : Piece → Bool
    | .char c false => isNamePart c
    | _ => false
  match w.dropWhile isName with
  | .char '=' false :: value =>
    let name := unquoted (w.takeWhile isName)
    if Script.isName name then some (name, value) else none
  | _ => none

end Word

end PlanReuse.Script
