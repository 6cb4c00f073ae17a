import PlanReuse.Script.Regex

/-!
# Edits

An editor goes over lines and follows a list of steps for each of them. A step may name the lines that it is
for; a space beside the line keeps text from one line to the next.
-/

namespace PlanReuse.Script.Edit

/-- What is looked for, in which letters of both cases may be the same. -/
structure Target where
  regex : Regex
  fold : Bool

inductive Address
  | line (n : Nat)
  | last
  /-- The lines in which something is found; none is what was looked for last. -/
  | found (t : Option Target)
  /-- Every so many lines from a first one. -/
  | every (first step : Nat)
  /-- As many lines again. -/
  | more (n : Nat)
  /-- Up to the next line whose number is a multiple. -/
  | multiple (n : Nat)

/-- How letters are changed. -/
inductive LetterCase
  | large
  | small
deriving DecidableEq

/-- A piece of what is put in place of a match: a text and the text of a group behind it, in which the first
letter and all others may be changed. -/
structure Piece where
  all : Option LetterCase
  first : Option LetterCase
  text : List Char
  group : Option Nat

/-- When a jump is made. -/
inductive Occasion
  | always
  /-- If something has been replaced since the line was read. -/
  | replaced
  | untouched
deriving DecidableEq

/-- A substitution: what is looked for, what is put in its place, from which match on, and what is done
then. -/
structure Substitution where
  target : Option Target
  pieces : List Piece
  which : Nat
  all : Bool
  /-- Whether the result is run as a command. -/
  runs : Bool
  printsBefore : Bool
  printsAfter : Bool
  file : Option String

inductive Action
  | opening
  | closing
  | label (name : String)
  | jump (occasion : Occasion) (name : String)
  | substitute (s : Substitution)
  | translate (pairs : List (Char × Char))
  | insert (text : List Char)
  | append (text : List Char)
  | change (text : List Char)
  | readFile (name : String)
  | readLine (name : String)
  | writeFile (name : String)
  | writeLine (name : String)
  | quit (status : Nat) (prints : Bool)
  /-- Runs a command, or the line as one. -/
  | run (command : Option (List Char))
  /-- Shows the line with all its signs, in lines of some width. -/
  | list (width : Option Nat)
  | delete
  | deleteLine
  | print
  | printLine
  | number
  | fileName
  | hold
  | holdMore
  | get
  | getMore
  | exchange
  | next
  | nextMore
  | empty

structure Step where
  first : Option Address
  last : Option Address
  negated : Bool
  action : Action

/-- The files that a step writes. -/
def Action.written : Action → List String
  | .writeFile name | .writeLine name => [name]
  | .substitute s => s.file.toList
  | _ => []

end PlanReuse.Script.Edit
