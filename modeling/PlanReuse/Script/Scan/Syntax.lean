import PlanReuse.Number.Binary64
import PlanReuse.Script.Regex

/-!
# Programs that scan texts

A scanning program is a list of rules. It reads its input record by record, and for each record it carries
out the actions of the rules whose patterns hold.
-/

namespace PlanReuse.Script.Scan

/-- Operators on two numbers. -/
inductive Operator
  | add
  | sub
  | mul
  | div
  | rem
  | pow
deriving DecidableEq

inductive Comparison
  | less
  | lessEq
  | equal
  | different
  | more
  | moreEq
deriving DecidableEq

inductive Expr
  | number (x : Binary64)
  | text (s : String)
  /-- Whether the record matches, or, beside an operator for matches, the expression itself. -/
  | regex (r : Regex)
  | variable (name : String)
  | field (place : Expr)
  | item (table : String) (keys : List Expr)
  | assign (target : Expr) (op : Option Operator) (value : Expr)
  | choose (condition yes no : Expr)
  | or (a b : Expr)
  | and (a b : Expr)
  | not (a : Expr)
  | isIn (keys : List Expr) (table : String)
  | matching (negated : Bool) (a b : Expr)
  | compare (c : Comparison) (a b : Expr)
  | join (a b : Expr)
  | binary (o : Operator) (a b : Expr)
  | negative (a : Expr)
  | positive (a : Expr)
  /-- A step up or down; its value is the number before the step or after it. -/
  | step (up before : Bool) (target : Expr)
  | call (name : String) (arguments : List Expr)
  | builtin (name : String) (arguments : List Expr)
  /-- Reads a record of the input, or of a file. -/
  | readRecord (target : Option Expr) (file : Option Expr)
  /-- Reads a record of what a command writes. -/
  | readCommand (command : Expr) (target : Option Expr)
  /-- Several expressions in parentheses. -/
  | several (items : List Expr)

/-- Where a print goes. -/
inductive Goal
  | file
  | append
  | command
deriving DecidableEq

inductive Stmt
  | nothing
  | value (e : Expr)
  | print (items : List Expr) (goal : Option (Goal × Expr))
  | format (items : List Expr) (goal : Option (Goal × Expr))
  | choose (condition : Expr) (yes no : Stmt)
  /-- A loop with a condition before each round and a step after it; the first round may go without its
  condition. -/
  | loop (free : Bool) (condition : Option Expr) (after body : Stmt)
  /-- A loop over the keys of a table. -/
  | each (name table : String) (body : Stmt)
  | block (body : List Stmt)
  | nextRecord
  | nextFile
  | exit (status : Option Expr)
  | giveBack (value : Option Expr)
  | leaveLoop
  | again
  | delete (table : String) (keys : Option (List Expr))

inductive Pattern
  | start
  | finish
  | always
  | when (e : Expr)
  /-- From a record for which the first holds to one for which the second does. -/
  | between (first last : Expr)

/-- A rule; without an action it prints the record. -/
structure Rule where
  pattern : Pattern
  action : Option Stmt

structure Routine where
  name : String
  parameters : List String
  body : Stmt

structure Program where
  rules : List Rule
  routines : List Routine

end PlanReuse.Script.Scan
