import PlanReuse.Algebra.Scalar
import PlanReuse.Number.Shortest
import PlanReuse.Text.Quoted
import PlanReuse.Text.Uppercase

/-!
# Canonical text of expressions

The text that stands for an expression in a plan's shape. Operands keep their order; constants carry
their type, and function names are written in upper case. Nothing is reordered, so `a = b` and `b = a`
have different texts.
-/

namespace PlanReuse

open Decimal (digits)

/-- Texts with `, ` between them. -/
def commaSeparated (texts : List (List Char)) : List Char := List.intercalate [',', ' '] texts

/-- The digits of an integer, after a minus sign if it is negative. -/
def signedDigits (n : Int) : List Char := (if n < 0 then ['-'] else []) ++ digits n.natAbs

/-- Doubles are written positionally from `0.0001` to below `10 ^ 16`. -/
def Constant.layout : Decimal.Layout := ⟨-4, 15⟩

/-- A constant and its type. -/
def Constant.render : Constant → List Char
  | .null => ['N', 'U', 'L', 'L']
  | .bool true => "true:bool".toList
  | .bool false => "false:bool".toList
  | .int n => signedDigits n ++ ":int".toList
  | .double x => Decimal.text Constant.layout x ++ ":double".toList
  | .text s => Text.quoted s.toList ++ ":str".toList

def BinaryOp.sign : BinaryOp → String
  | .eq => "="
  | .ne => "<>"
  | .lt => "<"
  | .le => "<="
  | .gt => ">"
  | .ge => ">="
  | .and => "AND"
  | .or => "OR"
  | .add => "+"
  | .sub => "-"
  | .mul => "*"
  | .div => "/"
  | .mod => "%"

def UnaryOp.sign : UnaryOp → String
  | .not => "NOT"
  | .neg => "-"
  | .isNull => "IS NULL"
  | .isNotNull => "IS NOT NULL"

def AggregateOp.name : AggregateOp → String
  | .count => "COUNT"
  | .sum => "SUM"
  | .avg => "AVG"
  | .min => "MIN"
  | .max => "MAX"

namespace Scalar

/-- What stands before the argument of an aggregate. -/
def distinctMark (distinct : Bool) : List Char := if distinct then "DISTINCT ".toList else []

mutual

/-- The canonical text of an expression. -/
def render : Scalar → List Char
  | column i => '$' :: digits i
  | constant c => c.render
  | binary o l r => '(' :: (render l ++ ' ' :: (o.sign.toList ++ ' ' :: (render r ++ [')'])))
  | unary o a => o.sign.toList ++ '(' :: (render a ++ [')'])
  | inList a vs n =>
    render a ++ (if n then " NOT IN (" else " IN (").toList ++
      commaSeparated (vs.map Constant.render) ++ [')']
  | call f as => Text.upper f.toList ++ '(' :: (commaSeparated (renderEach as) ++ [')'])
  | aggregate o d a => o.name.toList ++ '(' :: (distinctMark d ++ render a ++ [')'])
  | aggregateRows o d => o.name.toList ++ '(' :: (distinctMark d ++ ['*', ')'])

/-- The texts of several expressions. -/
def renderEach : List Scalar → List (List Char)
  | [] => []
  | a :: as => render a :: renderEach as

end

/-- Expressions in brackets, in their order. -/
def renderList (es : List Scalar) : List Char :=
  '[' :: (commaSeparated (renderEach es) ++ [']'])

theorem renderEach_eq_map (es : List Scalar) : renderEach es = es.map render := by
  induction es with
  | nil => rfl
  | cons e es ih => simp [renderEach, ih]

end Scalar

end PlanReuse
