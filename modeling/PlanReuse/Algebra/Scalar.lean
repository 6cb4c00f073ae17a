import PlanReuse.Number.Binary64

/-!
# Scalar expressions

The predicates, projections and aggregates that the operators of a plan carry. A column is known by
its position among the input columns, never by name.
-/

namespace PlanReuse

/-- A value written in a query. -/
inductive Constant
  | null
  | bool (b : Bool)
  | int (n : Int)
  | double (x : Binary64)
  | text (s : String)
deriving DecidableEq

/-- Equality of values: doubles are compared as numbers, so a NaN differs from itself. -/
def Constant.same : Constant → Constant → Bool
  | .double x, .double y => x.sameNumber y
  | a, b => decide (a = b)

inductive BinaryOp
  | eq | ne | lt | le | gt | ge | and | or | add | sub | mul | div | mod
deriving DecidableEq

inductive UnaryOp
  | not | neg | isNull | isNotNull
deriving DecidableEq

inductive AggregateOp
  | count | sum | avg | min | max
deriving DecidableEq

inductive Scalar
  | column (index : Nat)
  | constant (c : Constant)
  | binary (op : BinaryOp) (left right : Scalar)
  | unary (op : UnaryOp) (arg : Scalar)
  /-- Membership in a list of constants, or with `negated` the lack of it. -/
  | inList (arg : Scalar) (values : List Constant) (negated : Bool)
  | call (name : String) (args : List Scalar)
  | aggregate (op : AggregateOp) (distinct : Bool) (arg : Scalar)
  /-- An aggregate over the rows themselves. -/
  | aggregateRows (op : AggregateOp) (distinct : Bool)
deriving Inhabited

/-- The forms of an expression; both kinds of aggregate are one form. -/
inductive ScalarForm
  | column | constant | binary | unary | inList | call | aggregate
deriving DecidableEq

namespace Scalar

/-- The outermost form. -/
def form : Scalar → ScalarForm
  | column _ => .column
  | constant _ => .constant
  | binary .. => .binary
  | unary .. => .unary
  | inList .. => .inList
  | call .. => .call
  | aggregate .. => .aggregate
  | aggregateRows .. => .aggregate

/-! ### Equality -/

/-- Equality of value lists, place by place. -/
def sameConstants : List Constant → List Constant → Bool
  | [], [] => true
  | a :: as, b :: bs => a.same b && sameConstants as bs
  | _, _ => false

mutual

/-- Equality of expressions, in which doubles are compared as numbers. -/
def same : Scalar → Scalar → Bool
  | column i, column j => i == j
  | constant a, constant b => a.same b
  | binary o l r, binary o' l' r' => decide (o = o') && same l l' && same r r'
  | unary o a, unary o' a' => decide (o = o') && same a a'
  | inList a vs n, inList a' vs' n' => same a a' && sameConstants vs vs' && n == n'
  | call f as, call f' as' => f == f' && sameAll as as'
  | aggregate o d a, aggregate o' d' a' => decide (o = o') && d == d' && same a a'
  | aggregateRows o d, aggregateRows o' d' => decide (o = o') && d == d'
  | _, _ => false

/-- Equality of lists of expressions. -/
def sameAll : List Scalar → List Scalar → Bool
  | [], [] => true
  | a :: as, b :: bs => same a b && sameAll as bs
  | _, _ => false

end

/-! ### Visiting the parts -/

mutual

/-- The expression and all its parts, each before its own parts, from left to right. -/
def parts : Scalar → List Scalar
  | column i => [column i]
  | constant c => [constant c]
  | binary o l r => binary o l r :: (parts l ++ parts r)
  | unary o a => unary o a :: parts a
  | inList a vs n => inList a vs n :: parts a
  | call f as => call f as :: partsAll as
  | aggregate o d a => aggregate o d a :: parts a
  | aggregateRows o d => [aggregateRows o d]

/-- The parts of several expressions, one after the other. -/
def partsAll : List Scalar → List Scalar
  | [] => []
  | a :: as => parts a ++ partsAll as

end

/-- The length of a membership list; nothing else has one. -/
def listLength : Scalar → Nat
  | inList _ vs _ => vs.length
  | _ => 0

/-- The length of the longest membership list anywhere in the expression. -/
def longestList (e : Scalar) : Nat := ((parts e).map listLength).foldl max 0

/-- The longest membership list a plan may hold and still be numbered. -/
def listLimit : Nat := 20

/-- Whether a membership list in the expression is too long for its plan to be numbered. -/
def isUnsupported (e : Scalar) : Bool := listLimit < e.longestList

/-- The expression itself comes first. -/
theorem head_parts (e : Scalar) : (parts e).head? = some e := by
  cases e <;> simp [parts]

end Scalar

end PlanReuse
