import PlanReuse.Algebra.Scalar
import PlanReuse.Algebra.Catalog

/-!
# Query plans

A plan is a tree of operators of relational algebra. Every node has a number of its own; two nodes may
share an input, which then is one node with one number.
-/

namespace PlanReuse

/-- The kinds of operator, in the order of their codes. -/
inductive OperatorKind
  | scan | project | filter | aggregate | sort | join | leftDeepJoin | compound | union
deriving DecidableEq

namespace OperatorKind

/-- Every kind, in the order of their codes. -/
def all : List OperatorKind :=
  [scan, project, filter, aggregate, sort, join, leftDeepJoin, compound, union]

def name : OperatorKind → String
  | scan => "Scan"
  | project => "Project"
  | filter => "Filter"
  | aggregate => "Aggregate"
  | sort => "Sort"
  | join => "Join"
  | leftDeepJoin => "LeftDeepJoin"
  | compound => "Compound"
  | union => "Union"

/-- The code by which a kind enters a digest. -/
def code : OperatorKind → Nat
  | scan => 0
  | project => 1
  | filter => 2
  | aggregate => 3
  | sort => 4
  | join => 5
  | leftDeepJoin => 6
  | compound => 7
  | union => 8

theorem code_injective {a b : OperatorKind} (h : a.code = b.code) : a = b := by
  cases a <;> cases b <;> first | rfl | simp [code] at h

end OperatorKind

inductive JoinKind
  | inner | left | semi | anti
deriving DecidableEq

def JoinKind.name : JoinKind → String
  | .inner => "INNER"
  | .left => "LEFT"
  | .semi => "SEMI"
  | .anti => "ANTI"

/-- The conditions that one nesting level of a left-deep join is subject to, all of them, in order. -/
structure JoinLevel where
  kind : JoinKind
  conditions : List Scalar

/-- The left-deep joins of a query: their levels, by the number of the join tree. -/
structure JoinTrees where
  trees : List (Nat × List JoinLevel)

namespace JoinTrees

def empty : JoinTrees := ⟨[]⟩

def find? (t : JoinTrees) (id : Nat) : Option (List JoinLevel) := t.trees.lookup id

def erase (t : JoinTrees) (id : Nat) : JoinTrees := ⟨t.trees.filter (·.1 ≠ id)⟩

/-- Adds a tree in the place of one with the same number. -/
def insert (t : JoinTrees) (id : Nat) (levels : List JoinLevel) : JoinTrees :=
  ⟨(id, levels) :: (t.erase id).trees⟩

def size (t : JoinTrees) : Nat := t.trees.length

end JoinTrees

inductive SortDirection
  | ascending
  | descending
deriving DecidableEq

structure SortKey where
  column : Nat
  direction : SortDirection
  nullsFirst : Bool
deriving DecidableEq

/-- An operator and what it is told to do. -/
inductive Operator
  | scan (table : TableId)
  | project (targets : List Scalar)
  | filter (condition : Scalar)
  | aggregate (groups : Nat) (targets : List Scalar)
  | sort (keys : List SortKey) (limit : Option Nat) (offset : Nat)
  | join (kind : JoinKind) (condition : Scalar)
  /-- The conditions of a left-deep join are not in the plan; they come with its join tree. -/
  | leftDeepJoin
  /-- A filter, a grouping and a projection merged into one. -/
  | compound (condition : Option Scalar) (groups : Nat) (targets : List Scalar)
  | union (all : Bool)

namespace Operator

def kind : Operator → OperatorKind
  | scan _ => .scan
  | project _ => .project
  | filter _ => .filter
  | aggregate .. => .aggregate
  | sort .. => .sort
  | join .. => .join
  | leftDeepJoin => .leftDeepJoin
  | compound .. => .compound
  | union _ => .union

/-- The expressions that the operator itself carries. -/
def scalars : Operator → List Scalar
  | project ts => ts
  | filter c => [c]
  | aggregate _ ts => ts
  | join _ c => [c]
  | compound c _ ts => c.toList ++ ts
  | scan _ | sort .. | leftDeepJoin | union _ => []

/-- Equality of operators, in which doubles are compared as numbers. -/
def same : Operator → Operator → Bool
  | scan t, scan t' => t == t'
  | project ts, project ts' => Scalar.sameAll ts ts'
  | filter c, filter c' => c.same c'
  | aggregate g ts, aggregate g' ts' => g == g' && Scalar.sameAll ts ts'
  | sort ks l o, sort ks' l' o' => ks == ks' && l == l' && o == o'
  | join k c, join k' c' => decide (k = k') && c.same c'
  | leftDeepJoin, leftDeepJoin => true
  | compound c g ts, compound c' g' ts' =>
    Scalar.sameAll c.toList c'.toList && g == g' && Scalar.sameAll ts ts'
  | union a, union a' => a == a'
  | _, _ => false

end Operator

/-- A plan node with its inputs. -/
inductive Plan
  | node (id : Nat) (operator : Operator) (inputs : List Plan)

namespace Plan

def id : Plan → Nat
  | node i _ _ => i

def operator : Plan → Operator
  | node _ o _ => o

def inputs : Plan → List Plan
  | node _ _ is => is

def kind (p : Plan) : OperatorKind := p.operator.kind

mutual

/-- The number of nodes; a shared node counts as often as it occurs. -/
def size : Plan → Nat
  | node _ _ inputs => sizeAll inputs + 1

/-- The number of nodes of several plans. -/
def sizeAll : List Plan → Nat
  | [] => 0
  | p :: ps => size p + sizeAll ps

end

mutual

/-- Equality of nodes: number, operator and inputs. -/
def same : Plan → Plan → Bool
  | node i o ps, node i' o' ps' => i == i' && o.same o' && sameAll ps ps'

/-- Equality of lists of nodes. -/
def sameAll : List Plan → List Plan → Bool
  | [], [] => true
  | p :: ps, p' :: ps' => same p p' && sameAll ps ps'
  | _, _ => false

end

mutual

/-- The nodes, each before its inputs. -/
def nodes : Plan → List Plan
  | node i o inputs => node i o inputs :: nodesAll inputs

/-- The nodes of several plans, one plan after the other. -/
def nodesAll : List Plan → List Plan
  | [] => []
  | p :: ps => nodes p ++ nodesAll ps

end

mutual

theorem length_nodes : ∀ p : Plan, (nodes p).length = size p
  | node i o inputs => by simp [nodes, size, length_nodesAll inputs]

theorem length_nodesAll : ∀ ps : List Plan, (nodesAll ps).length = sizeAll ps
  | [] => rfl
  | p :: ps => by simp [nodesAll, sizeAll, length_nodes p, length_nodesAll ps]

end

end Plan

end PlanReuse
