import PlanReuse.Algebra.ScalarText
import PlanReuse.Numbering.Basic

/-!
# Extraction of plan codes

A plan's code is the list of the numbers of its sub-plans, each before its inputs. Extraction first
builds the shapes from the inputs up, then numbers them all at once. A plan with a table that the
catalog lacks, or with a very long membership list, is not supported: it gets no code and leaves the
numbering as it was. A memo keeps the verdict on each node for the other extractions of the same query.
-/

namespace PlanReuse

open Decimal (digits)

/-! ### Plan codes -/

structure PlanCode where
  /-- The numbers in decimal, each followed by a bar. Empty if the plan has no code. -/
  text : String
  numbers : List Nat
  /-- The plan has a part that rules out a code. -/
  unsupported : Bool
  /-- The generation of the numbers. -/
  generation : Nat
deriving DecidableEq

namespace PlanCode

/-- The text of a list of numbers. -/
def render (numbers : List Nat) : List Char := numbers.flatMap fun n => digits n ++ ['|']

def ofNumbers (ns : Numbers) : PlanCode :=
  { text := String.ofList (render ns.numbers), numbers := ns.numbers, unsupported := false,
    generation := ns.generation }

/-- The code of a plan that found no room in the numbering. -/
def none : PlanCode := { text := "", numbers := [], unsupported := false, generation := 0 }

/-- The code of a plan that is not supported. -/
def refused : PlanCode := { none with unsupported := true }

/-- Only a plan with a code can be a key. -/
def isCacheable (code : PlanCode) : Bool := !code.text.isEmpty

end PlanCode

/-! ### Verdicts on nodes -/

/-- Why a node gets no shape. -/
inductive Refusal
  | input
  | longList
  | unknownTable (table : TableId)
deriving DecidableEq

/-- The verdict on a node. -/
inductive Verdict
  | shape (s : Shape)
  | refused (why : Refusal)
deriving DecidableEq

def Verdict.shape? : Verdict → Option Shape
  | .shape s => some s
  | .refused _ => none

/-- The verdicts reached so far, by the number of the node, the latest first. -/
structure Memo where
  verdicts : List (Nat × Verdict)
deriving DecidableEq

namespace Memo

def empty : Memo := ⟨[]⟩

def find? (m : Memo) (id : Nat) : Option Verdict := m.verdicts.lookup id

def insert (m : Memo) (id : Nat) (v : Verdict) : Memo :=
  ⟨(id, v) :: m.verdicts.filter (·.1 ≠ id)⟩

def size (m : Memo) : Nat := m.verdicts.length

def contains (m : Memo) (id : Nat) : Bool := (m.find? id).isSome

theorem find?_insert_self (m : Memo) (id : Nat) (v : Verdict) : (m.insert id v).find? id = some v := by
  simp [find?, insert]

end Memo

/-- What breaks an extraction off: a left-deep join whose join tree was not given as it must be. -/
inductive JoinFault
  | noTree (node : Nat)
  | unknownTree (tree : Nat)
  | levelCount (tree node levels inputs : Nat)
deriving DecidableEq

def JoinFault.message : JoinFault → String
  | .noTree node => "左深连接节点 " ++ toString node ++ " 需要连接树ID，但提取时未提供"
  | .unknownTree tree => "连接树 " ++ toString tree ++ " 没有连接条件信息"
  | .levelCount tree node levels inputs =>
    "assertion \x60left == right\x60 failed: 连接树 " ++ toString tree ++ " 的嵌套层数与左深连接节点 " ++
      toString node ++ " 的输入数不符\n  left: " ++ toString (levels + 1) ++ "\n right: " ++
      toString inputs

/-! ### Parameters -/

/-- What the shapes of a query depend on besides its plans. -/
structure QueryScope where
  catalog : Catalog
  /-- The join tree of the plan that is extracted, if it has one. -/
  tree : Option Nat
  trees : JoinTrees
  /-- The text of an expression. -/
  translate : Scalar → List Char := Scalar.render

namespace QueryScope

/-- The texts of expressions in brackets. -/
def translateList (scope : QueryScope) (es : List Scalar) : List Char :=
  '[' :: (commaSeparated (es.map scope.translate) ++ [']'])

def sortKeyText (k : SortKey) : List Char :=
  '$' :: (digits k.column ++
    (match k.direction with | .ascending => " ASC" | .descending => " DESC").toList ++
    (if k.nullsFirst then " NULLS FIRST" else " NULLS LAST").toList)

def sortKeysText (ks : List SortKey) : List Char :=
  '[' :: (commaSeparated (ks.map sortKeyText) ++ [']'])

/-- A number, or the word `none`. -/
def optionalText : Option Nat → List Char
  | some n => digits n
  | none => "none".toList

/-- The levels from number `depth` on, with semicolons between them. -/
def levelsText (scope : QueryScope) (depth : Nat) : List JoinLevel → List Char
  | [] => []
  | l :: ls =>
    (if depth = 0 then [] else [';']) ++ 'L' :: (digits depth ++ ':' :: (l.kind.name.toList ++
      scope.translateList l.conditions)) ++ levelsText scope (depth + 1) ls

/-- The levels of a left-deep join: one fewer than it has inputs. -/
def levelsOf (scope : QueryScope) (node inputs : Nat) : Except JoinFault (List JoinLevel) :=
  match scope.tree with
  | none => .error (.noTree node)
  | some tree =>
    match scope.trees.find? tree with
    | none => .error (.unknownTree tree)
    | some levels =>
      if levels.length + 1 = inputs then .ok levels
      else .error (.levelCount tree node levels.length inputs)

/-- The join levels that a node takes part in; only a left-deep join has any. -/
def joinLevels (scope : QueryScope) (node : Nat) (op : Operator) (inputs : Nat) :
    Except JoinFault (List JoinLevel) :=
  match op with
  | .leftDeepJoin => scope.levelsOf node inputs
  | _ => .ok []

/-- The text of an operator's parameters; a table that the catalog lacks has none. -/
def params (scope : QueryScope) (levels : List JoinLevel) : Operator → Except Refusal (List Char)
  | .scan t =>
    match scope.catalog.find? t with
    | some info => .ok (t.text.toList ++ ':' :: info.name.toList)
    | none => .error (.unknownTable t)
  | .project ts => .ok (scope.translateList ts)
  | .filter c => .ok (scope.translate c)
  | .aggregate g ts => .ok ("groups=".toList ++ digits g ++ " aggs=".toList ++ scope.translateList ts)
  | .sort ks l o =>
    .ok ("keys=".toList ++ sortKeysText ks ++ " limit=".toList ++ optionalText l ++
      " offset=".toList ++ digits o)
  | .join k c => .ok (k.name.toList ++ ' ' :: scope.translate c)
  | .leftDeepJoin => .ok (scope.levelsText 0 levels)
  | .compound c g ts =>
    .ok ("filter=".toList ++ (match c with | some e => scope.translate e | none => "none".toList) ++
      " groups=".toList ++ digits g ++ " targets=".toList ++ scope.translateList ts)
  | .union all => .ok (if all then "ALL" else "DISTINCT").toList

/-- The verdict on a node whose inputs have the given shapes. -/
def judge (scope : QueryScope) (node : Nat) (op : Operator) (inputs : List Shape) :
    Except JoinFault Verdict :=
  match scope.joinLevels node op inputs.length with
  | .error fault => .error fault
  | .ok levels =>
    if (op.scalars ++ levels.flatMap JoinLevel.conditions).any Scalar.isUnsupported then
      .ok (.refused .longList)
    else
      match scope.params levels op with
      | .error why => .ok (.refused why)
      | .ok text => .ok (.shape (.node op.kind (String.ofList text) inputs))

mutual

/-- The shape of a plan, or none if it is not supported. The verdicts already in the memo are taken
over; those reached on the way are added, up to the fault if there is one. -/
def visit (scope : QueryScope) (memo : Memo) : Plan → Except JoinFault (Option Shape) × Memo
  | .node id op inputs =>
    match memo.find? id with
    | some v => (.ok v.shape?, memo)
    | none =>
      match visitAll scope memo inputs with
      | (.error fault, memo) => (.error fault, memo)
      | (.ok none, memo) => (.ok none, memo.insert id (.refused .input))
      | (.ok (some shapes), memo) =>
        match scope.judge id op shapes with
        | .error fault => (.error fault, memo)
        | .ok v => (.ok v.shape?, memo.insert id v)

/-- The shapes of several plans, or none if one of them is not supported. All are visited. -/
def visitAll (scope : QueryScope) (memo : Memo) :
    List Plan → Except JoinFault (Option (List Shape)) × Memo
  | [] => (.ok (some []), memo)
  | p :: ps =>
    match visit scope memo p with
    | (.error fault, memo) => (.error fault, memo)
    | (.ok s, memo) =>
      match visitAll scope memo ps with
      | (.error fault, memo) => (.error fault, memo)
      | (.ok ss, memo) => (.ok (s.bind fun s => ss.map (s :: ·)), memo)

end

end QueryScope

/-! ### Extraction -/

/-- What an extraction gives: a code or a fault, and the memo and the numbering after it. -/
structure Extraction where
  outcome : Except JoinFault PlanCode
  memo : Memo
  numbering : Numbering

/-- The code of a plan. -/
def extract (scope : QueryScope) (root : Plan) (memo : Memo) (numbering : Numbering) : Extraction :=
  match scope.visit memo root with
  | (.error fault, memo) => ⟨.error fault, memo, numbering⟩
  | (.ok none, memo) => ⟨.ok .refused, memo, numbering⟩
  | (.ok (some shape), memo) =>
    match numbering.resolve shape.parts with
    | (some ns, numbering) => ⟨.ok (.ofNumbers ns), memo, numbering⟩
    | (none, numbering) => ⟨.ok .none, memo, numbering⟩

/-! ### Lines of the log -/

/-- What is said about a node that gets no shape. Of inputs without a shape nothing is said again. -/
def Verdict.lines (node : Nat) : Verdict → List Log.Line
  | .refused .longList =>
    [Log.debug ("节点 " ++ toString node ++ " 含有超过 " ++ toString Scalar.listLimit ++
      " 个元素的 IN 列表")]
  | .refused (.unknownTable t) =>
    [Log.warn ("扫描节点 " ++ toString node ++ " 引用了未知的表 " ++ t.text)]
  | _ => []

/-- What an extraction says: about the nodes it has judged, in that order, and about its outcome. -/
def Extraction.lines (root : Plan) (before : Memo) (e : Extraction) : List Log.Line :=
  let judged := (e.memo.verdicts.take (e.memo.size - before.size)).reverse
  let plan := "计划 " ++ toString root.id
  judged.flatMap (fun (id, v) => v.lines id) ++
    match e.outcome with
    | .error _ => []
    | .ok code =>
      if code.unsupported then [Log.debug (plan ++ " 含有不支持缓存的节点，跳过 DAG 提取")]
      else if code.isCacheable then [Log.trace (plan ++ " 的 DAG: " ++ code.text)]
      else e.numbering.resolveLines false

end PlanReuse
