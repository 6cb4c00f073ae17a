/-!
# Budgets

Artifacts fall into three classes. Each class has a budget, which holds for every device by itself: the
bytes that all artifacts may take together, and the bytes that one of them may take.
-/

namespace PlanReuse

/-- The classes of join table. -/
inductive ArtifactClass
  | perfect
  | baseline
  | overlaps
deriving DecidableEq

namespace ArtifactClass

/-- Every class, in order. -/
def all : List ArtifactClass := [perfect, baseline, overlaps]

def name : ArtifactClass → String
  | perfect => "PERFECT_HT"
  | baseline => "BASELINE_HT"
  | overlaps => "OVERLAPS_HT"

end ArtifactClass

/-- The bytes that a class may take on one device. -/
structure Budget where
  /-- All artifacts together. -/
  total : Nat
  /-- One artifact. -/
  item : Nat
deriving DecidableEq

inductive BudgetFault
  | zeroTotal
  | zeroItem
deriving DecidableEq

def BudgetFault.message : BudgetFault → String
  | .zeroTotal => "max_total_bytes 必须大于0"
  | .zeroItem => "max_item_bytes 必须大于0"

namespace Budget

/-- Four and two gibibytes. -/
def standard : Budget := ⟨4 * 1024 * 1024 * 1024, 2 * 1024 * 1024 * 1024⟩

/-- Whether an artifact of a given size may be kept at all. -/
def admits (b : Budget) (size : Nat) : Bool := decide (size ≤ b.item) && decide (size ≤ b.total)

/-- What is wrong with a budget; the total is looked at first. -/
def fault? (b : Budget) : Option BudgetFault :=
  if b.total = 0 then some .zeroTotal else if b.item = 0 then some .zeroItem else none

theorem fault?_eq_none_iff (b : Budget) : b.fault? = none ↔ 0 < b.total ∧ 0 < b.item := by
  unfold fault?
  by_cases htotal : b.total = 0
  · simp [htotal]
  · by_cases hitem : b.item = 0
    · simp [htotal, hitem]
    · simp [htotal, hitem, Nat.pos_iff_ne_zero]

end Budget

/-- One budget for each class. -/
structure Budgets where
  perfect : Budget
  baseline : Budget
  overlaps : Budget
deriving DecidableEq

namespace Budgets

def standard : Budgets := ⟨.standard, .standard, .standard⟩

def uniform (b : Budget) : Budgets := ⟨b, b, b⟩

def get (bs : Budgets) : ArtifactClass → Budget
  | .perfect => bs.perfect
  | .baseline => bs.baseline
  | .overlaps => bs.overlaps

def set (bs : Budgets) (c : ArtifactClass) (b : Budget) : Budgets :=
  match c with
  | .perfect => { bs with perfect := b }
  | .baseline => { bs with baseline := b }
  | .overlaps => { bs with overlaps := b }

@[simp] theorem get_set (bs : Budgets) (c d : ArtifactClass) (b : Budget) :
    (bs.set c b).get d = if d = c then b else bs.get d := by
  cases c <;> cases d <;> rfl

end Budgets

end PlanReuse
