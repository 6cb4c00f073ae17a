import PlanReuse.Algebra.Plan

/-!
# Shapes of plans

The shape of a plan is what it does, without the numbers of its nodes: the kind of operator, the text of
its parameters and the shapes of its inputs. Plans of one shape compute the same rows.
-/

namespace PlanReuse

inductive Shape
  | node (kind : OperatorKind) (params : String) (inputs : List Shape)

namespace Shape

def kind : Shape → OperatorKind
  | node k _ _ => k

def params : Shape → String
  | node _ p _ => p

def inputs : Shape → List Shape
  | node _ _ is => is

/-! ### Equality -/

mutual

/-- Decides equality from the root down. No shape is compared with itself, so parts that two shapes
share cost nothing. -/
def decEq (s t : Shape) : Decidable (s = t) :=
  withPtrEqDecEq s t fun _ =>
    match s, t with
    | node k p is, node k' p' is' =>
      if h : k = k' ∧ p = p' then
        match decEqAll is is' with
        | isTrue h' => isTrue (by rw [h.1, h.2, h'])
        | isFalse h' => isFalse fun e => by injection e; contradiction
      else isFalse fun e => by injection e; exact h ⟨‹_›, ‹_›⟩

/-- Decides equality of lists of shapes. -/
def decEqAll : (ss ts : List Shape) → Decidable (ss = ts)
  | [], [] => isTrue rfl
  | [], _ :: _ => isFalse (by simp)
  | _ :: _, [] => isFalse (by simp)
  | s :: ss, t :: ts =>
    match decEq s t with
    | isFalse h => isFalse fun e => by injection e; contradiction
    | isTrue h =>
      match decEqAll ss ts with
      | isTrue h' => isTrue (by rw [h, h'])
      | isFalse h' => isFalse fun e => by injection e; contradiction

end

instance : DecidableEq Shape := decEq

/-! ### Order of visit -/

mutual

/-- The shapes inside a shape, each before its inputs. -/
def parts : Shape → List Shape
  | node k p is => node k p is :: partsAll is

/-- The shapes inside several shapes. -/
def partsAll : List Shape → List Shape
  | [] => []
  | s :: ss => parts s ++ partsAll ss

end

theorem head_parts (s : Shape) : (parts s).head? = some s := by
  cases s
  simp [parts]

end Shape

end PlanReuse
