import Mathlib.Data.List.Forall2
import PlanReuse.Algebra.ScalarText
import PlanReuse.Proofs.Text.Words

/-!
# Alike expressions

Two expressions are alike if they differ at most in the case of function names and in doubles that are
written in the same way. Alike expressions have one text.
-/

namespace PlanReuse

/-! ### Constants -/

def Constant.Alike : Constant → Constant → Prop
  | .double x, .double y => Decimal.text layout x = Decimal.text layout y
  | a, b => a = b

theorem Constant.render_eq_of_alike {a b : Constant} (h : a.Alike b) : a.render = b.render := by
  cases a with
  | double x =>
    cases b with
    | double y => exact congrArg (· ++ ":double".toList) h
    | _ => cases h
  | _ => exact congrArg Constant.render h

theorem Constant.map_render_eq {as bs : List Constant} (h : List.Forall₂ Alike as bs) :
    as.map render = bs.map render := by
  induction h with
  | nil => rfl
  | cons hab _ ih => rw [List.map_cons, List.map_cons, render_eq_of_alike hab, ih]

/-! ### Function names -/

/-- The words that stand before a parenthesis without being the name of a function. -/
def reservedNames : List (List Char) :=
  [UnaryOp.not.sign.toList, AggregateOp.count.name.toList, AggregateOp.sum.name.toList,
    AggregateOp.avg.name.toList, AggregateOp.min.name.toList, AggregateOp.max.name.toList]

/-- An identifier that is not reserved, whatever its case. -/
structure IsFunctionName (f : String) : Prop where
  identifier : Text.IsIdentifier f.toList
  free : Text.upper f.toList ∉ reservedNames

namespace Scalar

/-- Every function that the expression calls has the name of one. -/
def Named (e : Scalar) : Prop := ∀ f as, call f as ∈ e.parts → IsFunctionName f

theorem mem_partsAll {e : Scalar} {as : List Scalar} : e ∈ partsAll as ↔ ∃ a ∈ as, e ∈ parts a := by
  induction as with
  | nil => simp [partsAll]
  | cons a as ih => simp [partsAll, ih]

/-- Every call in the expression has the property, as a name with its arguments. -/
def Calls (p : String → List Scalar → Prop) (e : Scalar) : Prop := ∀ f as, call f as ∈ e.parts → p f as

section Calls

variable {p : String → List Scalar → Prop}

theorem calls_column (i : Nat) : Calls p (column i) := by
  intro f as h
  cases List.mem_singleton.mp h

theorem calls_constant (c : Constant) : Calls p (constant c) := by
  intro f as h
  cases List.mem_singleton.mp h

theorem calls_aggregateRows (o : AggregateOp) (d : Bool) : Calls p (aggregateRows o d) := by
  intro f as h
  cases List.mem_singleton.mp h

theorem calls_binary {o : BinaryOp} {l r : Scalar} :
    Calls p (binary o l r) ↔ Calls p l ∧ Calls p r := by
  simp only [Calls, parts, List.mem_cons, List.mem_append, reduceCtorEq, false_or, or_imp, forall_and]

theorem calls_unary {o : UnaryOp} {a : Scalar} : Calls p (unary o a) ↔ Calls p a := by
  simp only [Calls, parts, List.mem_cons, reduceCtorEq, false_or]

theorem calls_inList {a : Scalar} {vs : List Constant} {n : Bool} :
    Calls p (inList a vs n) ↔ Calls p a := by
  simp only [Calls, parts, List.mem_cons, reduceCtorEq, false_or]

theorem calls_aggregate {o : AggregateOp} {d : Bool} {a : Scalar} :
    Calls p (aggregate o d a) ↔ Calls p a := by
  simp only [Calls, parts, List.mem_cons, reduceCtorEq, false_or]

theorem calls_call {f : String} {as : List Scalar} :
    Calls p (call f as) ↔ p f as ∧ ∀ a ∈ as, Calls p a := by
  constructor
  · intro h
    refine ⟨h f as (List.mem_cons_self ..), fun a ha g bs hg => h g bs ?_⟩
    exact List.mem_cons_of_mem _ (mem_partsAll.mpr ⟨a, ha, hg⟩)
  · rintro ⟨hf, has⟩ g bs hg
    rcases List.mem_cons.mp hg with hsame | hg
    · cases hsame
      exact hf
    · obtain ⟨a, ha, hg⟩ := mem_partsAll.mp hg
      exact has a ha g bs hg

end Calls

/-- A call that is told from the operators and the aggregates: those stand before one argument. -/
structure IsApart (f : String) (as : List Scalar) : Prop where
  identifier : Text.IsIdentifier f.toList
  free : Text.upper f.toList ∈ reservedNames → as.length ≠ 1

/-- Every call in the expression is told from the operators and the aggregates. -/
abbrev Apart : Scalar → Prop := Calls IsApart

theorem Named.apart {e : Scalar} (h : Named e) : Apart e :=
  fun f as hf => ⟨(h f as hf).identifier, fun hname => absurd hname (h f as hf).free⟩

/-! ### Expressions -/

mutual

/-- Equality of expressions up to the case of names and the writing of doubles. -/
def Alike : Scalar → Scalar → Prop
  | .column i, .column j => i = j
  | .constant a, .constant b => a.Alike b
  | .binary o l r, .binary o' l' r' => o = o' ∧ Alike l l' ∧ Alike r r'
  | .unary o a, .unary o' a' => o = o' ∧ Alike a a'
  | .inList a vs n, .inList a' vs' n' => Alike a a' ∧ List.Forall₂ Constant.Alike vs vs' ∧ n = n'
  | .call f as, .call f' as' => Text.upper f.toList = Text.upper f'.toList ∧ AlikeAll as as'
  | .aggregate o d a, .aggregate o' d' a' => o = o' ∧ d = d' ∧ Alike a a'
  | .aggregateRows o d, .aggregateRows o' d' => o = o' ∧ d = d'
  | _, _ => False

def AlikeAll : List Scalar → List Scalar → Prop
  | [], [] => True
  | a :: as, b :: bs => Alike a b ∧ AlikeAll as bs
  | _, _ => False

end

theorem alikeAll_iff_forall₂ {as bs : List Scalar} : AlikeAll as bs ↔ List.Forall₂ Alike as bs := by
  induction as generalizing bs with
  | nil => cases bs <;> simp [AlikeAll]
  | cons a as ih => cases bs <;> simp [AlikeAll, ih]

mutual

theorem render_eq_of_alike : ∀ {e e' : Scalar}, Alike e e' → render e = render e'
  | .column i, e', h => by
    cases e' with
    | column j => rw [show i = j from h]
    | _ => cases h
  | .constant a, e', h => by
    cases e' with
    | constant b => exact Constant.render_eq_of_alike h
    | _ => cases h
  | .binary o l r, e', h => by
    cases e' with
    | binary o' l' r' =>
      obtain ⟨rfl, hl, hr⟩ := h
      rw [render, render, render_eq_of_alike hl, render_eq_of_alike hr]
    | _ => cases h
  | .unary o a, e', h => by
    cases e' with
    | unary o' a' =>
      obtain ⟨rfl, ha⟩ := h
      rw [render, render, render_eq_of_alike ha]
    | _ => cases h
  | .inList a vs n, e', h => by
    cases e' with
    | inList a' vs' n' =>
      obtain ⟨ha, hvs, rfl⟩ := h
      rw [render, render, render_eq_of_alike ha, Constant.map_render_eq hvs]
    | _ => cases h
  | .call f as, e', h => by
    cases e' with
    | call f' as' =>
      obtain ⟨hf, has⟩ := h
      rw [render, render, hf, renderEach_eq_of_alikeAll has]
    | _ => cases h
  | .aggregate o d a, e', h => by
    cases e' with
    | aggregate o' d' a' =>
      obtain ⟨rfl, rfl, ha⟩ := h
      rw [render, render, render_eq_of_alike ha]
    | _ => cases h
  | .aggregateRows o d, e', h => by
    cases e' with
    | aggregateRows o' d' =>
      obtain ⟨rfl, rfl⟩ := h
      rfl
    | _ => cases h

theorem renderEach_eq_of_alikeAll : ∀ {as bs : List Scalar}, AlikeAll as bs →
    renderEach as = renderEach bs
  | [], bs, h => by
    cases bs with
    | nil => rfl
    | cons => cases h
  | a :: as, bs, h => by
    cases bs with
    | nil => cases h
    | cons b bs => rw [renderEach, renderEach, render_eq_of_alike h.1, renderEach_eq_of_alikeAll h.2]

end

end Scalar

end PlanReuse
