import PlanReuse.Proofs.Numbering.History
import PlanReuse.Proofs.Numbering.Sharing

/-!
# Numberings of a later generation

The generation is given out with the numbers, and the overflows are counted, but neither is ever looked
at. A numbering some generations later therefore gives the same numbers, and plans get the same codes,
that many generations later.
-/

namespace PlanReuse

/-! ### Later generations -/

def Numbers.later (generations : Nat) (ns : Numbers) : Numbers :=
  { ns with generation := ns.generation + generations }

/-- The code that a plan gets some generations later. One that is no key has no generation. -/
def PlanCode.later (generations : Nat) (code : PlanCode) : PlanCode :=
  if code.isCacheable then { code with generation := code.generation + generations } else code

namespace Numbering

def later (generations overflows : Nat) (c : Numbering) : Numbering :=
  { c with generation := c.generation + generations, overflows := c.overflows + overflows }

variable (generations overflows : Nat)

/-! ### Giving numbers -/

theorem clear_later (c : Numbering) :
    (c.later generations overflows).clear = c.clear.later generations overflows := by
  simp only [clear, later, Nat.add_right_comm]

theorem assign_later (c : Numbering) (s : Shape) :
    (c.later generations overflows).assign s =
      ((c.assign s).1, (c.assign s).2.later generations overflows) := by
  have hnumberOf : (c.later generations overflows).numberOf? s = c.numberOf? s := rfl
  have hhasRoom : (c.later generations overflows).hasRoom = c.hasRoom := rfl
  rw [assign, assign, hnumberOf, hhasRoom, clear_later]
  cases c.numberOf? s with
  | some n => rfl
  | none => cases c.hasRoom <;> rfl

theorem assignAll_later (c : Numbering) (ss : List Shape) :
    (c.later generations overflows).assignAll ss =
      ((c.assignAll ss).1, (c.assignAll ss).2.later generations overflows) := by
  induction ss generalizing c with
  | nil => rfl
  | cons s ss ih =>
    have hlater := c.assign_later generations overflows s
    rcases hs : c.assign s with ⟨_ | n, d⟩
    · rw [hs] at hlater
      rw [assignAll_cons_none hs, assignAll_cons_none hlater]
    · rw [hs] at hlater
      rw [assignAll_cons_some hs, assignAll_cons_some hlater, ih]

theorem resolve_later (c : Numbering) (ss : List Shape) :
    (c.later generations overflows).resolve ss =
      ((c.resolve ss).1.map (Numbers.later generations),
        (c.resolve ss).2.later generations overflows) := by
  rw [resolve, resolve, assignAll_later]
  rcases c.assignAll ss with ⟨_ | ns, d⟩
  · simp only [later, Option.map_none, Nat.add_right_comm]
  · rfl

theorem resolveOne_later (c : Numbering) (s : Shape) :
    (c.later generations overflows).resolveOne s =
      ((c.resolveOne s).1, (c.resolveOne s).2.later generations overflows) := by
  rw [resolveOne, resolveOne, resolve_later]
  rcases c.resolve [s] with ⟨_ | ns, d⟩ <;> rfl

theorem act_later (c : Numbering) (a : Action) :
    (c.later generations overflows).act a = (c.act a).later generations overflows := by
  cases a with
  | resolve ss => exact congrArg Prod.snd (c.resolve_later generations overflows ss)
  | resolveOne s => exact congrArg Prod.snd (c.resolveOne_later generations overflows s)
  | setLimit limit => rfl
  | clear => exact c.clear_later generations overflows

/-! ### Codes -/

theorem isCacheable_ofNumbers {ns : Numbers} (h : ns.numbers ≠ []) :
    (PlanCode.ofNumbers ns).isCacheable = true := by
  obtain ⟨n, rest, hns⟩ := List.exists_cons_of_ne_nil h
  have htext : (PlanCode.ofNumbers ns).text ≠ "" := by
    intro hempty
    have hrender : PlanCode.render ns.numbers = [] := String.ofList_injective hempty
    rw [hns] at hrender
    exact PlanCode.render_cons_ne_nil n rest hrender
  simpa [PlanCode.isCacheable] using htext

/-- The code of a shape has at least the number of the shape itself. -/
theorem isCacheable_of_resolve {c d : Numbering} {shape : Shape} {ns : Numbers}
    (h : c.resolve shape.parts = (some ns, d)) : (PlanCode.ofNumbers ns).isCacheable = true := by
  apply isCacheable_ofNumbers
  intro hnone
  have hlength := congrArg List.length (resolve_some h).2.2
  rw [hnone, List.length_map] at hlength
  cases shape with
  | node kind params inputs =>
    rw [Shape.parts, List.length_cons] at hlength
    cases hlength

theorem codeOf_later (c : Numbering) (r : Except JoinFault (Option Shape)) :
    (c.later generations overflows).codeOf r =
      ((c.codeOf r).1.map (PlanCode.later generations),
        (c.codeOf r).2.later generations overflows) := by
  match r with
  | .error fault => rfl
  | .ok none => rfl
  | .ok (some shape) =>
    rw [codeOf, codeOf, resolve_later]
    rcases hresolve : c.resolve shape.parts with ⟨_ | ns, d⟩
    · rfl
    · have hcode : (PlanCode.ofNumbers ns).later generations = .ofNumbers (ns.later generations) := by
        rw [PlanCode.later, if_pos (isCacheable_of_resolve hresolve)]
        rfl
      simp only [Option.map_some, Except.map, hcode]

end Numbering

def Extraction.later (generations overflows : Nat) (e : Extraction) : Extraction :=
  ⟨e.outcome.map (PlanCode.later generations), e.memo, e.numbering.later generations overflows⟩

theorem extract_later (generations overflows : Nat) (scope : QueryScope) (root : Plan) (memo : Memo)
    (c : Numbering) :
    extract scope root memo (c.later generations overflows) =
      (extract scope root memo c).later generations overflows := by
  have hmemo : (extract scope root memo (c.later generations overflows)).memo =
      (extract scope root memo c).memo := by
    rw [QueryScope.memo_extract, QueryScope.memo_extract]
  have heffect := QueryScope.effect_extract scope root memo (c.later generations overflows)
  rw [Numbering.codeOf_later, ← QueryScope.effect_extract] at heffect
  obtain ⟨houtcome, hnumbering⟩ := Prod.mk.inj heffect
  rcases hlater : extract scope root memo (c.later generations overflows) with ⟨_, _, _⟩
  rw [hlater] at hmemo houtcome hnumbering
  rw [Extraction.later, Extraction.mk.injEq]
  exact ⟨houtcome, hmemo, hnumbering⟩

end PlanReuse
