import PlanReuse.Proofs.Algebra.Unambiguous

/-!
# What a call is read as

The word `NOT` and the names of the aggregates stand before a parenthesis as the name of a function does.
A call by such a name is told from the operator or the aggregate only by the number of its arguments, so
with one argument it has the same text. The reading of an expression has the operator or the aggregate in
the place of each such call.

* Texts are equal exactly if the readings are alike.
* Two forms of expression have one text exactly if one of them is such a call and the other what it is
  read as.
-/

namespace PlanReuse

/-- The aggregate of that name. -/
def AggregateOp.named? (name : List Char) : Option AggregateOp :=
  [count, sum, avg, min, max].find? fun o => o.name.toList = name

theorem AggregateOp.named?_eq_some {name : List Char} {o : AggregateOp} :
    named? name = some o ↔ name = o.name.toList := by
  constructor
  · intro h
    have hfound := List.find?_some h
    exact (of_decide_eq_true hfound).symm
  · rintro rfl
    cases o <;> decide

theorem mem_reservedNames {name : List Char} :
    name ∈ reservedNames ↔ name = UnaryOp.not.sign.toList ∨ ∃ o : AggregateOp, name = o.name.toList := by
  constructor
  · intro h
    simp only [reservedNames, List.mem_cons, List.not_mem_nil, or_false] at h
    rcases h with h | h | h | h | h | h
    · exact Or.inl h
    · exact Or.inr ⟨.count, h⟩
    · exact Or.inr ⟨.sum, h⟩
    · exact Or.inr ⟨.avg, h⟩
    · exact Or.inr ⟨.min, h⟩
    · exact Or.inr ⟨.max, h⟩
  · rintro (rfl | ⟨o, rfl⟩)
    · exact List.mem_cons_self ..
    · exact o.name_mem_reservedNames

namespace Scalar

/-- Every function that the expression calls has an identifier for its name. -/
abbrev Spelled : Scalar → Prop := Calls fun f _ => Text.IsIdentifier f.toList

/-! ### Calls by reserved names -/

/-- What a call is read as. -/
def readCall (f : String) : List Scalar → Scalar
  | [a] =>
    if Text.upper f.toList = UnaryOp.not.sign.toList then unary .not a
    else
      match AggregateOp.named? (Text.upper f.toList) with
      | some o => aggregate o false a
      | none => call f [a]
  | as => call f as

/-- The three ways a call is read: as the operator, as an aggregate, or as itself. -/
theorem readCall_cases (f : String) (as : List Scalar) :
    (∃ a, as = [a] ∧ Text.upper f.toList = UnaryOp.not.sign.toList ∧ readCall f as = unary .not a) ∨
    (∃ a o, as = [a] ∧ Text.upper f.toList = (AggregateOp.name o).toList ∧
      readCall f as = aggregate o false a) ∨
    ((Text.upper f.toList ∈ reservedNames → as.length ≠ 1) ∧ readCall f as = call f as) := by
  match as with
  | [] => exact Or.inr (Or.inr ⟨fun _ => nofun, rfl⟩)
  | a :: b :: as =>
    refine Or.inr (Or.inr ⟨fun _ hlength => ?_, rfl⟩)
    simp only [List.length_cons] at hlength
    omega
  | [a] =>
    by_cases hnot : Text.upper f.toList = UnaryOp.not.sign.toList
    · exact Or.inl ⟨a, rfl, hnot, by rw [readCall, if_pos hnot]⟩
    cases hname : AggregateOp.named? (Text.upper f.toList) with
    | some o =>
      refine Or.inr (Or.inl ⟨a, o, rfl, AggregateOp.named?_eq_some.mp hname, ?_⟩)
      rw [readCall, if_neg hnot, hname]
    | none =>
      refine Or.inr (Or.inr ⟨fun hreserved => ?_, by rw [readCall, if_neg hnot, hname]⟩)
      rcases mem_reservedNames.mp hreserved with h | ⟨o, h⟩
      · exact absurd h hnot
      · rw [AggregateOp.named?_eq_some.mpr h] at hname
        cases hname

/-- The call is written as the operator or the aggregate is. -/
inductive Shadows : Scalar → Scalar → Prop
  | not {f : String} {a b : Scalar} (name : Text.upper f.toList = UnaryOp.not.sign.toList)
    (argument : render a = render b) : Shadows (call f [a]) (unary .not b)
  | aggregate {f : String} {a b : Scalar} {o : AggregateOp} (name : Text.upper f.toList = o.name.toList)
    (argument : render a = render b) : Shadows (call f [a]) (aggregate o false b)

theorem render_call_single (f : String) (a : Scalar) :
    render (call f [a]) = Text.upper f.toList ++ '(' :: (render a ++ [')']) := by
  rw [render, ← argumentText_single a, argumentText]

theorem Shadows.render_eq {e e' : Scalar} (h : Shadows e e') : render e = render e' := by
  cases h with
  | not hname hargument => rw [render_call_single, render, hname, hargument]
  | aggregate hname hargument =>
    rw [render_call_single, render, hname, hargument, distinctMark, if_neg (by decide), List.nil_append]

theorem render_readCall (f : String) (as : List Scalar) : render (readCall f as) = render (call f as) := by
  rcases readCall_cases f as with ⟨a, rfl, hname, h⟩ | ⟨a, o, rfl, hname, h⟩ | ⟨_, h⟩ <;> rw [h]
  · exact (Shadows.not hname rfl).render_eq.symm
  · exact (Shadows.aggregate hname rfl).render_eq.symm

theorem apart_readCall {f : String} (hf : Text.IsIdentifier f.toList) {as : List Scalar}
    (has : ∀ a ∈ as, Apart a) : Apart (readCall f as) := by
  rcases readCall_cases f as with ⟨a, rfl, _, h⟩ | ⟨a, o, rfl, _, h⟩ | ⟨hlength, h⟩ <;> rw [h]
  · exact calls_unary.mpr (has a (List.mem_singleton_self a))
  · exact calls_aggregate.mpr (has a (List.mem_singleton_self a))
  · exact calls_call.mpr ⟨⟨hf, hlength⟩, has⟩

/-! ### Readings -/

mutual

/-- The expression with each call in the place of which an operator or an aggregate is read. -/
def reading : Scalar → Scalar
  | column i => column i
  | constant c => constant c
  | binary o l r => binary o (reading l) (reading r)
  | unary o a => unary o (reading a)
  | inList a vs n => inList (reading a) vs n
  | call f as => readCall f (readings as)
  | aggregate o d a => aggregate o d (reading a)
  | aggregateRows o d => aggregateRows o d

def readings : List Scalar → List Scalar
  | [] => []
  | a :: as => reading a :: readings as

end

theorem readings_eq_map (as : List Scalar) : readings as = as.map reading := by
  induction as with
  | nil => rfl
  | cons a as ih => rw [readings, ih, List.map_cons]

mutual

theorem render_reading : ∀ e : Scalar, render (reading e) = render e
  | column _ | constant _ | aggregateRows .. => rfl
  | binary o l r => by rw [reading, render, render, render_reading l, render_reading r]
  | unary o a => by rw [reading, render, render, render_reading a]
  | inList a vs n => by rw [reading, render, render, render_reading a]
  | call f as => by rw [reading, render_readCall, render, render, renderEach_readings as]
  | aggregate o d a => by rw [reading, render, render, render_reading a]

theorem renderEach_readings : ∀ as : List Scalar, renderEach (readings as) = renderEach as
  | [] => rfl
  | a :: as => by rw [readings, renderEach, renderEach, render_reading a, renderEach_readings as]

end

mutual

theorem apart_reading : ∀ {e : Scalar}, Spelled e → Apart (reading e)
  | column i, _ => calls_column i
  | constant c, _ => calls_constant c
  | binary .., h =>
    calls_binary.mpr ⟨apart_reading (calls_binary.mp h).1, apart_reading (calls_binary.mp h).2⟩
  | unary .., h => calls_unary.mpr (apart_reading (calls_unary.mp h))
  | inList .., h => calls_inList.mpr (apart_reading (calls_inList.mp h))
  | call .., h => apart_readCall (calls_call.mp h).1 (apart_readings (calls_call.mp h).2)
  | aggregate .., h => calls_aggregate.mpr (apart_reading (calls_aggregate.mp h))
  | aggregateRows o d, _ => calls_aggregateRows o d

theorem apart_readings : ∀ {as : List Scalar}, (∀ a ∈ as, Spelled a) → ∀ a ∈ readings as, Apart a
  | [], _, _, ha => by cases ha
  | b :: bs, h, a, ha => by
    rcases List.mem_cons.mp ha with hab | ha
    · rw [hab]
      exact apart_reading (h b (List.mem_cons_self ..))
    · exact apart_readings (fun x hx => h x (List.mem_cons_of_mem _ hx)) a ha

end

/-- Expressions have one text exactly if their readings are alike. -/
theorem render_eq_iff_alike_reading {e e' : Scalar} (he : Spelled e) (he' : Spelled e') :
    render e = render e' ↔ Alike (reading e) (reading e') := by
  rw [← render_reading e, ← render_reading e']
  exact render_eq_iff_alike (apart_reading he) (apart_reading he')

/-! ### Different forms -/

theorem form_eq_of_alike {e e' : Scalar} (h : Alike e e') : e.form = e'.form := by
  cases e <;> cases e' <;> first | rfl | exact h.elim

theorem form_reading {e : Scalar} (h : e.form ≠ .call) : (reading e).form = e.form := by
  cases e with
  | call f as => exact absurd rfl h
  | _ => rfl

theorem shadows_of_alike_reading {f : String} {as : List Scalar} {e : Scalar} (hform : e.form ≠ .call)
    (h : Alike (reading (call f as)) (reading e)) : Shadows (call f as) e := by
  have harguments {x : Scalar} (hx : readings as = [x]) : ∃ a, as = [a] ∧ reading a = x := by
    rw [readings_eq_map] at hx
    obtain ⟨a, has, hax⟩ := List.map_eq_singleton_iff.mp hx
    exact ⟨a, has, hax⟩
  have hrender {a b : Scalar} (hab : Alike (reading a) (reading b)) : render a = render b := by
    rw [← render_reading a, ← render_reading b, render_eq_of_alike hab]
  -- A call that is read as itself is alike only to calls.
  have hsame := (form_eq_of_alike h).trans (form_reading hform)
  rw [reading] at h hsame
  rcases readCall_cases f (readings as) with ⟨x, hx, hname, hread⟩ | ⟨x, o, hx, hname, hread⟩ | ⟨_, hread⟩
  · obtain ⟨a, rfl, rfl⟩ := harguments hx
    rw [hread] at h
    cases e with
    | unary o b =>
      obtain ⟨rfl, hab⟩ := h
      exact .not hname (hrender hab)
    | call g bs => exact absurd rfl hform
    | _ => exact h.elim
  · obtain ⟨a, rfl, rfl⟩ := harguments hx
    rw [hread] at h
    cases e with
    | aggregate p d b =>
      obtain ⟨rfl, rfl, hab⟩ := h
      exact .aggregate hname (hrender hab)
    | call g bs => exact absurd rfl hform
    | _ => exact h.elim
  · rw [hread] at hsame
    exact absurd hsame.symm hform

/-- Expressions of different forms have one text exactly if one is a call by the name of the other. -/
theorem render_eq_iff_shadows {e e' : Scalar} (he : Spelled e) (he' : Spelled e')
    (hform : e.form ≠ e'.form) : render e = render e' ↔ Shadows e e' ∨ Shadows e' e := by
  constructor
  · intro h
    by_cases hcall : e.form = .call
    · cases e with
      | call f as =>
        have halike := (render_eq_iff_alike_reading he he').mp h
        exact Or.inl (shadows_of_alike_reading hform.symm halike)
      | _ => cases hcall
    by_cases hcall' : e'.form = .call
    · cases e' with
      | call f as =>
        have halike := (render_eq_iff_alike_reading he' he).mp h.symm
        exact Or.inr (shadows_of_alike_reading hform halike)
      | _ => cases hcall'
    have hread := form_eq_of_alike ((render_eq_iff_alike_reading he he').mp h)
    rw [form_reading hcall, form_reading hcall'] at hread
    exact absurd hread hform
  · rintro (h | h)
    · exact h.render_eq
    · exact h.render_eq.symm

/- A count of a negated membership, written with two functions and without any. -/
theorem render_eq_iff_shadows_of_counted_call :
    let e := call "Count" [call "not" [inList (column 3) [.null] true]]
    let e' := aggregate .count false (unary .not (inList (column 3) [.null] true))
    Spelled e ∧ Spelled e' ∧ e.form ≠ e'.form ∧
      (render e = render e' ↔ Shadows e e' ∨ Shadows e' e) := by
  intro e e'
  have hnot : Text.IsIdentifier "not".toList :=
    ⟨List.all_eq_true.mp (by decide), 'n', by decide, by decide⟩
  have hcount : Text.IsIdentifier "Count".toList :=
    ⟨List.all_eq_true.mp (by decide), 'C', by decide, by decide⟩
  have hmember : Spelled (inList (column 3) [.null] true) := calls_inList.mpr (calls_column 3)
  have he : Spelled e := by
    simpa [e, Spelled, calls_call] using ⟨hcount, hnot, hmember⟩
  have he' : Spelled e' := calls_aggregate.mpr (calls_unary.mpr hmember)
  have hform : e.form ≠ e'.form := nofun
  exact ⟨he, he', hform, render_eq_iff_shadows he he' hform⟩

/- A function of the name of an aggregate, and the aggregate. -/
theorem counted_call_has_text_of_aggregate :
    Spelled (call "count" [column 0]) ∧ Spelled (aggregate .count false (column 0)) ∧
      (call "count" [column 0]).form ≠ (aggregate .count false (column 0)).form ∧
      render (call "count" [column 0]) = render (aggregate .count false (column 0)) := by
  have hcount : Text.IsIdentifier "count".toList :=
    ⟨List.all_eq_true.mp (by decide), 'c', by decide, by decide⟩
  have hargument : ∀ a ∈ [column 0], Spelled a := by
    intro a ha
    rw [List.mem_singleton.mp ha]
    exact calls_column 0
  refine ⟨calls_call.mpr ⟨hcount, hargument⟩, calls_aggregate.mpr (calls_column 0), nofun, ?_⟩
  decide +kernel

end Scalar

end PlanReuse
