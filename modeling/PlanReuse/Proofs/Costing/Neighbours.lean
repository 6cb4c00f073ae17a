import PlanReuse.Costing.Curve
import PlanReuse.Proofs.Costing.SampleOrder
import PlanReuse.Proofs.Number.Difference

/-!
# Neighbours on a curve

The order in which samples are given does not matter to a curve. Each prediction uses two samples that
stand next to each other in ascending order: the two around the size, or the first two, or the last two.
Both are there, and no quotient is taken by zero.
-/

namespace PlanReuse

/-- What holds of an element holds of all before it: then it holds of those, and only those, that stand in
front of the first failure. -/
theorem lt_length_takeWhile_iff {α : Type} {p : α → Bool} {l : List α}
    (hl : l.Pairwise fun a b => p b = true → p a = true) {i : Nat} (hi : i < l.length) :
    i < (l.takeWhile p).length ↔ p l[i] = true := by
  induction l generalizing i with
  | nil => exact absurd hi (Nat.not_lt_zero i)
  | cons a l ih =>
    obtain ⟨hfirst, hrest⟩ := List.pairwise_cons.mp hl
    by_cases ha : p a = true
    · rw [List.takeWhile_cons_of_pos ha, List.length_cons]
      cases i with
      | zero => simpa using ha
      | succ i =>
        rw [Nat.add_lt_add_iff_right, List.getElem_cons_succ]
        exact ih hrest (by simpa using hi)
    · rw [List.takeWhile_cons_of_neg ha]
      have hnone : ¬ p (a :: l)[i] = true := by
        cases i with
        | zero => exact ha
        | succ i => exact fun h => ha (hfirst _ (List.getElem_mem _) h)
      exact iff_of_false (Nat.not_lt_zero i) hnone

namespace Curve

/-! ### Fitting -/

theorem fit_of_lt {ss : List Sample} (h : ss.length < 2) :
    fit ss = .error (.insufficientSamples ss.length) := by
  have hlength := (Sample.sort_perm ss).length_eq
  rw [fit, dif_neg (by omega)]

theorem fit_of_le {ss : List Sample} (h : 2 ≤ ss.length) :
    ∃ c, fit ss = .ok c ∧ c.samples = Sample.sort ss := by
  have hlength := (Sample.sort_perm ss).length_eq
  rw [fit, dif_pos (by omega)]
  exact ⟨_, rfl, rfl⟩

/-- Samples that are in ascending order are kept as they are. -/
theorem extrapolation_of_ascending {ss : List Sample} (hss : ss.Pairwise Sample.NotAfter)
    (h : 2 ≤ ss.length) : extrapolation ss = .ok (predict ⟨ss, h⟩) := by
  obtain ⟨c, hfit, hsamples⟩ := fit_of_le h
  have hc : c = ⟨ss, h⟩ := by
    cases c
    cases hsamples.trans (Sample.eq_sort (List.Perm.refl ss) hss).symm
    rfl
  rw [extrapolation, hfit, hc]
  rfl

theorem fit_eq_of_perm {ss ts : List Sample} (h : ts.Perm ss) : fit ts = fit ss := by
  have hsort : Sample.sort ts = Sample.sort ss :=
    Sample.eq_sort ((Sample.sort_perm ts).trans h) (Sample.sort_pairwise ts)
  simp only [fit, hsort, h.length_eq]

/-! ### Places -/

/-- The sample at a place and the next one are the two that a size falls between, or the two at an end of
the list if it falls outside. -/
structure Beside (ss : List Sample) (size place : Nat) : Prop where
  inRange : place + 1 < ss.length
  below : (∀ s ∈ ss, size < s.size) → place = 0
  above : (∀ s ∈ ss, s.size ≤ size) → place + 2 = ss.length
  between : (∃ s ∈ ss, s.size ≤ size) → (∃ s ∈ ss, size < s.size) →
    ss[place].size ≤ size ∧ size < ss[place + 1].size

section

variable {c : Curve} (hc : c.samples.Pairwise Sample.NotAfter) (size : Nat)

include hc

/-- The samples up to a size are those at the first places. -/
theorem lt_upTo_iff {i : Nat} (hi : i < c.samples.length) :
    i < c.upTo size ↔ c.samples[i].size ≤ size := by
  have hdown : c.samples.Pairwise fun s t =>
      decide (t.size ≤ size) = true → decide (s.size ≤ size) = true := by
    refine hc.imp fun {s t} hst ht => ?_
    rw [decide_eq_true_eq] at ht ⊢
    unfold Sample.NotAfter at hst
    omega
  rw [upTo, lt_length_takeWhile_iff hdown hi, decide_eq_true_eq]

theorem beside_leftPlace : Beside c.samples size (c.leftPlace size) := by
  have htwo := c.two_le
  have hle := c.upTo_le size
  have hplace := c.leftPlace_lt size
  refine ⟨hplace, ?_, ?_, ?_⟩
  · intro hall
    have hzero : c.upTo size = 0 := by
      by_contra hne
      have hmem := hall c.samples[0] (List.getElem_mem _)
      have := (lt_upTo_iff hc size (i := 0) (by omega)).mp (by omega)
      omega
    simp only [leftPlace, hzero, if_true]
  · intro hall
    have hfull : c.upTo size = c.samples.length := by
      by_contra hne
      have hlt : c.upTo size < c.samples.length := by omega
      have := (lt_upTo_iff hc size hlt).mpr (hall _ (List.getElem_mem _))
      omega
    simp only [leftPlace, hfull, if_true]
    rw [if_neg (by omega)]
    omega
  · rintro ⟨s, hs, hsle⟩ ⟨t, ht, htlt⟩
    obtain ⟨i, hi, rfl⟩ := List.getElem_of_mem hs
    obtain ⟨j, hj, rfl⟩ := List.getElem_of_mem ht
    have hpos : i < c.upTo size := (lt_upTo_iff hc size hi).mpr hsle
    have hroom : ¬ j < c.upTo size := fun h => by
      have := (lt_upTo_iff hc size hj).mp h
      omega
    have hleft : c.leftPlace size = c.upTo size - 1 := by
      simp only [leftPlace]
      rw [if_neg (by omega), if_neg (by omega)]
    constructor
    · exact (lt_upTo_iff hc size (by omega)).mp (by omega)
    · apply Nat.lt_of_not_le
      intro h
      have := (lt_upTo_iff hc size hplace).mpr h
      omega

end

/-! ### The line -/

/-- If the sizes are one double, the time of the left sample is the answer. Otherwise a quotient is taken,
and not by zero. -/
theorem line_cases (p q : Sample) (size : Nat) :
    let run := (Binary64.ofNat q.size).sub (Binary64.ofNat p.size)
    let share := ((Binary64.ofNat size).sub (Binary64.ofNat p.size)).div run
    if (Binary64.ofNat q.size).sameNumber (Binary64.ofNat p.size) = true then line p q size = p.time
    else run.isZero = false ∧ line p q size = p.time.add (share.mul (q.time.sub p.time)) := by
  intro run share
  unfold line
  dsimp only
  split
  · rfl
  · next hdiffer =>
    refine ⟨?_, rfl⟩
    rw [Bool.eq_false_iff]
    exact fun hzero => hdiffer (Binary64.sameNumber_of_isZero_sub hzero)

/-- Fewer than two samples are refused. Two or more, in any order, give the one curve through them in
ascending order. A prediction for any size uses two neighbours, at places that are there: it stands on the
line through them, with no quotient by zero, and it is the time of the left one only if their sizes are one
double. -/
theorem predicts_from_neighbours (ss : List Sample) :
    (ss.length < 2 → extrapolation ss = .error (.insufficientSamples ss.length)) ∧
    (2 ≤ ss.length → ∃ c : Curve, (∀ ts, ts.Perm ss → extrapolation ts = .ok c.predict) ∧
      c.samples = Sample.sort ss ∧
      ∀ size, ∃ (place : Nat) (h : Beside (Sample.sort ss) size place),
        let p := (Sample.sort ss).get ⟨place, Nat.lt_of_succ_lt h.inRange⟩
        let q := (Sample.sort ss).get ⟨place + 1, h.inRange⟩
        let run := (Binary64.ofNat q.size).sub (Binary64.ofNat p.size)
        let share := ((Binary64.ofNat size).sub (Binary64.ofNat p.size)).div run
        if (Binary64.ofNat q.size).sameNumber (Binary64.ofNat p.size) = true then
          c.predict size = p.time
        else run.isZero = false ∧ c.predict size = p.time.add (share.mul (q.time.sub p.time))) := by
  refine ⟨fun h => ?_, fun h => ?_⟩
  · rw [extrapolation, fit_of_lt h]
    rfl
  · obtain ⟨c, hfit, hsamples⟩ := fit_of_le h
    refine ⟨c, fun ts hts => ?_, hsamples, fun size => ?_⟩
    · rw [extrapolation, fit_eq_of_perm hts, hfit]
      rfl
    · rw [← hsamples]
      have hsorted : c.samples.Pairwise Sample.NotAfter := hsamples ▸ Sample.sort_pairwise ss
      exact ⟨c.leftPlace size, beside_leftPlace hsorted size, line_cases _ _ size⟩

/- One sample is refused. Of three samples, two of one size, a size in the middle uses the later one of
the two and the larger one, in whichever order they come. -/
theorem predicts_from_neighbours_of_one_size :
    let sample (size : Nat) (bits : UInt64) : Sample := ⟨size, ⟨bits⟩⟩
    let one := sample 100 0x3FF0000000000000
    let two := sample 100 0x4000000000000000
    let three := sample 200 0x4008000000000000
    extrapolation [one] = .error (.insufficientSamples 1) ∧
      ∃ c : Curve, extrapolation [three, two, one] = .ok c.predict ∧
        extrapolation [two, three, one] = .ok c.predict ∧ c.samples = [one, two, three] ∧
        Beside c.samples 150 1 ∧ c.predict 150 = ⟨0x4004000000000000⟩ := by
  intro sample one two three
  obtain ⟨hfew, -⟩ := predicts_from_neighbours [one]
  obtain ⟨-, hmany⟩ := predicts_from_neighbours [three, two, one]
  obtain ⟨c, hperm, hsamples, hplaces⟩ := hmany (by decide)
  have hsort : Sample.sort [three, two, one] = [one, two, three] :=
    (Sample.eq_sort (by decide) (by decide)).symm
  rw [hsort] at hsamples hplaces
  refine ⟨hfew (by decide), c, hperm _ (List.Perm.refl _), hperm _ (by decide), hsamples, ?_⟩
  obtain ⟨place, hbeside, hline⟩ := hplaces 150
  have hplace : place = 1 := by
    match place, hbeside.inRange, hbeside.between (by decide) (by decide) with
    | 0, _, hzero => exact absurd (show 150 < 100 from hzero.2) (by decide)
    | 1, _, _ => rfl
  subst hplace
  have hsizes : (Binary64.ofNat three.size).sameNumber (Binary64.ofNat two.size) = false := by
    decide +kernel
  have hvalue : c.predict 150 =
      let share := ((Binary64.ofNat 150).sub (Binary64.ofNat two.size)).div
        ((Binary64.ofNat three.size).sub (Binary64.ofNat two.size))
      two.time.add (share.mul (three.time.sub two.time)) :=
    ((if_neg (Bool.eq_false_iff.mp hsizes)).mp hline).2
  refine ⟨hsamples ▸ hbeside, hvalue.trans ?_⟩
  decide +kernel

end Curve

end PlanReuse
