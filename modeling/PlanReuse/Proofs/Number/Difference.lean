import Mathlib.Data.Nat.ModEq
import Mathlib.Tactic.WLOG
import PlanReuse.Number.Arithmetic

/-!
# Differences of doubles

The difference of two doubles is zero only if they are one number: near zero the doubles lie as dense as
their differences, so nothing is rounded away. A quotient by a difference therefore needs no other check
than that the two numbers are not equal.
-/

namespace PlanReuse.Binary64

/-! ### Sign and magnitude -/

theorem magnitude_lt (x : Binary64) : x.magnitude < signBit := by
  rw [magnitude_eq]
  exact Nat.mod_lt _ (by decide)

theorem toNat_ofParts {negative : Bool} {m : Nat} (h : m < signBit) :
    (ofParts negative m).bits.toNat = if negative then signBit + m else m := by
  have hsign : signBit = 2 ^ 63 := by decide
  rw [ofParts, UInt64.toNat_ofNat']
  apply Nat.mod_eq_of_lt
  split <;> omega

@[simp] theorem magnitude_ofParts {negative : Bool} {m : Nat} (h : m < signBit) :
    (ofParts negative m).magnitude = m := by
  rw [magnitude_eq, toNat_ofParts h]
  split
  · rw [Nat.add_mod_left, Nat.mod_eq_of_lt h]
  · exact Nat.mod_eq_of_lt h

@[simp] theorem isNegative_ofParts {negative : Bool} {m : Nat} (h : m < signBit) :
    (ofParts negative m).isNegative = negative := by
  rw [isNegative_eq, toNat_ofParts h]
  cases negative
  · simpa using h
  · simp

@[simp] theorem magnitude_negate (x : Binary64) : x.negate.magnitude = x.magnitude :=
  magnitude_ofParts x.magnitude_lt

@[simp] theorem isNegative_negate (x : Binary64) : x.negate.isNegative = !x.isNegative :=
  isNegative_ofParts x.magnitude_lt

@[simp] theorem scaled_negate (x : Binary64) : x.negate.scaled = x.scaled := by
  simp only [scaled, magnitude_negate]

theorem isZero_ofParts {negative : Bool} {m : Nat} (h : m < signBit) :
    (ofParts negative m).isZero = (m == 0) := by
  rw [isZero, magnitude_ofParts h]

/-! ### Significands -/

/-- The exponent counts from the least one, which belongs to all numbers without a leading bit and to the
first ones with one. With it the magnitude is a sum. -/
theorem scaled_spec (x : Binary64) :
    ∃ e : Nat, x.scaled.2 = (e : Int) - 1074 ∧ x.magnitude = e * hiddenBit + x.scaled.1 ∧
      x.scaled.1 < 2 * hiddenBit ∧ (e = 0 ∨ hiddenBit ≤ x.scaled.1) := by
  have hpos : 0 < hiddenBit := by decide
  have hsplit := Nat.div_add_mod x.magnitude hiddenBit
  have hfraction := Nat.mod_lt x.magnitude hpos
  cases hfield : x.magnitude / hiddenBit with
  | zero =>
    rw [hfield, Nat.mul_zero, Nat.zero_add] at hsplit
    have hscaled : x.scaled = (x.magnitude, -1074) := by
      simp only [scaled, hfield, if_true, hsplit]
    rw [hscaled]
    exact ⟨0, rfl, by omega, by dsimp only; omega, Or.inl rfl⟩
  | succ e =>
    have hscaled : x.scaled = (hiddenBit + x.magnitude % hiddenBit, Int.ofNat (e + 1) - 1075) := by
      simp only [scaled, hfield, Nat.add_one_ne_zero, if_false]
    rw [hscaled]
    rw [hfield, Nat.mul_comm, Nat.add_mul] at hsplit
    refine ⟨e, ?_, ?_, ?_, Or.inr ?_⟩ <;> dsimp only
    · rw [Int.ofNat_eq_natCast]
      omega
    · omega
    · omega
    · omega

theorem le_scaled (x : Binary64) : -1074 ≤ x.scaled.2 := by
  obtain ⟨e, he, _⟩ := x.scaled_spec
  omega

/-- A significand in the steps of a lower power has the size of the other number's only if the powers are
one and the same. -/
theorem magnitude_eq_of_steps {x y : Binary64} {low : Int} (hx : low ≤ x.scaled.2)
    (hy : low ≤ y.scaled.2)
    (h : x.scaled.1 * 2 ^ (x.scaled.2 - low).toNat = y.scaled.1 * 2 ^ (y.scaled.2 - low).toNat) :
    x.magnitude = y.magnitude := by
  wlog hle : x.scaled.2 ≤ y.scaled.2 generalizing x y
  · exact (this hy hx h.symm (by omega)).symm
  obtain ⟨e, hxe, hxm, hxlt, _⟩ := x.scaled_spec
  obtain ⟨f, hyf, hym, _, hylead⟩ := y.scaled_spec
  have hpower : (y.scaled.2 - low).toNat = (f - e) + (x.scaled.2 - low).toNat := by omega
  have hpos : 0 < 2 ^ (x.scaled.2 - low).toNat := Nat.two_pow_pos _
  rw [hpower, Nat.pow_add, ← Nat.mul_assoc] at h
  have hm : x.scaled.1 = y.scaled.1 * 2 ^ (f - e) := Nat.eq_of_mul_eq_mul_right hpos h
  obtain rfl | hlt : e = f ∨ e < f := by omega
  · rw [Nat.sub_self, Nat.pow_zero, Nat.mul_one] at hm
    rw [hxm, hym, hm]
  · -- A greater power needs a leading bit, and then the smaller one would leave no room for it.
    have hlead : hiddenBit ≤ y.scaled.1 := hylead.resolve_left (by omega)
    have htwo : 2 ≤ 2 ^ (f - e) := by
      calc 2 = 2 ^ 1 := rfl
        _ ≤ 2 ^ (f - e) := Nat.pow_le_pow_right (by decide) (by omega)
    have := Nat.mul_le_mul hlead htwo
    omega

/-! ### Rounding -/

theorem le_roundHalfEven (num den : Nat) : num / den ≤ roundHalfEven num den := by
  unfold roundHalfEven
  dsimp only
  split
  · exact Nat.le_refl _
  · split
    · omega
    · split <;> omega

theorem nearestMagnitude_lt (num den : Nat) : nearestMagnitude num den < signBit := by
  have hinfinity : infinityBits < signBit := by decide
  unfold nearestMagnitude
  dsimp only
  split
  · decide
  · exact Nat.lt_of_le_of_lt (Nat.min_le_right _ _) hinfinity

theorem shiftQuotient_natCast (num den e : Nat) : shiftQuotient num den e = (num * 2 ^ e, den) := by
  unfold shiftQuotient
  rw [if_pos (Int.natCast_nonneg e), Int.toNat_natCast]
  rfl

theorem shiftQuotient_negative (num den : Nat) {e : Int} (h : e < 0) :
    shiftQuotient num den e = (num, den * 2 ^ (-e).toNat) := by
  unfold shiftQuotient
  rw [if_neg (by omega)]
  rfl

/-- A fraction that is not below the least positive double is not rounded to zero. The exponent of that
double stands under a name, so that its power is never computed. -/
theorem nearestMagnitude_ne_zero {num den least : Nat} (hleast : least = 1074) (hden : 0 < den)
    (h : den ≤ num * 2 ^ least) : nearestMagnitude num den ≠ 0 := by
  have hnum : num ≠ 0 := by
    rintro rfl
    omega
  have hbound : (-1074 : Int) = -(least : Int) := by omega
  unfold nearestMagnitude
  rw [if_neg hnum, hbound]
  dsimp only
  generalize hlow : max ((num.log2 : Int) - den.log2 - 53) (-(least : Int)) = low
  have hinfinity : 0 < infinityBits := by decide
  have habove {q : Int} (hq : -1074 < q) (a b : Nat) :
      0 < (q + 1074).toNat * hiddenBit + roundHalfEven a b :=
    Nat.lt_of_lt_of_le (Nat.mul_pos (by omega) (by decide)) (Nat.le_add_right _ _)
  apply Nat.ne_of_gt
  split <;> dsimp only
  · exact Nat.lt_min.mpr ⟨habove (by omega) _ _, hinfinity⟩
  · obtain rfl | hlt : low = -(least : Int) ∨ -1074 < low := by omega
    · -- In the least steps the fraction is a whole one or more.
      have hwhole : 1 ≤ num * 2 ^ least / den := (Nat.one_le_div_iff hden).mpr h
      have hround : 1 ≤ roundHalfEven (num * 2 ^ least) den :=
        Nat.le_trans hwhole (le_roundHalfEven _ _)
      rw [Int.neg_neg, shiftQuotient_natCast]
      exact Nat.lt_min.mpr ⟨Nat.lt_of_lt_of_le hround (Nat.le_add_left _ _), hinfinity⟩
    · exact Nat.lt_min.mpr ⟨habove hlt _ _, hinfinity⟩

/-- A whole number of steps that doubles can take is not rounded to zero. -/
theorem isZero_nearestScaled {negative : Bool} {n : Nat} {power : Int} (hn : n ≠ 0)
    (hpower : -1074 ≤ power) : (nearestScaled negative n power).isZero = false := by
  unfold nearestScaled
  dsimp only
  split
  · next hexact =>
    obtain ⟨_, hlead, _, hplace⟩ := hexact
    have hdigits : n * Nat.pow 2 (52 - n.log2) < 2 * hiddenBit := by
      calc n * 2 ^ (52 - n.log2)
        _ < 2 ^ (n.log2 + 1) * 2 ^ (52 - n.log2) :=
          Nat.mul_lt_mul_of_pos_right Nat.lt_log2_self (Nat.two_pow_pos _)
        _ = 2 ^ 53 := by rw [← Nat.pow_add]; congr 1; omega
    have hpos : 0 < n * Nat.pow 2 (52 - n.log2) :=
      Nat.mul_pos (Nat.pos_of_ne_zero hn) (Nat.two_pow_pos _)
    have hfield : (power + n.log2 + 1022).toNat * hiddenBit ≤ 2045 * hiddenBit :=
      Nat.mul_le_mul_right _ (by omega)
    have hlt : (power + n.log2 + 1022).toNat * hiddenBit + n * Nat.pow 2 (52 - n.log2) < signBit := by
      have : 2045 * hiddenBit + 2 * hiddenBit < signBit := by decide
      exact Nat.lt_trans (Nat.add_lt_add_of_le_of_lt hfield hdigits) this
    rw [isZero_ofParts hlt]
    exact beq_false_of_ne (Nat.ne_of_gt (Nat.lt_of_lt_of_le hpos (Nat.le_add_left _ _)))
  · rw [nearest, isZero_ofParts (nearestMagnitude_lt _ _)]
    apply beq_false_of_ne
    obtain ⟨least, hleast⟩ : ∃ least : Nat, least = 1074 := ⟨1074, rfl⟩
    have hn1 : 1 ≤ n := Nat.pos_of_ne_zero hn
    obtain hnegative | hnonneg : power < 0 ∨ 0 ≤ power := by omega
    · rw [shiftQuotient_negative n 1 hnegative, Nat.one_mul]
      refine nearestMagnitude_ne_zero hleast (Nat.two_pow_pos _) ?_
      calc 2 ^ (-power).toNat
        _ ≤ 2 ^ least := Nat.pow_le_pow_right (by decide) (by omega)
        _ ≤ n * 2 ^ least := Nat.le_mul_of_pos_left _ hn1
    · obtain ⟨e, rfl⟩ := Int.eq_ofNat_of_zero_le hnonneg
      rw [shiftQuotient_natCast]
      refine nearestMagnitude_ne_zero hleast Nat.one_pos ?_
      exact Nat.mul_pos (Nat.mul_pos hn1 (Nat.two_pow_pos e)) (Nat.two_pow_pos least)

/-! ### Sums -/

/-- What a sum of finite numbers comes to. -/
theorem add_of_finite {x y : Binary64} (hx : x.magnitude < infinityBits) (hy : y.magnitude < infinityBits) :
    x.add y =
      let low := min x.scaled.2 y.scaled.2
      let sum := steps x.isNegative x.scaled.1 x.scaled.2 low + steps y.isNegative y.scaled.1 y.scaled.2 low
      if sum = 0 then ofParts (x.isNegative && y.isNegative) 0
      else nearestScaled (decide (sum < 0)) sum.natAbs low := by
  have hnan : (x.isNaN || y.isNaN) = false := by
    simp only [isNaN, Bool.or_eq_false_iff, decide_eq_false_iff_not]
    omega
  have hxinf : x.isInfinite = false := beq_false_of_ne (by omega)
  have hyinf : y.isInfinite = false := beq_false_of_ne (by omega)
  simp only [add, hnan, hxinf, hyinf, Bool.false_eq_true, if_false]

/-- A sum with a number that is not finite is infinite or no number at all. -/
theorem isZero_add_of_not_finite {x y : Binary64}
    (h : ¬ (x.magnitude < infinityBits ∧ y.magnitude < infinityBits)) : (x.add y).isZero = false := by
  have hinfinity : infinityBits ≠ 0 := by decide
  have hnan : nan.isZero = false := by decide
  by_cases hnumber : x.isNaN = true ∨ y.isNaN = true
  · rw [add, if_pos (by simpa using hnumber), hnan]
  · have hx : ¬ infinityBits < x.magnitude := fun hlt => hnumber (Or.inl (decide_eq_true hlt))
    have hy : ¬ infinityBits < y.magnitude := fun hlt => hnumber (Or.inr (decide_eq_true hlt))
    rw [add, if_neg (by simpa using hnumber)]
    by_cases hxinf : x.magnitude = infinityBits
    · have hxi : x.isInfinite = true := beq_iff_eq.mpr hxinf
      rw [if_pos hxi]
      split
      · exact hnan
      · exact beq_false_of_ne (by omega)
    · have hyinf : y.magnitude = infinityBits := by omega
      have hxi : ¬ x.isInfinite = true := fun hxi => hxinf (beq_iff_eq.mp hxi)
      have hyi : y.isInfinite = true := beq_iff_eq.mpr hyinf
      rw [if_neg hxi, if_pos hyi]
      exact beq_false_of_ne (by omega)

/-! ### Differences -/

/-- Sizes in one step cancel if they are equal and their signs are; otherwise there is nothing to cancel. -/
theorem eq_of_steps_cancel {s t : Bool} {m n : Nat} {p q low : Int}
    (h : steps s m p low + steps (!t) n q low = 0) :
    m * 2 ^ (p - low).toNat = n * 2 ^ (q - low).toNat ∧ (s = t ∨ m * 2 ^ (p - low).toNat = 0) := by
  unfold steps at h
  simp only [Nat.pow_eq] at h
  generalize m * 2 ^ (p - low).toNat = a at h ⊢
  generalize n * 2 ^ (q - low).toNat = b at h ⊢
  cases s <;> cases t <;> simp only [Bool.not_true, Bool.not_false, Bool.false_eq_true, if_true,
    if_false] at h
  · exact ⟨by omega, Or.inl rfl⟩
  · exact ⟨by omega, Or.inr (by omega)⟩
  · exact ⟨by omega, Or.inr (by omega)⟩
  · exact ⟨by omega, Or.inl rfl⟩

theorem magnitude_eq_zero {x : Binary64} (h : x.scaled.1 = 0) : x.magnitude = 0 := by
  have hhidden : 0 < hiddenBit := by decide
  obtain ⟨e, _, hm, _, hlead⟩ := x.scaled_spec
  have he : e = 0 := hlead.resolve_right (by omega)
  rw [hm, h, he, Nat.zero_mul]

/-- Numbers of one size and sign are the same number, and so are the zeros. -/
theorem sameNumber_of_magnitude_eq {x y : Binary64} (hx : x.magnitude < infinityBits)
    (h : x.magnitude = y.magnitude) (hsign : x.isNegative = y.isNegative ∨ x.magnitude = 0) :
    x.sameNumber y = true := by
  have hplace : x.place = y.place := by
    unfold place
    rw [← h]
    obtain hsign | hzero := hsign
    · rw [hsign]
    · simp [hzero]
  have hxnan : x.isNaN = false := decide_eq_false (by omega)
  have hynan : y.isNaN = false := decide_eq_false (by omega)
  simp only [sameNumber, hxnan, hynan, hplace, beq_self_eq_true]
  rfl

/-- Only a number itself differs from it by zero. -/
theorem sameNumber_of_isZero_sub {x y : Binary64} (h : (x.sub y).isZero = true) :
    x.sameNumber y = true := by
  by_cases hfinite : x.magnitude < infinityBits ∧ y.magnitude < infinityBits
  · obtain ⟨hx, hy⟩ := hfinite
    rw [sub, add_of_finite hx (by rwa [magnitude_negate])] at h
    simp only [scaled_negate, isNegative_negate] at h
    generalize hlow : min x.scaled.2 y.scaled.2 = low at h
    have hleast : -1074 ≤ low := by
      have := x.le_scaled
      have := y.le_scaled
      omega
    split at h
    · next hsum =>
      obtain ⟨hsteps, hsign⟩ := eq_of_steps_cancel hsum
      have hm := magnitude_eq_of_steps (by omega) (by omega) hsteps
      apply sameNumber_of_magnitude_eq hx hm
      refine hsign.imp_right fun hzero => magnitude_eq_zero ?_
      exact (Nat.mul_eq_zero.mp hzero).resolve_right (Nat.ne_of_gt (Nat.two_pow_pos _))
    · next hsum =>
      rw [isZero_nearestScaled (by omega) hleast] at h
      cases h
  · rw [sub, isZero_add_of_not_finite (by rwa [magnitude_negate])] at h
    cases h

end PlanReuse.Binary64
