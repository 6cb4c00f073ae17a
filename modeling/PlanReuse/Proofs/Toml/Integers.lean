import Mathlib.Data.List.TakeWhile
import PlanReuse.Proofs.Text.Boundary
import PlanReuse.Toml.Reader

/-!
# Reading integers back

The decimal digits of a number are read as an integer of that value, up to the end of their line.
-/

namespace PlanReuse.Toml

open Text (Stops)

variable {c : Char} {ds w rest : List Char}

/-! ### Digits -/

theorem exists_digitChar_of_isDigit (h : c.isDigit = true) : ∃ d < 10, c = Nat.digitChar d := by
  have hc : 48 ≤ c.toNat ∧ c.toNat ≤ 57 := by
    simp only [Char.isDigit, Bool.and_eq_true, decide_eq_true_eq, ge_iff_le, UInt32.le_iff_toNat_le] at h
    exact h
  have hall : ∀ d < 10, Char.ofNat (d + 48) = Nat.digitChar d := by decide
  refine ⟨c.toNat - 48, by omega, ?_⟩
  rw [← hall _ (by omega), Nat.sub_add_cancel hc.1, Char.ofNat_toNat]

theorem isPlainChar_of_isDigit (h : c.isDigit = true) : isPlainChar c = true := by
  have hall : ∀ d < 10, isPlainChar (Nat.digitChar d) = true := by decide
  obtain ⟨d, hd, rfl⟩ := exists_digitChar_of_isDigit h
  exact hall d hd

theorem digitValue?_of_isDigit (h : c.isDigit = true) :
    digitValue? 10 c = some (c.toNat - '0'.toNat) := by
  have hall : ∀ d < 10, digitValue? 10 (Nat.digitChar d) =
      some ((Nat.digitChar d).toNat - '0'.toNat) := by decide
  obtain ⟨d, hd, rfl⟩ := exists_digitChar_of_isDigit h
  exact hall d hd

theorem foldlM_digitValue? (h : ∀ c ∈ ds, c.isDigit = true) (n : Nat) :
    ds.foldlM (fun n c => (digitValue? 10 c).map (n * 10 + ·)) n = some (Nat.ofDigitChars 10 ds n) := by
  induction ds generalizing n with
  | nil => rfl
  | cons c ds ih =>
    rw [List.foldlM_cons, digitValue?_of_isDigit (h c List.mem_cons_self), Nat.ofDigitChars_cons,
      Nat.mul_comm 10 n]
    exact ih (fun d hd => h d (List.mem_cons_of_mem c hd)) _

theorem digitsValue?_of_digits (hne : ds ≠ []) (h : ∀ c ∈ ds, c.isDigit = true) :
    digitsValue? 10 ds = some (Nat.ofDigitChars 10 ds 0) := by
  have hfilter : ds.filter (· ≠ '_') = ds := by
    rw [List.filter_eq_self]
    intro c hc
    refine decide_eq_true ?_
    rintro rfl
    cases h '_' hc
  rw [digitsValue?, hfilter]
  cases ds with
  | nil => exact absurd rfl hne
  | cons c ds => exact foldlM_digitValue? h 0

/-- No number but zero is written with a zero in front. -/
theorem head?_toDigits_ne_zero {n : Nat} (hn : n ≠ 0) : (Nat.toDigits 10 n).head? ≠ some '0' := by
  induction n using Nat.strongRecOn with
  | ind n ih =>
    rw [Nat.toDigits_eq_if (by decide)]
    split
    · next hsmall =>
      have hall : ∀ d < 10, d ≠ 0 → Nat.digitChar d ≠ '0' := by decide
      simpa using hall n hsmall hn
    · next hlarge =>
      rw [List.head?_append, Option.or_of_isSome (List.isSome_head?.mpr Nat.toDigits_ne_nil)]
      exact ih (n / 10) (by omega) (by omega)

/-! ### Integers among the plain values -/

theorem splitSign_of_digits (h : ∀ c ∈ ds, c.isDigit = true) : Number.splitSign ds = (false, ds) := by
  rw [Number.splitSign.eq_def]
  split
  · cases h '-' List.mem_cons_self
  · cases h '+' List.mem_cons_self
  · rfl

theorem splitBase?_of_digits (h : ∀ c ∈ ds, c.isDigit = true) : splitBase? ds = none := by
  have hsecond : ∀ {a b : Char} {r : List Char}, ds = a :: b :: r → b.isDigit = true := fun heq =>
    h _ (heq ▸ List.mem_cons_of_mem _ List.mem_cons_self)
  rw [splitBase?.eq_def]
  split
  · cases hsecond rfl
  · cases hsecond rfl
  · cases hsecond rfl
  · rfl

theorem isInteger_toDigits (n : Nat) : isInteger (Nat.toDigits 10 n) = true := by
  have hdigits : ∀ c ∈ Nat.toDigits 10 n, c.isDigit = true := fun _ => Decimal.isDigit_of_mem_digits
  have hrest : (Nat.toDigits 10 n).dropWhile Char.isDigit = [] :=
    List.dropWhile_eq_nil_iff.mpr hdigits
  rw [isInteger, splitBase?_of_digits hdigits, isDecimal, splitSign_of_digits hdigits]
  simp only [hrest]
  by_cases hn : n = 0
  · subst hn
    rfl
  · have hhead := head?_toDigits_ne_zero hn
    have hne : Nat.toDigits 10 n ≠ [] := Nat.toDigits_ne_nil
    simp [hhead, hne]

theorem integerOf?_toDigits (n : Nat) : integerOf? (Nat.toDigits 10 n) = some (n : Int) := by
  have hdigits : ∀ c ∈ Nat.toDigits 10 n, c.isDigit = true := fun _ => Decimal.isDigit_of_mem_digits
  rw [integerOf?, splitBase?_of_digits hdigits]
  simp only [splitSign_of_digits hdigits, digitsValue?_of_digits Nat.toDigits_ne_nil hdigits,
    Nat.ofDigitChars_ten_toDigits]
  rfl

theorem readPlain?_toDigits (n : Nat) : readPlain? (Nat.toDigits 10 n) = some (.integer (some n)) := by
  have hdigits : ∀ c ∈ Nat.toDigits 10 n, c.isDigit = true := fun _ => Decimal.isDigit_of_mem_digits
  have hword : ∀ w : String, w.toList.any (fun c => !c.isDigit) = true →
      Nat.toDigits 10 n ≠ w.toList := by
    intro w hw heq
    obtain ⟨c, hc, hother⟩ := List.any_eq_true.mp hw
    rw [hdigits c (heq ▸ hc)] at hother
    cases hother
  rw [readPlain?, if_neg (hword "true" (by decide)), if_neg (hword "false" (by decide)),
    if_pos (isInteger_toDigits n), integerOf?_toDigits]

/-! ### Up to the end of the line -/

theorem splitPlain_append (h : ∀ c ∈ w, isPlainChar c = true) (rest : List Char) :
    splitPlain (w ++ '\n' :: rest) = (w, '\n' :: rest) := by
  induction w with
  | nil =>
    rw [List.nil_append, splitPlain]
    simp [show isPlainChar '\n' = false from rfl, show isSpace '\n' = false from rfl]
  | cons c w ih =>
    rw [List.cons_append, splitPlain]
    simp [h c List.mem_cons_self, ih fun d hd => h d (List.mem_cons_of_mem c hd)]

theorem readPlainValue?_toDigits (n : Nat) (rest : List Char) :
    readPlainValue? (Nat.toDigits 10 n ++ '\n' :: rest) = some (.integer (some n), '\n' :: rest) := by
  have hplain : ∀ c ∈ Nat.toDigits 10 n, isPlainChar c = true := fun _ hc =>
    isPlainChar_of_isDigit (Decimal.isDigit_of_mem_digits hc)
  rw [readPlainValue?, splitPlain_append hplain]
  simp only [readPlain?_toDigits, Option.map_some]

end PlanReuse.Toml
