import PlanReuse.Number.Shortest

/-!
# Where a piece of a text ends

Texts and byte streams are written piece after piece. Where the members of a piece and the one after it
belong to two classes, the whole determines where the piece ends; then equal texts have equal pieces.
-/

namespace PlanReuse.Text

variable {β : Type}

theorem ne_of_class {p : β → Bool} {c d : β} (hc : p c = true) (hd : p d = false) : c ≠ d := by
  rintro rfl
  cases hc.symm.trans hd

/-- The text is empty or begins with a member outside the class. -/
def Stops (p : β → Bool) (s : List β) : Prop := ∀ c ∈ s.head?, p c = false

@[simp] theorem stops_nil (p : β → Bool) : Stops p [] := by
  intro c hc
  cases hc

@[simp] theorem stops_cons (p : β → Bool) (c : β) (s : List β) :
    Stops p (c :: s) ↔ p c = false := by
  simp [Stops]

/-- A piece that is not empty stops where it begins. -/
theorem stops_append {p : β → Bool} {v : List β} (hv : v.head?.map p = some false) (s : List β) :
    Stops p (v ++ s) := by
  cases v with
  | nil => cases hv
  | cons c v => exact (stops_cons ..).mpr (Option.some.inj hv)

theorem Stops.takeWhile {p : β → Bool} {s : List β} (h : Stops p s) : s.takeWhile p = [] := by
  cases s with
  | nil => rfl
  | cons c s => rw [List.takeWhile_cons, (stops_cons ..).mp h, if_neg Bool.false_ne_true]

theorem Stops.dropWhile {p : β → Bool} {s : List β} (h : Stops p s) : s.dropWhile p = s := by
  cases s with
  | nil => rfl
  | cons c s => rw [List.dropWhile_cons, (stops_cons ..).mp h, if_neg Bool.false_ne_true]

/-- A piece of one class, followed by something that does not go on with it, is determined by the text. -/
theorem append_inj_of_stops {p : β → Bool} {v w s t : List β} (hv : ∀ c ∈ v, p c = true)
    (hw : ∀ c ∈ w, p c = true) (hs : Stops p s) (ht : Stops p t) (h : v ++ s = w ++ t) :
    v = w ∧ s = t := by
  induction v generalizing w with
  | nil =>
    cases w with
    | nil => exact ⟨rfl, h⟩
    | cons d w =>
      have hd : p d = true := hw d (List.mem_cons_self ..)
      rw [List.nil_append, List.cons_append] at h
      subst h
      simp only [stops_cons] at hs
      rw [hs] at hd
      cases hd
  | cons c v ih =>
    have hc : p c = true := hv c (List.mem_cons_self ..)
    cases w with
    | nil =>
      rw [List.nil_append, List.cons_append] at h
      subst h
      simp only [stops_cons] at ht
      rw [ht] at hc
      cases hc
    | cons d w =>
      simp only [List.cons_append, List.cons.injEq] at h
      obtain ⟨hcd, h⟩ := h
      have hv' : ∀ x ∈ v, p x = true := fun x hx => hv x (List.mem_cons_of_mem _ hx)
      have hw' : ∀ x ∈ w, p x = true := fun x hx => hw x (List.mem_cons_of_mem _ hx)
      obtain ⟨hvw, hst⟩ := ih hv' hw' h
      exact ⟨by rw [hcd, hvw], hst⟩

end PlanReuse.Text

namespace PlanReuse.Decimal

/-! ### Decimal digits -/

theorem isDigit_of_mem_digits {n : Nat} {c : Char} (h : c ∈ digits n) : c.isDigit = true :=
  Nat.isDigit_of_mem_toDigits (by decide) (by decide) h

theorem digits_injective {m n : Nat} (h : digits m = digits n) : m = n := by
  have hm : Nat.ofDigitChars 10 (digits m) 0 = m := Nat.ofDigitChars_ten_toDigits
  have hn : Nat.ofDigitChars 10 (digits n) 0 = n := Nat.ofDigitChars_ten_toDigits
  rw [← hm, h, hn]

/-- A number written in front of something that is no digit is determined by the text. -/
theorem digits_append_inj {m n : Nat} {s t : List Char} (hs : Text.Stops Char.isDigit s)
    (ht : Text.Stops Char.isDigit t) (h : digits m ++ s = digits n ++ t) : m = n ∧ s = t := by
  obtain ⟨hmn, hst⟩ := Text.append_inj_of_stops (fun _ => isDigit_of_mem_digits)
    (fun _ => isDigit_of_mem_digits) hs ht h
  exact ⟨digits_injective hmn, hst⟩

end PlanReuse.Decimal
