import PlanReuse.Proofs.Algebra.Alike
import PlanReuse.Proofs.Text.Quotation

/-!
# Where an expression ends

After an expression there stands a mark, and never the beginning of a membership list. In front of such
a text every constant, and every list of things that end there, is determined by its text.
-/

namespace PlanReuse

namespace Scalar

/-! ### What follows an expression -/

/-- The marks that an expression is followed by. -/
def closers : List Char := [' ', ')', ',', ']']

/-- What begins a membership list. -/
def membershipMark (negated : Bool) : List Char := (if negated then " NOT IN (" else " IN (").toList

/-- A text that begins with such a mark, or the empty one. -/
def Ends (s : List Char) : Prop := ∀ c ∈ s.head?, c ∈ closers

/-- A text that an expression can stand in front of without going on into it. -/
structure Closed (s : List Char) : Prop where
  ends : Ends s
  separate : ∀ negated, ¬membershipMark negated <+: s

theorem closed_nil : Closed [] := by
  constructor
  · intro c hc
    cases hc
  · intro n h
    have hnil := List.prefix_nil.mp h
    cases n <;> cases hnil

theorem closing_of_bracket {c : Char} (hc : c ∈ [')', ']']) : c ∈ [')', ',', ']'] := by
  rcases List.mem_cons.mp hc with rfl | hc
  · decide
  · exact List.mem_cons_of_mem _ (List.mem_cons_of_mem _ hc)

theorem closed_cons {c : Char} (hc : c ∈ [')', ',', ']']) (s : List Char) : Closed (c :: s) := by
  constructor
  · intro d hd
    cases hd
    exact List.mem_cons_of_mem _ hc
  · intro n h
    have hspace : ' ' = c := by
      cases n <;> exact (List.cons_prefix_cons.mp h).1
    rw [← hspace] at hc
    exact absurd hc (by decide)

theorem isPlain_of_mem_closers {c : Char} (hc : c ∈ closers) : Text.isPlain c = false := by
  have hall : ∀ d ∈ closers, (!Text.isPlain d) = true := List.all_eq_true.mp (by decide)
  simpa using hall c hc

theorem not_mem_closers {c : Char} (hc : Text.isPlain c = true) : c ∉ closers := by
  intro hmem
  rw [isPlain_of_mem_closers hmem] at hc
  cases hc

theorem Ends.stops {s : List Char} (hs : Ends s) : Text.Stops Text.isPlain s :=
  fun c hc => isPlain_of_mem_closers (hs c hc)

theorem Ends.stops_digit {s : List Char} (hs : Ends s) : Text.Stops Char.isDigit s := by
  intro c hc
  have hall : ∀ d ∈ closers, (!d.isDigit) = true := List.all_eq_true.mp (by decide)
  simpa using hall c (hs c hc)

@[simp] theorem ends_cons (c : Char) (s : List Char) : Ends (c :: s) ↔ c ∈ closers := by
  simp [Ends]

/-- Behind a blank no membership list begins, unless with its first letter. -/
theorem closed_blank {c : Char} (hc : c ∉ ['I', 'N']) (s : List Char) : Closed (' ' :: c :: s) := by
  constructor
  · exact (ends_cons _ _).mpr (by decide)
  · intro n h
    have hmem : c ∈ ['I', 'N'] := by
      cases n <;> rw [← (List.cons_prefix_cons.mp (List.cons_prefix_cons.mp h).2).1] <;> decide
    exact hc hmem

/-! ### Lists -/

variable {α : Type}

/-- In front of a text of class `q`, the text of `a` is only the text of what it is related to. -/
def Determines (q : List Char → Prop) (text : α → List Char) (R : α → α → Prop) (p : α → Prop)
    (a : α) : Prop :=
  ∀ b s t, p b → q s → q t → text a ++ s = text b ++ t → R a b ∧ s = t

theorem Determines.mono {q q' : List Char → Prop} {text : α → List Char} {R : α → α → Prop}
    {p : α → Prop} {a : α} (h : Determines q text R p a) (hq : ∀ s, q' s → q s) :
    Determines q' text R p a :=
  fun b s t hb hs ht heq => h b s t hb (hq s hs) (hq t ht) heq

/-- No text of the kind is empty or begins with a mark that ends it. -/
def Opens (text : α → List Char) (p : α → Prop) : Prop :=
  ∀ a, p a → ∃ c s, text a = c :: s ∧ c ∉ closers

theorem commaSeparated_cons (x : List Char) (xs : List (List Char)) :
    commaSeparated (x :: xs) = x ++ xs.flatMap fun y => ',' :: ' ' :: y := by
  induction xs generalizing x with
  | nil => simp [commaSeparated, List.intercalate]
  | cons y ys ih =>
    rw [List.flatMap_cons, List.cons_append, List.cons_append, ← ih y]
    simp [commaSeparated, List.intercalate]

variable {text : α → List Char} {R : α → α → Prop} {p : α → Prop} {c : Char} {s t : List Char}

/-- What follows the first member of a list is closed. -/
theorem closed_rest (hc : c ∈ [')', ',', ']']) (xs : List (List Char)) :
    Closed (xs.flatMap (fun y => ',' :: ' ' :: y) ++ c :: s) := by
  cases xs with
  | nil => exact closed_cons hc _
  | cons x xs => exact closed_cons (by decide) _

theorem rest_append_inj (hc : c ∈ [')', ']']) {as bs : List α}
    (has : ∀ a ∈ as, Determines Closed text R p a) (hbs : ∀ b ∈ bs, p b)
    (h : (as.map text).flatMap (fun y => ',' :: ' ' :: y) ++ c :: s =
      (bs.map text).flatMap (fun y => ',' :: ' ' :: y) ++ c :: t) :
    List.Forall₂ R as bs ∧ s = t := by
  have hcomma : c ≠ ',' := by
    intro h
    rw [h] at hc
    exact absurd hc (by decide)
  have hclose := closing_of_bracket hc
  induction as generalizing bs with
  | nil =>
    cases bs with
    | nil => exact ⟨.nil, (List.cons.inj h).2⟩
    | cons b bs => exact absurd (List.cons.inj h).1 hcomma
  | cons a as ih =>
    cases bs with
    | nil => exact absurd (List.cons.inj h).1.symm hcomma
    | cons b bs =>
      obtain ⟨ha, has⟩ := List.forall_mem_cons.mp has
      obtain ⟨hb, hbs⟩ := List.forall_mem_cons.mp hbs
      simp only [List.map_cons, List.flatMap_cons, List.cons_append, List.append_assoc,
        List.cons.injEq, true_and] at h
      obtain ⟨hab, h⟩ := ha b _ _ hb (closed_rest hclose _) (closed_rest hclose _) h
      obtain ⟨hrest, hst⟩ := ih has hbs h
      exact ⟨.cons hab hrest, hst⟩

/-- A list of determined members is determined by the text that ends with its bracket. -/
theorem commaSeparated_append_inj (hopens : Opens text p) (hc : c ∈ [')', ']']) {as bs : List α}
    (has : ∀ a ∈ as, p a ∧ Determines Closed text R p a) (hbs : ∀ b ∈ bs, p b)
    (h : commaSeparated (as.map text) ++ c :: s = commaSeparated (bs.map text) ++ c :: t) :
    List.Forall₂ R as bs ∧ s = t := by
  have hclose := closing_of_bracket hc
  have hend : c ∈ closers := List.mem_cons_of_mem _ hclose
  have hfirst (a : α) (ha : p a) (u v : List Char) : text a ++ u ≠ c :: v := by
    obtain ⟨d, w, hd, hdc⟩ := hopens a ha
    rw [hd, List.cons_append]
    intro hcons
    rw [(List.cons.inj hcons).1] at hdc
    exact hdc hend
  cases as with
  | nil =>
    cases bs with
    | nil => exact ⟨.nil, (List.cons.inj h).2⟩
    | cons b bs =>
      rw [List.map_cons, commaSeparated_cons, List.append_assoc] at h
      exact absurd h.symm (hfirst b (hbs b (List.mem_cons_self ..)) _ _)
  | cons a as =>
    obtain ⟨⟨hpa, ha⟩, has⟩ := List.forall_mem_cons.mp has
    rw [List.map_cons, commaSeparated_cons, List.append_assoc] at h
    cases bs with
    | nil => exact absurd h (hfirst a hpa _ _)
    | cons b bs =>
      obtain ⟨hb, hbs⟩ := List.forall_mem_cons.mp hbs
      rw [List.map_cons, commaSeparated_cons, List.append_assoc] at h
      obtain ⟨hab, h⟩ := ha b _ _ hb (closed_rest hclose _) (closed_rest hclose _) h
      obtain ⟨hrest, hst⟩ := rest_append_inj hc (fun a ha => (has a ha).2) hbs h
      exact ⟨.cons hab hrest, hst⟩

end Scalar

end PlanReuse
