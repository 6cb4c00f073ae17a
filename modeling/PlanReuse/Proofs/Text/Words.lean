import Mathlib.Tactic.SplitIfs
import PlanReuse.Text.Uppercase
import PlanReuse.Proofs.Text.Boundary

/-!
# Words and marks

A canonical text consists of words and of the marks between them. Numbers and names are words, in upper
case too, so each of them ends where the next mark stands.
-/

namespace PlanReuse

namespace Text

/-- The characters that separate the words of a canonical text. -/
def marks : List Char := [' ', '"', '$', '(', ')', ',', ':', ';', '[', ']']

def isPlain (c : Char) : Bool := !(marks.contains c)

def IsWord (s : List Char) : Prop := s.all isPlain = true

instance (s : List Char) : Decidable (IsWord s) := inferInstanceAs (Decidable (_ = true))

theorem isWord_iff {s : List Char} : IsWord s ↔ ∀ c ∈ s, isPlain c = true := List.all_eq_true

theorem isWord_nil : IsWord [] := rfl

@[simp] theorem isWord_cons (c : Char) (s : List Char) :
    IsWord (c :: s) ↔ isPlain c = true ∧ IsWord s := by
  simp only [isWord_iff, List.forall_mem_cons]

@[simp] theorem isWord_append (s t : List Char) : IsWord (s ++ t) ↔ IsWord s ∧ IsWord t := by
  simp only [isWord_iff, List.forall_mem_append]

theorem isWord_replicate {c : Char} (hc : isPlain c = true) (n : Nat) : IsWord (List.replicate n c) := by
  rw [isWord_iff]
  intro d hd
  rw [List.eq_of_mem_replicate hd, hc]

theorem IsWord.take {s : List Char} (hs : IsWord s) (n : Nat) : IsWord (s.take n) :=
  isWord_iff.mpr fun c hc => isWord_iff.mp hs c (List.mem_of_mem_take hc)

theorem IsWord.drop {s : List Char} (hs : IsWord s) (n : Nat) : IsWord (s.drop n) :=
  isWord_iff.mpr fun c hc => isWord_iff.mp hs c (List.mem_of_mem_drop hc)

/-- Two words, each in front of a mark or of nothing. -/
theorem word_append_inj {v w s t : List Char} (hv : IsWord v) (hw : IsWord w)
    (hs : Stops isPlain s) (ht : Stops isPlain t) (h : v ++ s = w ++ t) : v = w ∧ s = t :=
  append_inj_of_stops (isWord_iff.mp hv) (isWord_iff.mp hw) hs ht h

/-! ### Names -/

/-- The characters of an identifier. -/
def isNameChar (c : Char) : Bool := c.isAlphanum || c == '_'

/-- An identifier is not empty and does not begin with a digit. -/
structure IsIdentifier (s : List Char) : Prop where
  chars : ∀ c ∈ s, isNameChar c = true
  first : ∃ c, s.head? = some c ∧ c.isDigit = false

theorem toNat_lt_of_isNameChar {c : Char} (h : isNameChar c = true) : c.toNat < 128 := by
  have hbelow (d : Char) (hd : d.toNat < 128) (hc : c.val ≤ d.val) : c.toNat < 128 :=
    Nat.lt_of_le_of_lt (UInt32.le_iff_toNat_le.mp hc) hd
  rcases Bool.or_eq_true_iff.mp h with h | h
  · rcases Bool.or_eq_true_iff.mp h with h | h
    · rcases Bool.or_eq_true_iff.mp h with h | h
      · exact hbelow 'Z' (by decide) (of_decide_eq_true h).2
      · exact hbelow 'z' (by decide) (of_decide_eq_true (Bool.and_eq_true_iff.mp h).2)
    · exact hbelow '9' (by decide) (of_decide_eq_true (Bool.and_eq_true_iff.mp h).2)
  · rw [eq_of_beq h]
    decide

/-- In upper case a character of an identifier is one still, and it is no mark. -/
theorem isNameChar_toUpper {c : Char} (h : isNameChar c = true) :
    isNameChar c.toUpper = true ∧ isPlain c.toUpper = true := by
  have hall : ∀ n < 128, isNameChar (Char.ofNat n) = true →
      isNameChar (Char.ofNat n).toUpper = true ∧ isPlain (Char.ofNat n).toUpper = true := by
    decide
  have hc := hall c.toNat (toNat_lt_of_isNameChar h)
  rw [Char.ofNat_toNat] at hc
  exact hc h

theorem upper_eq_map {s : List Char} (hs : ∀ c ∈ s, isNameChar c = true) :
    upper s = s.map Char.toUpper := by
  induction s with
  | nil => rfl
  | cons c s ih =>
    obtain ⟨hc, hs⟩ := List.forall_mem_cons.mp hs
    rw [upper, List.flatMap_cons, upperChar_of_ascii c (toNat_lt_of_isNameChar hc), List.map_cons,
      ← ih hs]
    rfl

theorem IsIdentifier.of_mem_upper {s : List Char} (hs : IsIdentifier s) {c : Char}
    (hc : c ∈ upper s) : isNameChar c = true ∧ isPlain c = true := by
  rw [upper_eq_map hs.chars] at hc
  obtain ⟨d, hd, rfl⟩ := List.mem_map.mp hc
  exact isNameChar_toUpper (hs.chars d hd)

theorem IsIdentifier.isWord_upper {s : List Char} (hs : IsIdentifier s) : IsWord (upper s) :=
  isWord_iff.mpr fun _ hc => (hs.of_mem_upper hc).2

theorem IsIdentifier.upper_ne_nil {s : List Char} (hs : IsIdentifier s) : upper s ≠ [] := by
  rw [upper_eq_map hs.chars]
  intro hnil
  obtain ⟨c, hc, _⟩ := hs.first
  rw [List.map_eq_nil_iff.mp hnil] at hc
  cases hc

end Text

/-! ### Numbers -/

namespace Decimal

open Text

theorem isPlain_of_isDigit {c : Char} (h : c.isDigit = true) : isPlain c = true := by
  have hmarks : ∀ m ∈ marks, (!m.isDigit) = true := List.all_eq_true.mp (by decide)
  rw [isPlain, Bool.not_eq_true', List.contains_eq_mem, decide_eq_false_iff_not]
  intro hc
  have hdigit := hmarks c hc
  rw [h] at hdigit
  cases hdigit

theorem isWord_digits (n : Nat) : IsWord (digits n) :=
  isWord_iff.mpr fun _ hc => isPlain_of_isDigit (isDigit_of_mem_digits hc)

theorem isWord_positional {ds : List Char} (hds : IsWord ds) (lead : Int) :
    IsWord (positional ds lead) := by
  have hzeros (n : Nat) : IsWord (List.replicate n '0') := isWord_replicate (by decide) n
  unfold positional
  split_ifs
  · simp only [isWord_append]
    exact ⟨⟨by decide, hzeros _⟩, hds⟩
  · simp only [isWord_append]
    refine ⟨⟨⟨hds.take _, hzeros _⟩, by decide⟩, ?_⟩
    split
    · decide
    · exact hds.drop _

theorem isWord_scientific {ds : List Char} (hds : IsWord ds) (lead : Int) :
    IsWord (scientific ds lead) := by
  have htail : IsWord (if ds.length ≤ 1 then [] else '.' :: ds.drop 1) := by
    split
    · decide
    · exact (isWord_cons _ _).mpr ⟨by decide, hds.drop 1⟩
  have hsign : IsWord (if lead < 0 then ['-'] else []) := by
    split <;> decide
  simp only [scientific, isWord_append]
  exact ⟨⟨⟨⟨hds.take 1, htail⟩, by decide⟩, hsign⟩, isWord_digits _⟩

theorem isWord_magnitudeText (layout : Layout) (m : Nat) (q : Int) :
    IsWord (magnitudeText layout m q) := by
  unfold magnitudeText
  split_ifs
  · decide
  · dsimp only
    split_ifs
    · exact isWord_positional (isWord_digits _) _
    · exact isWord_scientific (isWord_digits _) _

theorem isWord_text (layout : Layout) (x : Binary64) : IsWord (text layout x) := by
  have hsign : IsWord (if x.isNegative then ['-'] else []) := by
    split <;> decide
  unfold text
  split
  · decide
  · refine (isWord_append _ _).mpr ⟨hsign, ?_⟩
    split
    · decide
    · exact isWord_magnitudeText _ _ _

end Decimal

end PlanReuse
