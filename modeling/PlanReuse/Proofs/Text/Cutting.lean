import PlanReuse.Text.Cut

/-!
# Pieces of a text

The pieces that a text is cut into are the only ones that have the character nowhere and give the text
when the character is put between them.
-/

namespace PlanReuse

variable {s : List Char}

theorem cutAt_eq_splitOn (c : Char) (s : List Char) : cutAt c s = s.splitOn c := by
  induction s with
  | nil => rfl
  | cons d s ih =>
    rw [cutAt, ih, List.splitOn_cons_eq_if_modifyHead]
    simp only [beq_iff_eq]
    split
    · rfl
    · cases hpieces : s.splitOn c with
      | nil => exact absurd hpieces (List.splitOn_ne_nil c s)
      | cons p ps => rfl

theorem notMem_of_mem_cutAt {c : Char} {p : List Char} (h : p ∈ cutAt c s) : c ∉ p := by
  induction s generalizing p with
  | nil =>
    cases List.mem_singleton.mp h
    exact List.not_mem_nil
  | cons d s ih =>
    rw [cutAt] at h
    split at h
    · rcases List.mem_cons.mp h with rfl | h
      · exact List.not_mem_nil
      · exact ih h
    · next hd =>
      split at h
      · next q qs hpieces =>
        rcases List.mem_cons.mp h with rfl | h
        · rw [List.mem_cons, not_or]
          exact ⟨fun hc => hd hc.symm, ih (hpieces ▸ List.mem_cons_self)⟩
        · exact ih (hpieces ▸ List.mem_cons_of_mem q h)
      · cases List.mem_singleton.mp h
        rw [List.mem_singleton]
        exact fun hc => hd hc.symm

/-- A cut text is its pieces with the character between them, none of which has it. -/
theorem cutAt_eq_iff {c : Char} {ps : List (List Char)} :
    cutAt c s = ps ↔ ps ≠ [] ∧ (∀ p ∈ ps, c ∉ p) ∧ [c].intercalate ps = s := by
  constructor
  · rintro rfl
    refine ⟨?_, fun p => notMem_of_mem_cutAt, ?_⟩
    · rw [cutAt_eq_splitOn]
      exact List.splitOn_ne_nil c s
    · rw [cutAt_eq_splitOn]
      exact List.intercalate_splitOn c
  · rintro ⟨hne, hfree, rfl⟩
    rw [cutAt_eq_splitOn]
    exact List.splitOn_intercalate c hfree hne

theorem cutAt_eq_one_iff {c : Char} {a : List Char} : cutAt c s = [a] ↔ c ∉ a ∧ s = a := by
  rw [cutAt_eq_iff, @eq_comm _ s]
  simp [List.intercalate]

theorem cutAt_eq_two_iff {c : Char} {a b : List Char} :
    cutAt c s = [a, b] ↔ c ∉ a ∧ c ∉ b ∧ s = a ++ c :: b := by
  rw [cutAt_eq_iff, @eq_comm _ s]
  simp [List.intercalate, and_assoc]

end PlanReuse
