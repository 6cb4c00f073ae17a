import Mathlib.Data.List.Nodup

/-!
# Looking up by a key

Where no key occurs twice a look-up finds whatever is there.
-/

namespace PlanReuse

variable {κ β : Type}

theorem find?_eq_some_iff_of_nodup [DecidableEq κ] {key : β → κ} {l : List β}
    (hl : (l.map key).Nodup) {k : κ} {b : β} :
    l.find? (fun c => key c = k) = some b ↔ b ∈ l ∧ key b = k := by
  constructor
  · intro h
    exact ⟨List.mem_of_find?_eq_some h, by simpa using List.find?_some h⟩
  · rintro ⟨hb, rfl⟩
    cases hfound : l.find? fun c => key c = key b with
    | none =>
      have hne := List.find?_eq_none.mp hfound b hb
      simp at hne
    | some c =>
      have hkey : key c = key b := by simpa using List.find?_some hfound
      rw [List.inj_on_of_nodup_map hl (List.mem_of_find?_eq_some hfound) hb hkey]

theorem mem_of_lookup_eq_some [BEq κ] [LawfulBEq κ] {l : List (κ × β)} {k : κ} {b : β}
    (h : l.lookup k = some b) : (k, b) ∈ l := by
  obtain ⟨front, back, rfl, _⟩ := List.lookup_eq_some_iff.mp h
  exact List.mem_append_right front List.mem_cons_self

theorem lookup_eq_some_iff_of_nodup [BEq κ] [LawfulBEq κ] {l : List (κ × β)}
    (hl : (l.map Prod.fst).Nodup) {k : κ} {b : β} : l.lookup k = some b ↔ (k, b) ∈ l := by
  constructor
  · exact mem_of_lookup_eq_some
  · intro h
    cases hfound : l.lookup k with
    | none =>
      have hne := List.lookup_eq_none_iff.mp hfound (k, b) h
      simp at hne
    | some c =>
      have hsame := List.inj_on_of_nodup_map hl (mem_of_lookup_eq_some hfound) h rfl
      rw [(Prod.mk.inj hsame).2]

/-! ### Replacing what is found -/

section

variable [BEq κ] [LawfulBEq κ] [DecidableEq κ]

theorem filter_ne_of_lookup_eq_none {l : List (κ × β)} {k : κ} (h : l.lookup k = none) :
    l.filter (·.1 ≠ k) = l := by
  rw [List.filter_eq_self]
  intro e he
  exact decide_eq_true (Ne.symm (bne_iff_ne.mp (List.lookup_eq_none_iff.mp h e he)))

/-- Dropping a key changes nothing under the others. -/
theorem lookup_filter_ne {k k' : κ} (h : k' ≠ k) (l : List (κ × β)) :
    (l.filter (·.1 ≠ k)).lookup k' = l.lookup k' := by
  induction l with
  | nil => rfl
  | cons e l ih =>
    by_cases he : e.1 = k
    · have hskip : (k' == e.1) = false := by
        rw [he, beq_eq_false_iff_ne.mpr h]
      rw [List.filter_cons_of_neg (by simp [he]), ih, List.lookup_cons, hskip]
    · rw [List.filter_cons_of_pos (by simp [he]), List.lookup_cons, List.lookup_cons, ih]

/-- What is found, and all that stands under other keys, is all there is. -/
theorem perm_of_lookup_eq_some {l : List (κ × β)} (hl : (l.map Prod.fst).Nodup) {k : κ} {b : β}
    (h : l.lookup k = some b) : ((k, b) :: l.filter (·.1 ≠ k)).Perm l := by
  obtain ⟨front, back, rfl, hfront⟩ := List.lookup_eq_some_iff.mp h
  have hback : ∀ e ∈ back, e.1 ≠ k := by
    intro e he hek
    rw [List.map_append, List.map_cons, List.nodup_append] at hl
    exact (List.nodup_cons.mp hl.2.1).1 (List.mem_map.mpr ⟨e, he, hek⟩)
  have hkeep : ∀ e ∈ front, e.1 ≠ k := fun e he => Ne.symm (bne_iff_ne.mp (hfront e he))
  have hfilter : (front ++ (k, b) :: back).filter (·.1 ≠ k) = front ++ back := by
    rw [List.filter_append, List.filter_cons_of_neg (by simp),
      List.filter_eq_self.mpr (by simpa using hkeep), List.filter_eq_self.mpr (by simpa using hback)]
  rw [hfilter]
  exact List.perm_middle.symm

end

end PlanReuse
