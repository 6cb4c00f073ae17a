import Mathlib.Data.List.Perm.Basic
import PlanReuse.Costing.Sample

/-!
# The order of samples

Samples are ordered by size and then by time, and two samples of one place are one sample. So given
samples have one ascending order.
-/

namespace PlanReuse

namespace Sample

/-- Smaller sizes come first; of one size, times that are earlier in the total order. -/
def NotAfter (s t : Sample) : Prop :=
  s.size < t.size ∨ s.size = t.size ∧ s.time.rank ≤ t.time.rank

instance (s t : Sample) : Decidable (s.NotAfter t) :=
  inferInstanceAs (Decidable (_ < _ ∨ _ = _ ∧ _ ≤ _))

theorem le_iff_notAfter (s t : Sample) : s.le t = true ↔ s.NotAfter t := by
  simp only [le, order, NotAfter, Ordering.isLE_then_iff_or, Nat.compare_eq_lt, Nat.compare_eq_eq,
    Nat.isLE_compare]

theorem NotAfter.antisymm {s t : Sample} (h : s.NotAfter t) (h' : t.NotAfter s) : s = t := by
  have hsize : s.size = t.size := by
    unfold NotAfter at h h'
    omega
  have hrank : s.time.rank = t.time.rank := by
    unfold NotAfter at h h'
    omega
  apply (order_eq_eq_iff s t).mp
  rw [order, Ordering.then_eq_eq, Nat.compare_eq_eq, Nat.compare_eq_eq]
  exact ⟨hsize, hrank⟩

theorem sort_perm (ss : List Sample) : (sort ss).Perm ss := List.mergeSort_perm ss le

theorem sort_pairwise (ss : List Sample) : (sort ss).Pairwise NotAfter := by
  have htrans : ∀ s t u : Sample, s.le t = true → t.le u = true → s.le u = true := by
    intro s t u hst htu
    rw [le_iff_notAfter] at *
    unfold NotAfter at *
    omega
  have htotal : ∀ s t : Sample, (s.le t || t.le s) = true := by
    intro s t
    rw [Bool.or_eq_true, le_iff_notAfter, le_iff_notAfter]
    unfold NotAfter
    omega
  have hsorted := List.pairwise_mergeSort htrans htotal ss
  exact hsorted.imp fun {s t} h => (le_iff_notAfter s t).mp h

/-- There is one ascending order of given samples. -/
theorem eq_sort {ss ts : List Sample} (hperm : ts.Perm ss) (hsorted : ts.Pairwise NotAfter) :
    ts = sort ss :=
  List.Perm.eq_of_pairwise (fun _ _ _ _ => NotAfter.antisymm) hsorted (sort_pairwise ss)
    (hperm.trans (sort_perm ss).symm)

end Sample

end PlanReuse
