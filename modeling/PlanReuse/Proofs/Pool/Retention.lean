import PlanReuse.Proofs.Pool.History
import PlanReuse.Shared

/-!
# What the answer of a request says

A request that finds nothing gives out the artifact it has built and says whether the pool has taken it.
That is so exactly as long as the builder leaves no artifact under the key. If it leaves one, the pool
keeps that one, and the answer says no more than that the budget admits the other.
-/

namespace PlanReuse

theorem Shared.isSame_self {α : Type} (x : Shared α) : x.isSame x = true := beq_self_eq_true x.serial

theorem Partition.find?_push {α : Type} {q : Partition α} {e : Entry α}
    (h : q.holds e.usage.key = false) : (q.push e).find? e.usage.key = some e := by
  have hnone : q.entries.find? (·.usage.key = e.usage.key) = none := by
    simpa [holds, find?] using h
  rw [find?, entries_push, List.find?_append, hnone, Option.none_or,
    List.find?_cons_of_pos (by simp)]

namespace Pool

variable {α : Type}

/-- What the pool keeps under the key is this very artifact and not merely an equal one. -/
def Keeps (p : Pool (Shared α)) (key : ArtifactKey) (a : Address) (item : Shared α) : Prop :=
  ∃ e, (p.partition a).find? key = some e ∧ e.item.isSame item = true

/-- Nothing that the pool keeps is this artifact. -/
def Lacks (p : Pool (Shared α)) (item : Shared α) : Prop :=
  ∀ a, ∀ e ∈ (p.partition a).entries, e.item.isSame item = false

theorem lacks_of_partitions {p : Pool (Shared α)} {item : Shared α}
    (h : ∀ c ∈ p.partitions, ∀ e ∈ c.2.entries, e.item.isSame item = false) : p.Lacks item := by
  intro a e he
  rw [partition] at he
  cases hfound : p.partitions.lookup a with
  | none =>
    rw [hfound] at he
    cases he
  | some q =>
    rw [hfound] at he
    exact h (a, q) (mem_of_lookup_eq_some hfound) e he

theorem Lacks.not_keeps {p : Pool (Shared α)} {item : Shared α} (h : p.Lacks item)
    (key : ArtifactKey) (a : Address) : ¬ p.Keeps key a item := by
  rintro ⟨e, hfind, hsame⟩
  rw [h a e (Partition.mem_of_find? hfind).1] at hsame
  cases hsame

theorem Lacks.shrinks {p r : Pool (Shared α)} {item : Shared α} (h : p.Lacks item)
    (hr : Shrinks p r) : r.Lacks item := by
  intro a e he
  obtain ⟨f, hf, hfe⟩ := (hr.partition a).exists_alike he
  rw [← hfe.item]
  exact h a f hf

/-! ### Insertions -/

theorem isFresh_put_iff (p : Pool α) (key : ArtifactKey) (a : Address) (item : α) (size : Nat) :
    (p.put key a item size).1.isFresh = true ↔
      (p.put key a item size).1.outcome.isAccepted = true ∧ p.contains key a = false := by
  rw [contains]
  rcases p.put_cases key a item size with ⟨why, _, hput⟩ | ⟨_, hholds, hput⟩ |
    ⟨_, hholds, _, hput⟩ | ⟨_, _, _, hput⟩ <;>
    simp [PutReport.isFresh, PutOutcome.isAccepted, *]

/-- An artifact offered under a key in use is accepted exactly if its size is admitted. -/
theorem isAccepted_put_of_contains {p : Pool α} {key : ArtifactKey} {a : Address}
    (h : p.contains key a = true) (item : α) (size : Nat) :
    (p.put key a item size).1.outcome.isAccepted = true ↔
      (p.budgets.get a.artifactClass).admits size = true := by
  rw [contains] at h
  rcases p.put_cases key a item size with ⟨why, hwhy, hput⟩ | ⟨hadmits, _, hput⟩ |
    ⟨_, hholds, _, _⟩ | ⟨_, hholds, _, _⟩
  · rw [← Budget.rejection?_eq_none_iff, hwhy, hput]
    exact iff_of_false Bool.false_ne_true (Option.some_ne_none _)
  · rw [hput]
    exact iff_of_true rfl hadmits
  · rw [hholds] at h
    cases h
  · rw [hholds] at h
    cases h

/-- An artifact that a pool lacks is kept after it has been offered exactly if it was taken and its key
was not in use. -/
theorem keeps_put_iff {p : Pool (Shared α)} {item : Shared α} (h : p.Lacks item) (key : ArtifactKey)
    (a : Address) (size : Nat) :
    (p.put key a item size).2.Keeps key a item ↔ (p.put key a item size).1.isFresh = true := by
  cases hfresh : (p.put key a item size).1.isFresh with
  | true =>
    obtain ⟨q, _, hholds, hpush⟩ := (put_of_isFresh hfresh).2.1.here
    refine ⟨fun _ => rfl, fun _ => ⟨p.freshEntry key a item size, ?_, item.isSame_self⟩⟩
    rw [hpush]
    exact Partition.find?_push hholds
  | false =>
    have hafter := h.shrinks (shrinks_put hfresh)
    exact iff_of_false (hafter.not_keeps key a) Bool.false_ne_true

/-! ### Requests -/

/-- A request that finds nothing and whose builder succeeds. -/
theorem getOrBuild_of_built {ε : Type} {p r : Pool α} {key : ArtifactKey} {a : Address}
    (hmiss : p.contains key a = false) (size : α → Nat) (build : Pool α → Except ε α × Pool α)
    {item : α} (hbuild : build (p.get key a).2 = (.ok item, r)) :
    p.getOrBuild key a size build =
      (.ok (.built item (r.put key a item (size item)).1), (r.put key a item (size item)).2) := by
  rw [← isSome_get, Option.isSome_eq_false_iff, Option.isNone_iff_eq_none] at hmiss
  rcases hget : p.get key a with ⟨_ | handle, q⟩
  · rw [hget] at hbuild
    rw [getOrBuild, hget]
    simp only [hbuild]
  · rw [hget] at hmiss
    cases hmiss

/-- A request that finds nothing gives out what its builder, whatever that does to the pool, has made.
If the key is not in use when the builder ends, the answer says that the artifact is retained exactly if
the pool keeps it under the key. If the key is in use by then, the pool does not keep the artifact, and
the answer says that it is retained exactly if its size is admitted. -/
theorem retained?_eq_some_true_iff {ε : Type} {p r : Pool (Shared α)} {key : ArtifactKey}
    {a : Address} (hmiss : p.contains key a = false) (size : Shared α → Nat)
    (build : Pool (Shared α) → Except ε (Shared α) × Pool (Shared α)) {item : Shared α}
    (hbuild : build (p.get key a).2 = (.ok item, r)) (hnew : r.Lacks item) :
    ∃ report after, p.getOrBuild key a size build = (.ok (.built item report), after) ∧
      (r.contains key a = false →
        ((Recycled.built item report).retained? = some true ↔ after.Keeps key a item)) ∧
      (r.contains key a = true → ¬ after.Keeps key a item ∧
        ((Recycled.built item report).retained? = some true ↔
          (r.budgets.get a.artifactClass).admits (size item) = true)) := by
  refine ⟨_, _, getOrBuild_of_built hmiss size build hbuild, ?_, ?_⟩
  · intro hfree
    rw [keeps_put_iff hnew, isFresh_put_iff, Recycled.retained?, Option.some.injEq]
    exact ⟨fun h => ⟨h, hfree⟩, And.left⟩
  · intro huse
    rw [keeps_put_iff hnew, isFresh_put_iff, huse, Recycled.retained?, Option.some.injEq]
    exact ⟨fun h => Bool.noConfusion h.2, isAccepted_put_of_contains huse item _⟩

/- The builder puts another artifact in under the key, empties the pool and fills it anew under another
key. What it has built then finds the key free, and room by evicting. -/
theorem retained?_eq_some_true_iff_after_clear :
    let a : Address := ⟨.perfect, 0⟩
    let p : Pool (Shared String) := new "tables" (.uniform ⟨100, 100⟩)
    let build (q : Pool (Shared String)) : Except Unit (Shared String) × Pool (Shared String) :=
      (.ok ⟨2, "orders"⟩, (((q.put ⟨1⟩ a ⟨0, "orders"⟩ 40).2.clear a).put ⟨2⟩ a ⟨1, "orders"⟩ 70).2)
    let r := (build (p.get ⟨1⟩ a).2).2
    (p.contains ⟨1⟩ a = false ∧ build (p.get ⟨1⟩ a).2 = (.ok ⟨2, "orders"⟩, r) ∧
        r.Lacks ⟨2, "orders"⟩ ∧ r.contains ⟨1⟩ a = false) ∧
      ∃ report after,
        p.getOrBuild ⟨1⟩ a (fun _ => 50) build = (.ok (.built ⟨2, "orders"⟩ report), after) ∧
        ((Recycled.built (⟨2, "orders"⟩ : Shared String) report).retained? = some true ↔
          after.Keeps ⟨1⟩ a ⟨2, "orders"⟩) := by
  intro a p build r
  have hmiss : p.contains ⟨1⟩ a = false := by decide +kernel +revert
  have hfree : r.contains ⟨1⟩ a = false := by decide +kernel +revert
  have hnew : r.Lacks ⟨2, "orders"⟩ := lacks_of_partitions (by decide +kernel +revert)
  obtain ⟨report, after, hanswer, htrue, _⟩ :=
    retained?_eq_some_true_iff hmiss (fun _ => 50) build rfl hnew
  exact ⟨⟨hmiss, rfl, hnew, hfree⟩, report, after, hanswer, htrue hfree⟩

/- The builder puts another artifact in under the key and leaves it there. The pool keeps that one, and
the answer says that the built one is retained. -/
theorem retained_without_being_kept :
    let a : Address := ⟨.perfect, 0⟩
    let p : Pool (Shared String) := new "tables" (.uniform ⟨100, 100⟩)
    let build (q : Pool (Shared String)) : Except Unit (Shared String) × Pool (Shared String) :=
      (.ok ⟨1, "mine"⟩, (q.put ⟨1⟩ a ⟨0, "other"⟩ 20).2)
    ∃ report after, p.getOrBuild ⟨1⟩ a (fun _ => 10) build = (.ok (.built ⟨1, "mine"⟩ report), after) ∧
      (Recycled.built (⟨1, "mine"⟩ : Shared String) report).retained? = some true ∧
      ¬ after.Keeps ⟨1⟩ a ⟨1, "mine"⟩ := by
  intro a p build
  let r := (build (p.get ⟨1⟩ a).2).2
  have hmiss : p.contains ⟨1⟩ a = false := by decide +kernel +revert
  have hput : (r.put ⟨1⟩ a ⟨1, "mine"⟩ 10).1.outcome.isAccepted = true ∧
      (r.put ⟨1⟩ a ⟨1, "mine"⟩ 10).1.isFresh = false := by decide +kernel +revert
  have hnew : r.Lacks ⟨1, "mine"⟩ := lacks_of_partitions (by decide +kernel +revert)
  refine ⟨_, _, getOrBuild_of_built hmiss (fun _ => 10) build rfl, congrArg some hput.1, ?_⟩
  rw [keeps_put_iff hnew, hput.2]
  exact Bool.false_ne_true

end Pool

end PlanReuse
