import PlanReuse.Proofs.Pool.Changes

/-!
# What a change counts

Each change adds to the tally what it has done: it turns an artifact away or takes it, finds one or
misses it, and evicts some. Tallies add up count by count.
-/

namespace PlanReuse

/-! ### Adding tallies -/

namespace Tally

instance : Zero Tally := ⟨zero⟩

instance : Add Tally where
  add t u :=
    { hits := t.hits + u.hits
      misses := t.misses + u.misses
      accepted := t.accepted + u.accepted
      rejected := t.rejected + u.rejected
      evictions := t.evictions + u.evictions
      evictedBytes := t.evictedBytes + u.evictedBytes
      perfectHits := t.perfectHits + u.perfectHits
      baselineHits := t.baselineHits + u.baselineHits
      overlapsHits := t.overlapsHits + u.overlapsHits }

theorem add_eq (t u : Tally) :
    t + u = ⟨t.hits + u.hits, t.misses + u.misses, t.accepted + u.accepted, t.rejected + u.rejected,
      t.evictions + u.evictions, t.evictedBytes + u.evictedBytes, t.perfectHits + u.perfectHits,
      t.baselineHits + u.baselineHits, t.overlapsHits + u.overlapsHits⟩ := rfl

instance : AddCommMonoid Tally where
  add_assoc t u v := by simp only [add_eq, Nat.add_assoc]
  zero_add t := by
    obtain ⟨_, _, _, _, _, _, _, _, _⟩ := t
    simp only [add_eq, OfNat.ofNat, Zero.zero, zero, Nat.zero_add]
  add_zero t := rfl
  add_comm t u := by simp only [add_eq, Nat.add_comm]
  nsmul := nsmulRec

theorem hit_eq_add (t : Tally) (c : ArtifactClass) : t.hit c = t + zero.hit c := by
  cases c <;> rfl

theorem accept_eq_add (t : Tally) : t.accept = t + zero.accept := rfl

theorem reject_eq_add (t : Tally) : t.reject = t + zero.reject := rfl

theorem evict_eq_add (t : Tally) (bytes : Nat) : t.evict bytes = t + zero.evict bytes := by
  simp only [evict, zero, add_eq, Nat.zero_add, Nat.add_zero]

/-- Artifacts of some sizes evicted. -/
def evicted (sizes : List Nat) : Tally :=
  { zero with evictions := sizes.length, evictedBytes := sizes.sum }

theorem evicted_cons (n : Nat) (ns : List Nat) : evicted (n :: ns) = zero.evict n + evicted ns := by
  simp only [evicted, evict, zero, add_eq, List.length_cons, List.sum_cons, Nat.zero_add,
    Nat.add_comm ns.length]

theorem foldl_evict (sizes : List Nat) (t : Tally) : sizes.foldl evict t = t + evicted sizes := by
  induction sizes generalizing t with
  | nil => rfl
  | cons n ns ih => rw [List.foldl_cons, ih, evict_eq_add, evicted_cons, add_assoc]

end Tally

namespace Pool

variable {α : Type}

/-! ### What comes and what leaves -/

/-- The entries that a change puts in. -/
def insertedBy (p : Pool α) (c : Change α) : List (Entry α) :=
  (p.insertion? c).toList.map Insertion.entry

/-- The entries that a change evicts. -/
def evictedBy (p : Pool α) : Change α → List (Entry α)
  | .put key a item size => (p.put key a item size).1.evicted
  | .evictToFit a needed => (p.evictToFit a needed).1.2
  | _ => []

/-- The entries of all partitions. -/
def entries (p : Pool α) : List (Entry α) := p.partitions.flatMap fun (_, q) => q.entries

/-- The entries that a change takes out because it is told to. -/
def takenOutBy (p : Pool α) : Change α → List (Entry α)
  | .remove key a => ((p.partition a).find? key).toList
  | .clear a => (p.partition a).entries
  | .clearAll => p.entries
  | _ => []

/-! ### What is counted -/

/-- What a change adds to the tally besides evictions. -/
def noted (p : Pool α) : Change α → Tally
  | .put key a item size =>
    let r := (p.put key a item size).1
    if r.isFresh then Tally.zero.accept
    else if r.outcome.isAccepted then 0
    else Tally.zero.reject
  | .get key a => if p.contains key a then Tally.zero.hit a.artifactClass else Tally.zero.miss
  | _ => 0

/-- Whether a change looks something up. -/
def Change.isLookUp : Change α → Bool
  | .get .. => true
  | _ => false

/-- An insertion, anything else but a look-up, or a look-up. -/
theorem noted_cases (p : Pool α) (c : Change α) :
    (c.isLookUp = false ∧ (p.insertedBy c).length = 1 ∧ p.noted c = Tally.zero.accept) ∨
    (c.isLookUp = false ∧ p.insertedBy c = [] ∧ (p.noted c = 0 ∨ p.noted c = Tally.zero.reject)) ∨
    (c.isLookUp = true ∧ p.insertedBy c = [] ∧
      (p.noted c = Tally.zero.miss ∨ ∃ k, p.noted c = Tally.zero.hit k)) := by
  cases c with
  | put key a item size =>
    simp only [insertedBy, insertion?, noted]
    split
    · exact Or.inl ⟨rfl, rfl, rfl⟩
    · right
      left
      split
      · exact ⟨rfl, rfl, Or.inl rfl⟩
      · exact ⟨rfl, rfl, Or.inr rfl⟩
  | get key a =>
    right
    right
    simp only [noted]
    split
    · exact ⟨rfl, rfl, Or.inr ⟨_, rfl⟩⟩
    · exact ⟨rfl, rfl, Or.inl rfl⟩
  | _ => exact Or.inr (Or.inl ⟨rfl, rfl, Or.inl rfl⟩)

theorem accepted_noted (p : Pool α) (c : Change α) :
    (p.noted c).accepted = (p.insertedBy c).length := by
  rcases p.noted_cases c with ⟨_, hone, hnoted⟩ | ⟨_, hnone, hnoted | hnoted⟩ |
    ⟨_, hnone, hnoted | ⟨k, hnoted⟩⟩
  · rw [hone, hnoted]
    rfl
  · rw [hnone, hnoted]
    rfl
  · rw [hnone, hnoted]
    rfl
  · rw [hnone, hnoted]
    rfl
  · rw [hnone, hnoted]
    cases k <;> rfl

/-- What a change adds to the tally. -/
def counted (p : Pool α) (c : Change α) : Tally :=
  p.noted c + .evicted ((p.evictedBy c).map fun e => e.usage.size)

theorem tally_noteEvicted (p : Pool α) (es : List (Entry α)) :
    (p.noteEvicted es).tally = p.tally + .evicted (es.map fun e => e.usage.size) := by
  rw [← Tally.foldl_evict, List.foldl_map]
  rfl

theorem tally_change (p : Pool α) (c : Change α) : (p.change c).tally = p.tally + p.counted c := by
  cases c with
  | put key a item size =>
    rw [change, counted, noted, evictedBy]
    rcases p.put_cases key a item size with ⟨why, _, hput⟩ | ⟨_, _, hput⟩ | ⟨_, _, _, hput⟩ |
      ⟨_, _, _, hput⟩
    · rw [hput]
      rfl
    · rw [hput]
      rfl
    · simp only [hput, tally_noteEvicted]
      rw [Tally.accept_eq_add, add_assoc]
      exact congrArg _ (add_comm _ _)
    · simp only [hput, tally_noteEvicted]
      rw [Tally.reject_eq_add, add_assoc]
      exact congrArg _ (add_comm _ _)
  | get key a =>
    show (p.get key a).2.tally =
      p.tally + ((if p.contains key a then Tally.zero.hit a.artifactClass else Tally.zero.miss) + 0)
    rw [add_zero, get, contains, Partition.holds]
    cases (p.partition a).find? key with
    | none => rfl
    | some e => exact Tally.hit_eq_add _ _
  | remove key a =>
    rw [change, remove]
    split <;> rfl
  | evictToFit a needed =>
    show (p.evictToFit a needed).2.tally =
      p.tally + (0 + .evicted ((p.evictToFit a needed).1.2.map fun e => e.usage.size))
    rw [zero_add, evictToFit]
    split
    · rfl
    · exact p.tally_noteEvicted _
  | setTotal c bytes => rfl
  | setItem c bytes => rfl
  | clear a => rfl
  | clearAll => rfl

/-- Every artifact that is taken gets the next place. -/
theorem nextSeq_change (p : Pool α) (c : Change α) :
    (p.change c).nextSeq = p.nextSeq + (p.noted c).accepted := by
  rw [accepted_noted]
  rcases p.change_cases c with ⟨hnone, hshrinks⟩ | ⟨key, a, item, size, rfl, hsome, hfresh⟩
  · rw [insertedBy, hnone, hshrinks.nextSeq]
    rfl
  · rw [insertedBy, hsome, change, (put_of_isFresh hfresh).2.1.nextSeq]
    rfl

/-! ### What an insertion evicts and counts -/

theorem isFresh_put (p : Pool α) (key : ArtifactKey) (a : Address) (item : α) (size : Nat) :
    (p.put key a item size).1.isFresh =
      ((p.put key a item size).1.outcome.isAccepted && !p.contains key a) := by
  rw [contains]
  rcases p.put_cases key a item size with ⟨_, _, hput⟩ | ⟨_, hholds, hput⟩ | ⟨_, hholds, _, hput⟩ |
    ⟨_, _, _, hput⟩
  · rw [hput]
    rfl
  · rw [hput, hholds]
    rfl
  · rw [hput, hholds]
    rfl
  · rw [hput]
    rfl

/-- Nothing is evicted for an artifact that the budget does not admit or whose key is in use. -/
theorem evicted_put (p : Pool α) (key : ArtifactKey) (a : Address) (item : α) (size : Nat) :
    (p.put key a item size).1.evicted =
      if (p.budgets.get a.artifactClass).admits size && !p.contains key a then
        ((p.partition a).makeRoom size (p.budgets.get a.artifactClass).total).evicted
      else [] := by
  rw [contains]
  rcases p.put_cases key a item size with ⟨_, hwhy, hput⟩ | ⟨_, hholds, hput⟩ |
    ⟨hadmits, hholds, _, hput⟩ | ⟨hadmits, hholds, _, hput⟩
  · have hadmits : ¬ (p.budgets.get a.artifactClass).admits size = true := by
      rw [← Budget.rejection?_eq_none_iff, hwhy]
      exact Option.some_ne_none _
    rw [hput, if_neg (fun h => hadmits (Bool.and_eq_true_iff.mp h).1)]
  · rw [hput, hholds, Bool.not_true, Bool.and_false, if_neg Bool.false_ne_true]
  · rw [hput, hadmits, hholds]
    rfl
  · rw [hput, hadmits, hholds]
    rfl

end Pool

end PlanReuse
