import PlanReuse.JoinTable.Basic
import PlanReuse.Proofs.Pool.Cell
import PlanReuse.Proofs.Pool.Ranking

/-!
# Evictions of a pool

An artifact that its budget admits is always taken. For a new key the shortest beginning of the order of
eviction leaves that makes enough room; nothing else changes but for the new entry, which is the latest.
Room asked for without an artifact is made in the same way.
-/

namespace PlanReuse.Pool

variable {α : Type}

/-! ### Putting in -/

section Put

variable {p : Pool α} {key : ArtifactKey} {a : Address} {item : α} {size : Nat}

theorem put_of_rejection? {why : Rejection}
    (h : (p.budgets.get a.artifactClass).rejection? size = some why) :
    p.put key a item size = (⟨.rejected why, [], false⟩, { p with tally := p.tally.reject }) := by
  simp only [put, h]

theorem exists_put_of_not_admits (key : ArtifactKey) (item : α)
    (h : (p.budgets.get a.artifactClass).admits size = false) :
    ∃ why, p.put key a item size =
      (⟨.rejected why, [], false⟩, { p with tally := p.tally.reject }) := by
  cases hwhy : (p.budgets.get a.artifactClass).rejection? size with
  | some why => exact ⟨why, put_of_rejection? hwhy⟩
  | none =>
    rw [(Budget.rejection?_eq_none_iff _ size).mp hwhy] at h
    cases h

theorem put_of_contains (h : (p.budgets.get a.artifactClass).admits size = true)
    (hkey : p.contains key a = true) : p.put key a item size = (⟨.accepted, [], true⟩, p) := by
  have hholds : (p.partition a).holds key = true := hkey
  rcases p.put_cases key a item size with ⟨why, hwhy, _⟩ | ⟨_, _, hput⟩ | ⟨_, hnew, _⟩ | ⟨_, hnew, _⟩
  · rw [(Budget.rejection?_eq_none_iff _ size).mpr h] at hwhy
    cases hwhy
  · exact hput
  · rw [hholds] at hnew
    cases hnew
  · rw [hholds] at hnew
    cases hnew

/-- For a new key room is made, and the new entry stands behind all that stay. -/
theorem Sound.put_of_new (hp : p.Sound) (item : α)
    (htotal : (p.budgets.get a.artifactClass).total < maxWord)
    (h : (p.budgets.get a.artifactClass).admits size = true) (hkey : p.contains key a = false) :
    let room := (p.partition a).makeRoom size (p.budgets.get a.artifactClass).total
    (p.put key a item size).1 = ⟨.accepted, room.evicted, false⟩ ∧
      (p.put key a item size).2.partition a = room.rest.push (p.freshEntry key a item size) := by
  intro room
  have hholds : (p.partition a).holds key = false := hkey
  obtain ⟨_, hsize⟩ : size ≤ (p.budgets.get a.artifactClass).item ∧
      size ≤ (p.budgets.get a.artifactClass).total := by
    simpa [Budget.admits] using h
  have hroom := ((hp.partition a).makeRoom_evicts htotal hsize).1
  rcases p.put_cases key a item size with ⟨why, hwhy, _⟩ | ⟨_, hold, _⟩ | ⟨_, _, _, hput⟩ |
    ⟨_, _, hmade, _⟩
  · rw [(Budget.rejection?_eq_none_iff _ size).mpr h] at hwhy
    cases hwhy
  · rw [hholds] at hold
    cases hold
  · rw [hput]
    exact ⟨rfl, (partition_setPartition ..).trans (if_pos rfl)⟩
  · rw [hroom] at hmade
    cases hmade

theorem Sound.put_of_admits (hp : p.Sound)
    (htotal : (p.budgets.get a.artifactClass).total < maxWord)
    (h : (p.budgets.get a.artifactClass).admits size = true) :
    (p.put key a item size).1.outcome = .accepted := by
  cases hkey : p.contains key a with
  | true => rw [put_of_contains h hkey]
  | false => rw [(hp.put_of_new item htotal h hkey).1]

theorem Sound.isAccepted_put (hp : p.Sound)
    (htotal : (p.budgets.get a.artifactClass).total < maxWord) :
    (p.put key a item size).1.outcome.isAccepted = (p.budgets.get a.artifactClass).admits size := by
  cases hadmits : (p.budgets.get a.artifactClass).admits size with
  | true =>
    rw [hp.put_of_admits htotal hadmits]
    rfl
  | false =>
    obtain ⟨why, hput⟩ := exists_put_of_not_admits key item hadmits
    rw [hput]
    rfl

/-- Whether an artifact is taken depends on the budget alone, and the limit for one artifact is looked at
first. -/
theorem Sound.outcome_put (hp : p.Sound) (htotal : (p.budgets.get a.artifactClass).total < maxWord) :
    (p.put key a item size).1.outcome =
      if (p.budgets.get a.artifactClass).item < size then
        .rejected (.overItemLimit size (p.budgets.get a.artifactClass).item)
      else if (p.budgets.get a.artifactClass).total < size then
        .rejected (.overTotalLimit size (p.budgets.get a.artifactClass).total)
      else .accepted := by
  by_cases hitem : (p.budgets.get a.artifactClass).item < size
  · rw [if_pos hitem, put_of_rejection? (by rw [Budget.rejection?, if_pos hitem])]
  · rw [if_neg hitem]
    by_cases hsize : (p.budgets.get a.artifactClass).total < size
    · rw [if_pos hsize, put_of_rejection? (by rw [Budget.rejection?, if_neg hitem, if_pos hsize])]
    · have hadmits : (p.budgets.get a.artifactClass).admits size = true := by
        simpa [Budget.admits] using ⟨Nat.not_lt.mp hitem, Nat.not_lt.mp hsize⟩
      rw [if_neg hsize, hp.put_of_admits htotal hadmits]

/-- An artifact that is turned away, or whose key is in use, changes nothing that is kept. -/
theorem put_unchanged (h : (p.budgets.get a.artifactClass).admits size = false ∨
    p.contains key a = true) :
    (p.put key a item size).1.evicted = [] ∧ ∃ tally, (p.put key a item size).2 = { p with tally } := by
  cases hadmits : (p.budgets.get a.artifactClass).admits size with
  | false =>
    obtain ⟨why, hput⟩ := exists_put_of_not_admits key item hadmits
    rw [hput]
    exact ⟨rfl, _, rfl⟩
  | true =>
    rw [hadmits] at h
    rw [put_of_contains hadmits (h.resolve_left Bool.noConfusion)]
    exact ⟨rfl, _, rfl⟩

end Put

/-! ### Asking for room -/

theorem evictToFit_of_lt {p : Pool α} {a : Address} {needed : Nat}
    (h : (p.budgets.get a.artifactClass).total < needed) :
    p.evictToFit a needed = ((false, []), p) := by
  rw [evictToFit]
  exact if_pos h

theorem Sound.evictToFit_of_le {p : Pool α} (hp : p.Sound) {a : Address} {needed : Nat}
    (htotal : (p.budgets.get a.artifactClass).total < maxWord)
    (h : needed ≤ (p.budgets.get a.artifactClass).total) :
    (p.evictToFit a needed).1.1 = true ∧
      (p.partition a).Evicts needed (p.budgets.get a.artifactClass).total (p.evictToFit a needed).1.2
        ((p.evictToFit a needed).2.partition a) := by
  obtain ⟨hmade, hevicts⟩ := (hp.partition a).makeRoom_evicts htotal h
  rw [evictToFit]
  simp only [if_neg (Nat.not_lt.mpr h), partition_setPartition, if_pos]
  exact ⟨hmade, hevicts⟩

/-! ### Places in the order of insertions -/

theorem nextSeq_le_change (p : Pool α) (c : Change α) : p.nextSeq ≤ (p.change c).nextSeq := by
  rcases p.change_cases c with ⟨_, hshrinks⟩ | ⟨key, a, item, size, rfl, _, hfresh⟩
  · exact Nat.le_of_eq hshrinks.nextSeq.symm
  · have hnext := (put_of_isFresh hfresh).2.1.nextSeq
    exact Nat.le_trans (Nat.le_succ _) (Nat.le_of_eq hnext.symm)

theorem nextSeq_le_changeAll (p : Pool α) (cs : List (Change α)) :
    p.nextSeq ≤ (p.changeAll cs).nextSeq := by
  induction cs generalizing p with
  | nil => exact Nat.le_refl _
  | cons c cs ih => exact Nat.le_trans (p.nextSeq_le_change c) (ih (p.change c))

/-- The next place is behind those of all insertions made. -/
theorem seq_lt_of_mem_insertions {p : Pool α} {cs : List (Change α)} {i : Insertion α}
    (h : i ∈ p.insertions cs) : i.entry.usage.seq < (p.changeAll cs).nextSeq := by
  induction cs generalizing p with
  | nil => cases h
  | cons c cs ih =>
    rw [insertions, List.mem_append] at h
    rcases h with h | h
    · exact ih h
    · -- The insertion of this change takes the next place, and the later ones are behind it.
      refine Nat.lt_of_lt_of_le ?_ ((p.change c).nextSeq_le_changeAll cs)
      rcases p.change_cases c with ⟨hnone, _⟩ | ⟨key, a, item, size, rfl, hsome, hfresh⟩
      · rw [hnone] at h
        cases h
      · rw [hsome] at h
        obtain rfl := List.mem_singleton.mp h
        rw [change, (put_of_isFresh hfresh).2.1.nextSeq]
        exact Nat.lt_succ_self _

/-! ### Runs -/

/-- In every pool that a run leads to, whether an artifact is taken depends on the budget of its class
alone; one that is turned away, and one whose key is in use, changes nothing that is kept. Any other
evicts just what it must of its partition, in the order of eviction, and is itself the latest of all,
used once. Room for more than the total is never made, and any other by evicting just what it takes. The
turns in which room is made come to an end, always the same one. -/
theorem eviction_exact [Artifact α] (name : String) (budgets : Budgets) (actions : List (Action α))
    (a : Address) :
    let p := (new name budgets).run actions
    let made := (new name budgets).insertions ((new name budgets).changes actions)
    let q := p.partition a
    let b := p.budgets.get a.artifactClass
    b.total < maxWord →
      (∀ key item size,
        let r := p.put key a item size
        r.1.outcome.isAccepted = b.admits size ∧
        (r.1.outcome =
          if b.item < size then .rejected (.overItemLimit size b.item)
          else if b.total < size then .rejected (.overTotalLimit size b.total)
          else .accepted) ∧
        (b.admits size = false ∨ p.contains key a = true →
          r.1.evicted = [] ∧ ∃ tally, r.2 = { p with tally }) ∧
        (b.admits size = true → p.contains key a = false →
          ∃ rest e, q.Evicts size b.total r.1.evicted rest ∧ r.2.partition a = rest.push e ∧
            (∀ c, c ≠ a → r.2.partition c = p.partition c) ∧
            e.item = item ∧ e.usage.key = key ∧ e.usage.size = size ∧ e.usage.uses = 1 ∧
            ∀ i ∈ made, i.entry.usage.seq < e.usage.seq)) ∧
      (∀ needed,
        let r := p.evictToFit a needed
        (r.1.1 = false ↔ b.total < needed) ∧
        (b.total < needed → r = ((false, []), p)) ∧
        (needed ≤ b.total →
          q.Evicts needed b.total r.1.2 (r.2.partition a) ∧
            ∀ c, c ≠ a → r.2.partition c = p.partition c)) ∧
      (∀ needed es r,
        (Partition.Turns needed b.total q es r →
          ∀ fs s, Partition.Turn needed b.total r fs s → s.count + 1 = r.count) ∧
        (Partition.Turns needed b.total q es r ∧ r.Ended needed b.total ↔
          es = (q.makeRoom needed b.total).evicted ∧ r = (q.makeRoom needed b.total).rest)) := by
  intro p made q b htotal
  have hp : p.Sound := sound_run name budgets actions
  have hmade : ∀ i ∈ made, i.entry.usage.seq < p.nextSeq := by
    intro i hi
    have h := seq_lt_of_mem_insertions hi
    rwa [← run_eq_changeAll] at h
  have hq : q.Sound := hp.partition a
  refine ⟨?_, ?_, ?_⟩
  · intro key item size r
    refine ⟨hp.isAccepted_put htotal, hp.outcome_put htotal, put_unchanged, ?_⟩
    intro hadmits hkey
    obtain ⟨hreport, hpartition⟩ := hp.put_of_new item htotal hadmits hkey
    obtain ⟨_, hsize⟩ : size ≤ b.item ∧ size ≤ b.total := by simpa [Budget.admits] using hadmits
    refine ⟨_, p.freshEntry key a item size, ?_, hpartition,
      fun c hc => p.partition_put_of_ne key hc item size, rfl, rfl, rfl, rfl, hmade⟩
    rw [hreport]
    exact (hq.makeRoom_evicts htotal hsize).2
  · intro needed r
    refine ⟨⟨?_, fun h => congrArg (·.1.1) (evictToFit_of_lt h)⟩, evictToFit_of_lt, fun h => ?_⟩
    · intro hrefused
      by_contra h
      exact Bool.false_ne_true (hrefused.symm.trans (hp.evictToFit_of_le htotal (Nat.not_lt.mp h)).1)
    · exact ⟨(hp.evictToFit_of_le htotal h).2, fun c hc => p.partition_evictToFit_of_ne hc needed⟩
  · intro needed es r
    exact ⟨fun hturns fs s hturn => (hq.turns hturns).count_turn hturn, hq.turns_iff⟩

/- Three artifacts are kept, of 40, 0 and 40 bytes, and the first has been looked up once. For one more of
50 bytes the empty one leaves too: it is used no more often than the third, and older. -/
theorem eviction_exact_past_empty_artifact :
    let table (key : UInt64) : JoinTable :=
      ⟨.perfect 0 0, .oneToOne, some ⟨key⟩, 0, 5, Array.replicate 5 0⟩
    let a : Address := ⟨.perfect, 0⟩
    let actions : List (Action JoinTable) :=
      [.change (.put ⟨1⟩ a (table 1) 40), .change (.put ⟨2⟩ a (table 2) 0),
        .reuseOrBuild ⟨3⟩ a (fun _ => 40) [.change (.get ⟨1⟩ a)] (.ok (table 3))]
    let p := (new "tables" (.uniform ⟨100, 60⟩)).run actions
    let r := p.put ⟨4⟩ a (table 4) 50
    let b := p.budgets.get a.artifactClass
    b.total < maxWord ∧
      (b = ⟨100, 60⟩ ∧ p.contains ⟨4⟩ a = false ∧
        r.1.evicted.map (·.usage.key.value) = [2, 3] ∧
        (p.evictToFit a 60).1.2.map (·.usage.key.value) = [2, 3]) ∧
      r.1.outcome.isAccepted = b.admits 50 ∧
      (∃ rest e, (p.partition a).Evicts 50 b.total r.1.evicted rest ∧ r.2.partition a = rest.push e ∧
        e.usage.uses = 1) ∧
      (p.partition a).Evicts 60 b.total (p.evictToFit a 60).1.2
        ((p.evictToFit a 60).2.partition a) := by
  intro table a actions p r b
  have hvalues : b = ⟨100, 60⟩ ∧ p.contains ⟨4⟩ a = false ∧
      r.1.evicted.map (·.usage.key.value) = [2, 3] ∧
      (p.evictToFit a 60).1.2.map (·.usage.key.value) = [2, 3] := by
    decide +kernel +revert
  have hbudget := hvalues.1
  have htotal : b.total < maxWord := by
    rw [hbudget]
    decide
  have hadmits : b.admits 50 = true := by
    rw [hbudget]
    rfl
  have hneeded : 60 ≤ b.total := by
    rw [hbudget]
    decide
  have hall := eviction_exact "tables" (.uniform ⟨100, 60⟩) actions a
  -- From here on the pool is any pool, or Lean would run the actions in every comparison of types.
  generalize hrun : (new "tables" (.uniform ⟨100, 60⟩)).run actions = q at hall
  have hp : p = q := hrun
  clear_value p
  subst hp
  obtain ⟨haccepted, _, _, hput⟩ := (hall htotal).1 ⟨4⟩ (table 4) 50
  obtain ⟨rest, e, hevicts, hpartition, _, _, _, _, huses, _⟩ := hput hadmits hvalues.2.1
  exact ⟨htotal, hvalues, haccepted, ⟨rest, e, hevicts, hpartition, huses⟩,
    (((hall htotal).2.1 60).2.2 hneeded).1⟩

end PlanReuse.Pool
