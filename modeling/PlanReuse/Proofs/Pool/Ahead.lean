import PlanReuse.Proofs.Pool.Cell
import PlanReuse.Proofs.Pool.Counting

/-!
# Pools ahead of each other

A pool may have given out more places and counted more than another, and be like it otherwise. The two
then answer every operation alike, and stay as far apart as they are.
-/

namespace PlanReuse

variable {α : Type}

theorem Budgets.eq_of_get {b c : Budgets} (h : ∀ k, b.get k = c.get k) : b = c := by
  obtain ⟨_, _, _⟩ := b
  obtain ⟨_, _, _⟩ := c
  rw [mk.injEq]
  exact ⟨h .perfect, h .baseline, h .overlaps⟩

/-- An address at which an operation matters. -/
def Scope.address : Scope → Address
  | partition a => a
  | budget c => ⟨c, 0⟩
  | everything => ⟨.perfect, 0⟩

theorem Scope.covers_address (s : Scope) : s.covers s.address = true := by
  cases s with
  | partition a => exact decide_eq_true rfl
  | budget c => exact decide_eq_true rfl
  | everything => rfl

theorem monotone_shift (n : Nat) : Monotone (· + n) := fun _ _ h => Nat.add_le_add_right h n

namespace Pool

/-- A pool ahead of another by a number of places and a tally. -/
structure Ahead (places : Nat) (tally : Tally) (p q : Pool α) : Prop where
  sound : p.Sound
  behind : q.Sound
  cell : ∀ a, p.cell a = (q.cell a).renumber (· + places)
  nextSeq : p.nextSeq = q.nextSeq + places
  tally : p.tally = tally + q.tally

namespace Ahead

variable {places : Nat} {tally : Tally} {p q : Pool α}

theorem partition (h : Ahead places tally p q) (a : Address) :
    p.partition a = (q.partition a).renumber (· + places) :=
  congrArg Cell.partition (h.cell a)

theorem budgets (h : Ahead places tally p q) : p.budgets = q.budgets :=
  Budgets.eq_of_get fun k => congrArg Cell.budget (h.cell ⟨k, 0⟩)

theorem contains (h : Ahead places tally p q) (key : ArtifactKey) (a : Address) :
    p.contains key a = q.contains key a := by
  rw [Pool.contains, h.partition, Partition.holds_renumber]
  rfl

/-! ### What is counted -/

theorem evictedBy (h : Ahead places tally p q) (c : Change α) :
    p.evictedBy c = (q.evictedBy c).map (Entry.renumber (· + places)) := by
  have hroom (a : Address) (needed limit : Nat) := congrArg Eviction.evicted
    (Partition.makeRoom_renumber (monotone_shift places) (h.behind.partition a) needed limit)
  -- Only the partition and the budget at the address decide what is evicted.
  cases c with
  | put key a item size =>
    rw [Pool.evictedBy, Pool.evictedBy, evicted_put, evicted_put, h.budgets, h.contains, h.partition,
      hroom]
    split <;> rfl
  | evictToFit a needed =>
    simp only [Pool.evictedBy, evictToFit, h.budgets, h.partition]
    split
    · rfl
    · exact hroom a needed _
  | _ => rfl

theorem noted (h : Ahead places tally p q) (c : Change α) (hanswer : p.answer c = q.answer c) :
    p.noted c = q.noted c := by
  cases c with
  | put key a item size =>
    have houtcome : (p.put key a item size).1.outcome = (q.put key a item size).1.outcome :=
      Answer.put.inj hanswer
    simp only [Pool.noted, isFresh_put, houtcome, h.contains]
  | get key a => simp only [Pool.noted, h.contains]
  | _ => rfl

/-! ### One change -/

theorem answer (h : Ahead places tally p q) (c : Change α) : p.answer c = q.answer c := by
  have hcovers := c.scope.covers_address
  have hafter := h.sound.change_cell hcovers
  rw [h.cell, h.nextSeq, Cell.change_renumber (monotone_shift places) (h.behind.partition _),
    h.behind.change_cell hcovers] at hafter
  exact (congrArg Prod.fst hafter).symm

theorem cell_change (h : Ahead places tally p q) (c : Change α) (a : Address) :
    (p.change c).cell a = ((q.change c).cell a).renumber (· + places) := by
  cases hcovers : c.scope.covers a with
  | true =>
    have hafter := h.sound.change_cell hcovers
    rw [h.cell, h.nextSeq, Cell.change_renumber (monotone_shift places) (h.behind.partition _),
      h.behind.change_cell hcovers] at hafter
    exact (congrArg Prod.snd hafter).symm
  | false => rw [p.cell_change_of_not_covers hcovers, q.cell_change_of_not_covers hcovers, h.cell]

theorem change (h : Ahead places tally p q) (c : Change α) :
    Ahead places tally (p.change c) (q.change c) := by
  have hnoted := h.noted c (h.answer c)
  constructor
  · exact h.sound.change c
  · exact h.behind.change c
  · exact h.cell_change c
  · rw [nextSeq_change, nextSeq_change, hnoted, h.nextSeq, Nat.add_right_comm]
  · rw [tally_change, tally_change, counted, counted, hnoted, h.evictedBy, List.map_map, h.tally,
      add_assoc]
    rfl

/-! ### One operation -/

theorem operate [Artifact α] (h : Ahead places tally p q) (o : Operation α) :
    (p.operate o).1 = (q.operate o).1 ∧ Ahead places tally (p.operate o).2 (q.operate o).2 := by
  cases o with
  | change x => exact ⟨h.answer x, h.change x⟩
  | putItem item =>
    cases hx : itemChange? item with
    | some x =>
      rw [p.putItem_of_itemChange? hx, q.putItem_of_itemChange? hx]
      exact ⟨h.answer x, h.change x⟩
    | none =>
      have hkey : Artifact.key? item = none := by simpa [itemChange?] using hx
      rw [Pool.operate, Pool.operate, putItem, putItem, hkey]
      exact ⟨rfl, h⟩
  | ask a x =>
    refine ⟨?_, h⟩
    rw [Pool.operate, Pool.operate, ← ask_cell, ← ask_cell, h.cell, Cell.ask_renumber]

/-! ### Emptied and new -/

/-- An emptied pool is ahead of a new one with its budgets by all places and counts that it has given. -/
theorem clearAll (hp : p.Sound) (name : String) :
    Ahead p.nextSeq p.tally p.clearAll (new name p.budgets) := by
  constructor
  · exact hp.change .clearAll
  · exact sound_new name p.budgets
  · intro a
    rw [Pool.cell, Pool.partition_clearAll]
    rfl
  · exact (Nat.zero_add _).symm
  · rfl

end Ahead

end Pool

end PlanReuse
