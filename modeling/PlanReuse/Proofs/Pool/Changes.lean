import PlanReuse.Pool.Basic
import PlanReuse.Proofs.Pool.Contents

/-!
# Changes of a pool

All that one change can do. A change that inserts nothing only takes entries away or counts a use; an
insertion first makes room in the same way, in its own partition, and adds one entry behind all others.
-/

namespace PlanReuse

/-- The key was not in use and the artifact was taken. -/
def PutReport.isFresh {α : Type} (r : PutReport α) : Bool := r.outcome.isAccepted && !r.duplicate

namespace Pool

variable {α : Type}

/-- A single change. -/
inductive Change (α : Type)
  | put (key : ArtifactKey) (a : Address) (item : α) (size : Nat)
  | get (key : ArtifactKey) (a : Address)
  | remove (key : ArtifactKey) (a : Address)
  | evictToFit (a : Address) (needed : Nat)
  | setTotal (c : ArtifactClass) (bytes : Nat)
  | setItem (c : ArtifactClass) (bytes : Nat)
  | clear (a : Address)
  | clearAll

def change (p : Pool α) : Change α → Pool α
  | .put key a item size => (p.put key a item size).2
  | .get key a => (p.get key a).2
  | .remove key a => (p.remove key a).2
  | .evictToFit a needed => (p.evictToFit a needed).2
  | .setTotal c bytes => p.setTotal c bytes
  | .setItem c bytes => p.setItem c bytes
  | .clear a => p.clear a
  | .clearAll => p.clearAll

def changeAll (p : Pool α) (changes : List (Change α)) : Pool α := changes.foldl change p

/-! ### Partitions by address -/

theorem partition_of_mem {p : Pool α} (hp : (p.partitions.map Prod.fst).Nodup) {a : Address}
    {q : Partition α} (h : (a, q) ∈ p.partitions) : p.partition a = q := by
  rw [partition, (lookup_eq_some_iff_of_nodup hp).mpr h]
  rfl

theorem nodup_setPartition {p : Pool α} (hp : (p.partitions.map Prod.fst).Nodup) (a : Address)
    (q : Partition α) : ((p.setPartition a q).partitions.map Prod.fst).Nodup := by
  rw [setPartition, List.map_cons, List.nodup_cons]
  constructor
  · intro hmem
    obtain ⟨c, hc, hca⟩ := List.mem_map.mp hmem
    have hne := (List.mem_filter.mp hc).2
    simp [hca] at hne
  · exact (List.filter_sublist.map Prod.fst).nodup hp

theorem partition_clearAll (p : Pool α) (a : Address) : p.clearAll.partition a = .empty := by
  rw [partition, clearAll]
  induction p.partitions with
  | nil => rfl
  | cons c cs ih =>
    rw [List.map_cons, List.lookup_cons]
    split
    · rfl
    · exact ih

/-! ### Changes that insert nothing -/

/-- A pool that another may become without an insertion. -/
structure Shrinks (p r : Pool α) : Prop where
  nextSeq : r.nextSeq = p.nextSeq
  addresses : (p.partitions.map Prod.fst).Nodup → (r.partitions.map Prod.fst).Nodup
  partition : ∀ a, (p.partition a).Shrinks (r.partition a)

theorem Shrinks.refl (p : Pool α) : Shrinks p p := ⟨rfl, id, fun a => .refl (p.partition a)⟩

theorem shrinks_setPartition {p : Pool α} {a : Address} {q : Partition α}
    (h : (p.partition a).Shrinks q) : Shrinks p (p.setPartition a q) := by
  refine ⟨rfl, fun hp => nodup_setPartition hp a q, ?_⟩
  intro b
  rw [partition_setPartition]
  split
  · next hb =>
    rw [hb]
    exact h
  · exact .refl (p.partition b)

theorem shrinks_get (p : Pool α) (key : ArtifactKey) (a : Address) : Shrinks p (p.get key a).2 := by
  rw [get]
  split
  · have h := shrinks_setPartition ((p.partition a).shrinks_touch key)
    exact ⟨h.nextSeq, h.addresses, h.partition⟩
  · exact ⟨rfl, id, fun b => .refl (p.partition b)⟩

theorem shrinks_remove (p : Pool α) (key : ArtifactKey) (a : Address) :
    Shrinks p (p.remove key a).2 := by
  rw [remove]
  split
  · next e q htaken =>
    have h := shrinks_setPartition (p := p.depart .removed [e]) (Partition.shrinks_take? htaken)
    exact ⟨h.nextSeq, h.addresses, h.partition⟩
  · exact .refl p

/-- Making room in one partition, with the evicted entries noted. -/
theorem shrinks_noteEvicted (p : Pool α) (a : Address) (needed limit : Nat) :
    let room := (p.partition a).makeRoom needed limit
    Shrinks p ((p.noteEvicted room.evicted).setPartition a room.rest) := by
  intro room
  have h := shrinks_setPartition (p := p.noteEvicted room.evicted)
    ((p.partition a).shrinks_makeRoom needed limit)
  exact ⟨h.nextSeq, h.addresses, h.partition⟩

theorem shrinks_evictToFit (p : Pool α) (a : Address) (needed : Nat) :
    Shrinks p (p.evictToFit a needed).2 := by
  rw [evictToFit]
  split
  · exact .refl p
  · exact p.shrinks_noteEvicted a needed _

theorem shrinks_clear (p : Pool α) (a : Address) : Shrinks p (p.clear a) := by
  have h := shrinks_setPartition (p := p.depart .cleared (p.partition a).entries)
    (p.partition a).shrinks_empty
  exact ⟨h.nextSeq, h.addresses, h.partition⟩

theorem shrinks_clearAll (p : Pool α) : Shrinks p p.clearAll := by
  refine ⟨rfl, ?_, ?_⟩
  · intro hp
    rw [clearAll, List.map_map]
    exact hp
  · intro a
    rw [partition_clearAll]
    exact (p.partition a).shrinks_empty

/-! ### Insertions -/

/-- The entry that an insertion adds. -/
def freshEntry (p : Pool α) (key : ArtifactKey) (a : Address) (item : α) (size : Nat) : Entry α :=
  ⟨item, .fresh key a.artifactClass a.device size p.nextSeq⟩

/-- All that putting in can do. -/
theorem put_cases (p : Pool α) (key : ArtifactKey) (a : Address) (item : α) (size : Nat) :
    let budget := p.budgets.get a.artifactClass
    let room := (p.partition a).makeRoom size budget.total
    let roomy := p.noteEvicted room.evicted
    (∃ why, budget.rejection? size = some why ∧
      p.put key a item size = (⟨.rejected why, [], false⟩, { p with tally := p.tally.reject })) ∨
    (budget.admits size = true ∧ (p.partition a).holds key = true ∧
      p.put key a item size = (⟨.accepted, [], true⟩, p)) ∨
    (budget.admits size = true ∧ (p.partition a).holds key = false ∧ room.made = true ∧
      p.put key a item size = (⟨.accepted, room.evicted, false⟩,
        { roomy.setPartition a (room.rest.push (p.freshEntry key a item size)) with
          nextSeq := p.nextSeq + 1, tally := roomy.tally.accept })) ∨
    (budget.admits size = true ∧ (p.partition a).holds key = false ∧ room.made = false ∧
      p.put key a item size =
        (⟨.rejected (.noSpace size (budget.total - room.rest.occupied)), room.evicted, false⟩,
          { roomy.setPartition a room.rest with tally := roomy.tally.reject })) := by
  intro budget room roomy
  cases hwhy : budget.rejection? size with
  | some why =>
    left
    exact ⟨why, rfl, by simp only [put, budget, hwhy] at hwhy ⊢⟩
  | none =>
    right
    have hadmits := (budget.rejection?_eq_none_iff size).mp hwhy
    cases hholds : (p.partition a).holds key with
    | true =>
      left
      exact ⟨hadmits, rfl, by simp only [put, budget, hwhy, hholds, if_true] at hwhy ⊢⟩
    | false =>
      right
      cases hmade : room.made with
      | true =>
        left
        exact ⟨hadmits, rfl, rfl, by
          simp only [put, budget, room, roomy, hwhy, hholds, hmade] at hwhy hmade ⊢
          rfl⟩
      | false =>
        right
        exact ⟨hadmits, rfl, rfl, by
          simp only [put, budget, room, roomy, hwhy, hholds, hmade] at hwhy hmade ⊢
          rfl⟩

/-- A pool that another becomes by an insertion at an address. -/
structure Inserts (p r : Pool α) (a : Address) (e : Entry α) : Prop where
  nextSeq : r.nextSeq = p.nextSeq + 1
  addresses : (p.partitions.map Prod.fst).Nodup → (r.partitions.map Prod.fst).Nodup
  here : ∃ q, (p.partition a).Shrinks q ∧ q.holds e.usage.key = false ∧ r.partition a = q.push e
  elsewhere : ∀ b, b ≠ a → r.partition b = p.partition b

theorem put_of_isFresh {p : Pool α} {key : ArtifactKey} {a : Address} {item : α} {size : Nat}
    (h : (p.put key a item size).1.isFresh = true) :
    (p.budgets.get a.artifactClass).admits size = true ∧
      Inserts p (p.put key a item size).2 a (p.freshEntry key a item size) ∧
      ((p.budgets.get a.artifactClass).total < maxWord →
        (p.put key a item size).2.occupied a ≤ (p.budgets.get a.artifactClass).total) := by
  rcases p.put_cases key a item size with ⟨why, _, hput⟩ | ⟨_, _, hput⟩ |
    ⟨hadmits, hholds, hmade, hput⟩ | ⟨_, _, _, hput⟩
  · rw [hput] at h
    cases h
  · rw [hput] at h
    cases h
  · rw [hput]
    have hshrinks := (p.partition a).shrinks_makeRoom size (p.budgets.get a.artifactClass).total
    refine ⟨hadmits, ?_, ?_⟩
    · refine ⟨rfl, fun hp => nodup_setPartition hp a _, ?_, ?_⟩
      · exact ⟨_, hshrinks, hshrinks.holds_eq_false hholds,
          (partition_setPartition ..).trans (if_pos rfl)⟩
      · intro b hb
        exact (partition_setPartition ..).trans (if_neg hb)
    · intro hlimit
      have hfits := Partition.occupied_add_le_of_makeRoom hlimit hmade
      show ((setPartition _ a _).partition a).occupied ≤ _
      rw [partition_setPartition, if_pos rfl]
      exact hfits
  · rw [hput] at h
    cases h

theorem shrinks_put {p : Pool α} {key : ArtifactKey} {a : Address} {item : α} {size : Nat}
    (h : (p.put key a item size).1.isFresh = false) : Shrinks p (p.put key a item size).2 := by
  rcases p.put_cases key a item size with ⟨why, _, hput⟩ | ⟨_, _, hput⟩ | ⟨_, _, _, hput⟩ |
    ⟨_, _, _, hput⟩
  · rw [hput]
    exact ⟨rfl, id, fun b => .refl (p.partition b)⟩
  · rw [hput]
    exact .refl p
  · rw [hput] at h
    cases h
  · rw [hput]
    have hroom := p.shrinks_noteEvicted a size (p.budgets.get a.artifactClass).total
    exact ⟨hroom.nextSeq, hroom.addresses, hroom.partition⟩

/-- An entry as it was put in, where, and the budget it was admitted under. -/
structure Insertion (α : Type) where
  address : Address
  entry : Entry α
  budget : Budget

/-- The insertion that a change makes, if it makes one. -/
def insertion? (p : Pool α) : Change α → Option (Insertion α)
  | .put key a item size =>
    if (p.put key a item size).1.isFresh then
      some ⟨a, p.freshEntry key a item size, p.budgets.get a.artifactClass⟩
    else none
  | _ => none

/-- The insertions that changes make, the latest first. -/
def insertions : Pool α → List (Change α) → List (Insertion α)
  | _, [] => []
  | p, c :: cs => insertions (p.change c) cs ++ (p.insertion? c).toList

/-- All that a change can do to what is kept. -/
theorem change_cases (p : Pool α) (c : Change α) :
    (p.insertion? c = none ∧ Shrinks p (p.change c)) ∨
    ∃ key a item size, c = .put key a item size ∧
      p.insertion? c = some ⟨a, p.freshEntry key a item size, p.budgets.get a.artifactClass⟩ ∧
      (p.put key a item size).1.isFresh = true := by
  cases c with
  | put key a item size =>
    cases hfresh : (p.put key a item size).1.isFresh with
    | false => exact Or.inl ⟨by simp [insertion?, hfresh], shrinks_put hfresh⟩
    | true => exact Or.inr ⟨key, a, item, size, rfl, by simp [insertion?, hfresh], hfresh⟩
  | get key a => exact Or.inl ⟨rfl, p.shrinks_get key a⟩
  | remove key a => exact Or.inl ⟨rfl, p.shrinks_remove key a⟩
  | evictToFit a needed => exact Or.inl ⟨rfl, p.shrinks_evictToFit a needed⟩
  | setTotal c bytes => exact Or.inl ⟨rfl, rfl, id, fun a => .refl (p.partition a)⟩
  | setItem c bytes => exact Or.inl ⟨rfl, rfl, id, fun a => .refl (p.partition a)⟩
  | clear a => exact Or.inl ⟨rfl, p.shrinks_clear a⟩
  | clearAll => exact Or.inl ⟨rfl, p.shrinks_clearAll⟩

/-- Budgets are changed by nothing but a change of a budget. -/
theorem budgets_change (p : Pool α) (c : Change α) :
    (p.change c).budgets = match c with
      | .setTotal c bytes => p.budgets.set c { p.budgets.get c with total := bytes }
      | .setItem c bytes => p.budgets.set c { p.budgets.get c with item := bytes }
      | _ => p.budgets := by
  cases c with
  | put key a item size =>
    rcases p.put_cases key a item size with ⟨why, _, hput⟩ | ⟨_, _, hput⟩ | ⟨_, _, _, hput⟩ |
      ⟨_, _, _, hput⟩ <;> rw [change, hput] <;> rfl
  | get key a =>
    rw [change, get]
    split <;> rfl
  | remove key a =>
    rw [change, remove]
    split <;> rfl
  | evictToFit a needed =>
    rw [change, evictToFit]
    split <;> rfl
  | setTotal c bytes => rfl
  | setItem c bytes => rfl
  | clear a => rfl
  | clearAll => rfl

/-! ### Well-formed pools -/

/-- Every partition is well-formed, stands at one address, and holds only records made for it; no place
in the order of insertions is given twice. -/
structure Sound (p : Pool α) : Prop where
  addresses : (p.partitions.map Prod.fst).Nodup
  partition : ∀ a, (p.partition a).Sound
  placed : ∀ a, ∀ e ∈ (p.partition a).entries,
    e.usage.artifactClass = a.artifactClass ∧ e.usage.device = a.device
  seq_lt : ∀ a, ∀ e ∈ (p.partition a).entries, e.usage.seq < p.nextSeq
  apart : ∀ a b, ∀ e ∈ (p.partition a).entries, ∀ f ∈ (p.partition b).entries,
    e.usage.seq = f.usage.seq → a = b

theorem sound_new (name : String) (budgets : Budgets) : (new name budgets : Pool α).Sound := by
  constructor
  · exact List.nodup_nil
  · exact fun _ => Partition.sound_empty
  · intro a e he
    cases he
  · intro a e he
    cases he
  · intro a b e he
    cases he

theorem Sound.shrinks {p r : Pool α} (hp : p.Sound) (h : Shrinks p r) : r.Sound := by
  constructor
  · exact h.addresses hp.addresses
  · exact fun a => (h.partition a).sound (hp.partition a)
  · intro a e he
    obtain ⟨f, hf, hfe⟩ := (h.partition a).exists_alike he
    have hplaced := hp.placed a f hf
    rw [hfe.artifactClass, hfe.device] at hplaced
    exact hplaced
  · intro a e he
    obtain ⟨f, hf, hfe⟩ := (h.partition a).exists_alike he
    rw [h.nextSeq, ← hfe.seq]
    exact hp.seq_lt a f hf
  · intro a b e he f hf hseq
    obtain ⟨e', he', hee⟩ := (h.partition a).exists_alike he
    obtain ⟨f', hf', hff⟩ := (h.partition b).exists_alike hf
    refine hp.apart a b e' he' f' hf' ?_
    rw [hee.seq, hff.seq, hseq]

/-- Right after an insertion a partition holds the new entry and nothing that it did not hold before. -/
theorem Inserts.mem_cases {p r : Pool α} {a b : Address} {e f : Entry α} (h : Inserts p r a e)
    (hf : f ∈ (r.partition b).entries) :
    (b = a ∧ f = e) ∨ ∃ g ∈ (p.partition b).entries, g.Alike f := by
  by_cases hb : b = a
  · subst hb
    obtain ⟨q, hshrinks, _, hpush⟩ := h.here
    rw [hpush, Partition.entries_push, List.mem_append, List.mem_singleton] at hf
    rcases hf with hf | hf
    · exact Or.inr (hshrinks.exists_alike hf)
    · exact Or.inl ⟨rfl, hf⟩
  · rw [h.elsewhere b hb] at hf
    exact Or.inr ⟨f, hf, .refl f⟩

theorem Sound.inserts {p r : Pool α} (hp : p.Sound) {a : Address} {e : Entry α}
    (h : Inserts p r a e) (hseq : e.usage.seq = p.nextSeq)
    (hplaced : e.usage.artifactClass = a.artifactClass ∧ e.usage.device = a.device) : r.Sound := by
  constructor
  · exact h.addresses hp.addresses
  · intro b
    by_cases hb : b = a
    · subst hb
      obtain ⟨q, hshrinks, hholds, hpush⟩ := h.here
      rw [hpush]
      refine (hshrinks.sound (hp.partition b)).push hholds ?_
      intro f hf
      obtain ⟨g, hg, hgf⟩ := hshrinks.exists_alike hf
      rw [hseq, ← hgf.seq]
      exact hp.seq_lt b g hg
    · rw [h.elsewhere b hb]
      exact hp.partition b
  · intro b f hf
    rcases h.mem_cases hf with ⟨rfl, rfl⟩ | ⟨g, hg, hgf⟩
    · exact hplaced
    · rw [← hgf.artifactClass, ← hgf.device]
      exact hp.placed b g hg
  · intro b f hf
    rw [h.nextSeq]
    rcases h.mem_cases hf with ⟨rfl, rfl⟩ | ⟨g, hg, hgf⟩
    · omega
    · have hlt := hp.seq_lt b g hg
      rw [hgf.seq] at hlt
      omega
  · intro b c f hf g hg hfg
    rcases h.mem_cases hf with ⟨rfl, rfl⟩ | ⟨f', hf', hff⟩
    · rcases h.mem_cases hg with ⟨rfl, rfl⟩ | ⟨g', hg', hgg⟩
      · rfl
      · -- what was there before has an earlier place than the new entry
        have hlt := hp.seq_lt c g' hg'
        rw [hgg.seq] at hlt
        omega
    · rcases h.mem_cases hg with ⟨rfl, rfl⟩ | ⟨g', hg', hgg⟩
      · have hlt := hp.seq_lt b f' hf'
        rw [hff.seq] at hlt
        omega
      · refine hp.apart b c f' hf' g' hg' ?_
        rw [hff.seq, hgg.seq, hfg]

theorem Sound.change {p : Pool α} (hp : p.Sound) (c : Change α) : (p.change c).Sound := by
  rcases p.change_cases c with ⟨_, hshrinks⟩ | ⟨key, a, item, size, rfl, _, hfresh⟩
  · exact hp.shrinks hshrinks
  · exact hp.inserts (put_of_isFresh hfresh).2.1 rfl ⟨rfl, rfl⟩

theorem Sound.changeAll {p : Pool α} (hp : p.Sound) (changes : List (Change α)) :
    (p.changeAll changes).Sound := by
  induction changes generalizing p with
  | nil => exact hp
  | cons c cs ih => exact ih (hp.change c)

/-- No two kept artifacts have the same place in the order of insertions. -/
theorem Sound.nodup_kept {p : Pool α} (hp : p.Sound) : (p.kept.map Usage.seq).Nodup := by
  rw [kept, List.map_flatMap, List.nodup_flatMap]
  constructor
  · rintro ⟨a, q⟩ haq
    have hq := hp.partition a
    rw [partition_of_mem hp.addresses haq] at hq
    rw [List.map_map]
    exact hq.order.imp Nat.ne_of_lt
  · refine (List.pairwise_map.mp hp.addresses).imp_of_mem ?_
    rintro ⟨a, q⟩ ⟨b, r⟩ haq hbr hab n hn hm
    obtain ⟨_, hu, rfl⟩ := List.mem_map.mp hn
    obtain ⟨_, hv, huv⟩ := List.mem_map.mp hm
    obtain ⟨e, he, rfl⟩ := List.mem_map.mp hu
    obtain ⟨f, hf, rfl⟩ := List.mem_map.mp hv
    rw [← partition_of_mem hp.addresses haq] at he
    rw [← partition_of_mem hp.addresses hbr] at hf
    exact hab (hp.apart a b e he f hf huv.symm)

end Pool

end PlanReuse
