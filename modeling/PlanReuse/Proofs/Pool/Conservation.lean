import Mathlib.Tactic.Abel
import PlanReuse.JoinTable.Basic
import PlanReuse.Proofs.Pool.Flow
import PlanReuse.Proofs.Pool.History

/-!
# Conservation

Whatever was put into a pool is still there, was evicted or was taken out, and is so just once. The tally
counts it all: what was taken, what was evicted with its bytes, and how each look-up ended.
-/

namespace PlanReuse

variable {α : Type}

/-! ### Bags of entries -/

/-- Entries apart from their order and their uses. -/
def bag (es : List (Entry α)) : Multiset (α × Usage) := Multiset.ofList (es.map Entry.base)

theorem bag_append (es fs : List (Entry α)) : bag (es ++ fs) = bag es + bag fs := by
  rw [bag, List.map_append]
  rfl

@[simp] theorem card_bag (es : List (Entry α)) : (bag es).card = es.length := by
  rw [bag, Multiset.coe_card, List.length_map]

/-- The bytes of all entries in a bag. -/
def bytesIn (b : Multiset (α × Usage)) : Nat := (b.map fun x => x.2.size).sum

@[simp] theorem bytesIn_bag (es : List (Entry α)) :
    bytesIn (bag es) = (es.map fun e => e.usage.size).sum := by
  rw [bytesIn, bag, Multiset.map_coe, Multiset.sum_coe, List.map_map]
  rfl

@[simp] theorem bytesIn_add (b c : Multiset (α × Usage)) : bytesIn (b + c) = bytesIn b + bytesIn c := by
  rw [bytesIn, Multiset.map_add, Multiset.sum_add, bytesIn, bytesIn]

/-! ### Counts that are shown -/

namespace Tally

/-- The hits of all classes together. -/
def hitsOfAll (t : Tally) : Nat := (ArtifactClass.all.map t.hitsOf).sum

/-- No count has begun again at zero. -/
structure InWords (t : Tally) : Prop where
  hits : t.hits ≤ maxWord
  misses : t.misses ≤ maxWord
  accepted : t.accepted ≤ maxWord
  rejected : t.rejected ≤ maxWord
  evictions : t.evictions ≤ maxWord
  evictedBytes : t.evictedBytes ≤ maxWord

/-- A class that is not shown has no hits. -/
theorem sum_hitsByClass {t : Tally} (h : t.hitsOfAll ≤ maxWord) :
    (t.snapshot.hitsByClass.map Prod.snd).sum = t.hitsOfAll := by
  rw [hitsOfAll] at h ⊢
  rw [snapshot, List.map_map]
  generalize ArtifactClass.all = cs at h ⊢
  induction cs with
  | nil => rfl
  | cons c cs ih =>
    rw [List.map_cons, List.sum_cons] at h
    have hrest := ih (by omega)
    by_cases hnone : t.hitsOf c = 0
    · rw [List.filter_cons_of_neg (by simpa using hnone), hrest, List.map_cons, List.sum_cons, hnone,
        Nat.zero_add]
    · rw [List.filter_cons_of_pos (by simpa using hnone), List.map_cons, List.sum_cons, hrest,
        List.map_cons, List.sum_cons, Function.comp_apply, wrapWord_of_le (by omega)]

end Tally

namespace Pool

/-! ### One change -/

/-- What was there and what is put in is there afterwards, is evicted or is taken out. -/
theorem bag_change {p : Pool α} (hp : p.Sound) (c : Change α) :
    bag (p.change c).entries + bag (p.evictedBy c) + bag (p.takenOutBy c) =
      bag p.entries + bag (p.insertedBy c) := by
  have hflow := congrArg (Multiset.map Entry.base) (hp.entries_change c)
  simp only [Multiset.map_add, Multiset.map_coe, List.map_map] at hflow
  exact hflow

/-! ### What one change counts -/

/-- What a change notes is no eviction, and a hit of one class or a miss for each look-up. -/
theorem noted_counts (p : Pool α) (c : Change α) :
    (p.noted c).evictions = 0 ∧ (p.noted c).evictedBytes = 0 ∧
      (p.noted c).hits + (p.noted c).misses = (if c.isLookUp then 1 else 0) ∧
      (p.noted c).hits = (p.noted c).hitsOfAll := by
  rcases p.noted_cases c with ⟨hlook, _, hnoted⟩ | ⟨hlook, _, hnoted | hnoted⟩ |
    ⟨hlook, _, hnoted | ⟨k, hnoted⟩⟩
  · rw [hlook, hnoted]
    exact ⟨rfl, rfl, rfl, rfl⟩
  · rw [hlook, hnoted]
    exact ⟨rfl, rfl, rfl, rfl⟩
  · rw [hlook, hnoted]
    exact ⟨rfl, rfl, rfl, rfl⟩
  · rw [hlook, hnoted]
    exact ⟨rfl, rfl, rfl, rfl⟩
  · rw [hlook, hnoted]
    cases k <;> exact ⟨rfl, rfl, rfl, rfl⟩

/-! ### Runs -/

/-- Nothing is lost and nothing is counted twice: a pool, all that was put in, all that was evicted, all
that was taken out, and the number of look-ups. -/
structure Conserved (p : Pool α) (inserted evicted takenOut : List (Entry α)) (lookUps : Nat) : Prop where
  sound : p.Sound
  entries : bag p.entries + bag evicted + bag takenOut = bag inserted
  accepted : p.tally.accepted = inserted.length
  evictions : p.tally.evictions = evicted.length
  evictedBytes : p.tally.evictedBytes = (evicted.map fun e => e.usage.size).sum
  lookUps : p.tally.hits + p.tally.misses = lookUps
  classes : p.tally.hits = p.tally.hitsOfAll

theorem conserved_new (name : String) (budgets : Budgets) :
    Conserved (new name budgets : Pool α) [] [] [] 0 :=
  ⟨sound_new name budgets, rfl, rfl, rfl, rfl, rfl, rfl⟩

theorem Conserved.change {p : Pool α} {inserted evicted takenOut : List (Entry α)} {lookUps : Nat}
    (hp : Conserved p inserted evicted takenOut lookUps) (c : Change α) :
    Conserved (p.change c) (p.insertedBy c ++ inserted) (p.evictedBy c ++ evicted)
      (p.takenOutBy c ++ takenOut) ((if c.isLookUp then 1 else 0) + lookUps) := by
  have htally : (p.change c).tally = p.tally + p.noted c +
      .evicted ((p.evictedBy c).map fun e => e.usage.size) := by
    rw [tally_change, counted, add_assoc]
  obtain ⟨hevictions, hbytes, hlookUps, hclasses⟩ := p.noted_counts c
  constructor
  · exact hp.sound.change c
  · have hchange := bag_change hp.sound c
    rw [bag_append, bag_append, bag_append, ← hp.entries]
    calc
      bag (p.change c).entries + (bag (p.evictedBy c) + bag evicted) +
          (bag (p.takenOutBy c) + bag takenOut) =
          bag (p.change c).entries + bag (p.evictedBy c) + bag (p.takenOutBy c) +
            (bag evicted + bag takenOut) := by abel
      _ = bag p.entries + bag (p.insertedBy c) + (bag evicted + bag takenOut) := by rw [hchange]
      _ = bag (p.insertedBy c) + (bag p.entries + bag evicted + bag takenOut) := by abel
  · rw [htally, List.length_append, ← accepted_noted, ← hp.accepted]
    simp only [Tally.add_eq, Tally.evicted, Tally.zero]
    omega
  · rw [htally, List.length_append, ← hp.evictions]
    simp only [Tally.add_eq, hevictions, Tally.evicted, List.length_map]
    omega
  · rw [htally, List.map_append, List.sum_append, ← hp.evictedBytes]
    simp only [Tally.add_eq, hbytes, Tally.evicted]
    omega
  · rw [htally, ← hlookUps, ← hp.lookUps]
    simp only [Tally.add_eq, Tally.evicted, Tally.zero]
    omega
  · have hbefore := hp.classes
    rw [htally]
    simp only [Tally.hitsOfAll, ArtifactClass.all, List.map_cons, List.map_nil, List.sum_cons,
      List.sum_nil, Tally.hitsOf, Tally.add_eq, Tally.evicted, Tally.zero] at hbefore hclasses ⊢
    omega

/-- What the changes of a run leave behind, the latest first. -/
def gathered {β : Type} (f : Pool α → Change α → List β) : Pool α → List (Change α) → List β
  | _, [] => []
  | p, c :: cs => gathered f (p.change c) cs ++ f p c

theorem Conserved.changeAll {p : Pool α} {inserted evicted takenOut : List (Entry α)} {lookUps : Nat}
    (hp : Conserved p inserted evicted takenOut lookUps) (cs : List (Change α)) :
    Conserved (p.changeAll cs) (p.gathered insertedBy cs ++ inserted)
      (p.gathered evictedBy cs ++ evicted) (p.gathered takenOutBy cs ++ takenOut)
      (cs.countP Change.isLookUp + lookUps) := by
  induction cs generalizing p inserted evicted takenOut lookUps with
  | nil =>
    rw [List.countP_nil, Nat.zero_add]
    exact hp
  | cons c cs ih =>
    rw [gathered, gathered, gathered, List.append_assoc, List.append_assoc, List.append_assoc,
      List.countP_cons, Nat.add_assoc]
    exact ih (hp.change c)

theorem Sound.sum_occupied {p : Pool α} (hp : p.Sound) :
    (p.partitions.map fun (_, q) => q.occupied).sum = (p.entries.map fun e => e.usage.size).sum := by
  rw [entries, List.map_flatMap, List.flatMap, List.sum_flatten, List.map_map]
  congr 1
  apply List.map_congr_left
  rintro ⟨a, q⟩ haq
  have hq := hp.partition a
  rw [partition_of_mem hp.addresses haq] at hq
  exact hq.occupied

/-- In every pool that a run leads to, builders that use the pool themselves included, the artifacts that
were taken are those still kept, those evicted and those taken out, in number and in bytes; every look-up
was a hit or a miss; and every hit was one of a class. -/
theorem conservation [Artifact α] (name : String) (budgets : Budgets) (actions : List (Action α)) :
    let start : Pool α := new name budgets
    let p := start.run actions
    let cs := start.changes actions
    let inserted := start.gathered insertedBy cs
    let takenOut := start.gathered takenOutBy cs
    let s := p.tally.snapshot
    p.tally.InWords →
      s.accepted = (p.partitions.map fun (_, q) => q.count).sum + s.evictions + takenOut.length ∧
      (inserted.map fun e => e.usage.size).sum =
        (p.partitions.map fun (_, q) => q.occupied).sum + s.evictedBytes +
          (takenOut.map fun e => e.usage.size).sum ∧
      s.hits + s.misses = cs.countP Change.isLookUp ∧
      s.hits = (s.hitsByClass.map Prod.snd).sum := by
  intro start p cs inserted takenOut s hwords
  have hp : Conserved p inserted (start.gathered evictedBy cs) takenOut (cs.countP Change.isLookUp) := by
    have h := (conserved_new name budgets).changeAll cs
    rw [← run_eq_changeAll, List.append_nil, List.append_nil, List.append_nil] at h
    exact h
  have hcount : (p.partitions.map fun (_, q) => q.count).sum = p.entries.length :=
    List.length_flatMap.symm
  refine ⟨?_, ?_, ?_, ?_⟩
  · have hcards := congrArg Multiset.card hp.entries
    simp only [Multiset.card_add, card_bag] at hcards
    simp only [s, Tally.snapshot, wrapWord_of_le hwords.accepted, wrapWord_of_le hwords.evictions]
    rw [hcount, hp.accepted, hp.evictions, hcards]
  · have hbytes := congrArg bytesIn hp.entries
    simp only [bytesIn_add, bytesIn_bag] at hbytes
    simp only [s, Tally.snapshot, wrapWord_of_le hwords.evictedBytes]
    rw [hp.sound.sum_occupied, hp.evictedBytes, hbytes]
  · simp only [s, Tally.snapshot, wrapWord_of_le hwords.hits, wrapWord_of_le hwords.misses]
    exact hp.lookUps
  · have hclasses : p.tally.hitsOfAll ≤ maxWord := hp.classes ▸ hwords.hits
    rw [Tally.sum_hitsByClass hclasses, ← hp.classes]
    exact wrapWord_of_le hwords.hits

/- The builder uses the pool and puts an artifact in on another device. The fourth artifact is too large,
the fifth drives two others out, and the sixth has a key in use; then one artifact is taken out by its key
and the other device is cleared. -/
theorem conservation_with_builder :
    let table (key : UInt64) : JoinTable :=
      ⟨.perfect 0 0, .oneToOne, some ⟨key⟩, 0, 5, Array.replicate 5 0⟩
    let a : Address := ⟨.perfect, 0⟩
    let actions : List (Action JoinTable) :=
      [.change (.put ⟨1⟩ a (table 1) 40), .change (.put ⟨2⟩ a (table 2) 0),
        .reuseOrBuild ⟨3⟩ a (fun _ => 30)
          [.change (.get ⟨1⟩ a), .change (.put ⟨9⟩ ⟨.baseline, 1⟩ (table 9) 10)] (.ok (table 3)),
        .change (.put ⟨4⟩ a (table 4) 70), .change (.put ⟨5⟩ a (table 5) 60),
        .change (.put ⟨5⟩ a (table 5) 20), .change (.get ⟨3⟩ a), .change (.remove ⟨1⟩ a),
        .change (.clear ⟨.baseline, 1⟩)]
    let start : Pool JoinTable := new "tables" (.uniform ⟨100, 60⟩)
    let p := start.run actions
    let takenOut := start.gathered takenOutBy (start.changes actions)
    let s := p.tally.snapshot
    p.tally.InWords ∧
      (s.accepted = 5 ∧ s.evictions = 2 ∧ s.evictedBytes = 30 ∧ s.hits = 1 ∧ s.misses = 2 ∧
        takenOut.map (·.usage.size) = [10, 40]) ∧
      s.accepted = (p.partitions.map fun (_, q) => q.count).sum + s.evictions + takenOut.length ∧
      s.hits + s.misses = (start.changes actions).countP Change.isLookUp ∧
      s.hits = (s.hitsByClass.map Prod.snd).sum := by
  intro table a actions start p takenOut s
  obtain ⟨htally, hvalues⟩ : p.tally = ⟨1, 2, 5, 1, 2, 30, 1, 0, 0⟩ ∧
      s.accepted = 5 ∧ s.evictions = 2 ∧ s.evictedBytes = 30 ∧ s.hits = 1 ∧ s.misses = 2 ∧
      takenOut.map (·.usage.size) = [10, 40] := by
    decide +kernel +revert
  have hwords : p.tally.InWords := by
    rw [htally]
    constructor <;> decide
  obtain ⟨haccepted, _, hlookUps, hclasses⟩ :=
    conservation "tables" (.uniform ⟨100, 60⟩) actions hwords
  exact ⟨hwords, hvalues, haccepted, hlookUps, hclasses⟩

end Pool

end PlanReuse
