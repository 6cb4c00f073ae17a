import PlanReuse.Proofs.Pool.History
import PlanReuse.Proofs.Pool.Renumbering

/-!
# One partition and its budget

What is done at an address depends on the partition there and on the budget of its class, and on nothing
else in the pool but the place that an insertion gets. The answers do not even depend on that, so they
are those of the partition without its places.
-/

namespace PlanReuse

variable {α : Type}

/-! ### Operations -/

/-- What an operation may read or write. -/
inductive Scope
  | partition (a : Address)
  | budget (c : ArtifactClass)
  | everything
deriving DecidableEq

/-- Whether an operation can matter at an address. -/
def Scope.covers (a : Address) : Scope → Bool
  | partition b => decide (b = a)
  | budget c => decide (c = a.artifactClass)
  | everything => true

namespace Pool

deriving instance DecidableEq for Change

def Change.scope : Change α → Scope
  | .put _ a _ _ => .partition a
  | .get _ a => .partition a
  | .remove _ a => .partition a
  | .evictToFit a _ => .partition a
  | .setTotal c _ => .budget c
  | .setItem c _ => .budget c
  | .clear a => .partition a
  | .clearAll => .everything

/-- What can be asked about a partition without a change. -/
inductive Query
  | contains (key : ArtifactKey)
  | usage (key : ArtifactKey)
  | occupied
  | count
  | keys
deriving DecidableEq

/-- Anything that can be done with a pool, apart from building. -/
inductive Operation (α : Type)
  | change (x : Change α)
  | putItem (item : α)
  | ask (a : Address) (q : Query)
deriving DecidableEq

/-- What the caller of an operation gets to know. -/
inductive Answer (α : Type)
  | put (outcome : PutOutcome)
  | hit (item : α) (uses : Nat)
  | miss
  | told (yes : Bool)
  /-- The record apart from its place. -/
  | usage (u : Option Usage)
  | amount (n : Nat)
  | keys (ks : List ArtifactKey)
  | done

/-- The answer to a look-up, with the pool right after it, where the uses are read. -/
def lookUpAnswer (p : Pool α) : Option (Handle α) → Answer α
  | some h => .hit h.item (p.usesAt h.seq)
  | none => .miss

def answer (p : Pool α) : Change α → Answer α
  | .put key a item size => .put (p.put key a item size).1.outcome
  | .get key a => (p.get key a).2.lookUpAnswer (p.get key a).1
  | .remove key a => .told (p.remove key a).1.isSome
  | .evictToFit a needed => .told (p.evictToFit a needed).1.1
  | .setTotal .. => .done
  | .setItem .. => .done
  | .clear _ => .done
  | .clearAll => .done

def ask (p : Pool α) (a : Address) : Query → Answer α
  | .contains key => .told (p.contains key a)
  | .usage key => .usage ((p.usage? key a).map Usage.unplaced)
  | .occupied => .amount (p.occupied a)
  | .count => .amount (p.count a)
  | .keys => .keys (p.keys a)

def operate [Artifact α] (p : Pool α) : Operation α → Answer α × Pool α
  | .change x => (p.answer x, p.change x)
  | .putItem item => (.put (p.putItem item).1.outcome, (p.putItem item).2)
  | .ask a q => (p.ask a q, p)

def Operation.scope [Artifact α] : Operation α → Scope
  | .change x => x.scope
  | .putItem item => .partition ⟨Artifact.artifactClass item, Artifact.device item⟩
  | .ask a _ => .partition a

end Pool

/-! ### Cells -/

structure Cell (α : Type) where
  partition : Partition α
  budget : Budget

def Pool.cell (p : Pool α) (a : Address) : Cell α := ⟨p.partition a, p.budgets.get a.artifactClass⟩

namespace Cell

/-- Puts an entry in as a pool does. -/
def put (c : Cell α) (e : Entry α) : PutOutcome × Partition α :=
  match c.budget.rejection? e.usage.size with
  | some why => (.rejected why, c.partition)
  | none =>
    if c.partition.holds e.usage.key then (.accepted, c.partition)
    else
      let room := c.partition.makeRoom e.usage.size c.budget.total
      if room.made then (.accepted, room.rest.push e)
      else
        (.rejected (.noSpace e.usage.size (c.budget.total - room.rest.occupied)), room.rest)

def evictToFit (c : Cell α) (needed : Nat) : Bool × Partition α :=
  if c.budget.total < needed then (false, c.partition)
  else
    let room := c.partition.makeRoom needed c.budget.total
    (room.made, room.rest)

def lookUp (c : Cell α) (key : ArtifactKey) : Pool.Answer α :=
  match c.partition.find? key with
  | some e => .hit e.item (e.usage.uses + 1)
  | none => .miss

/-- The answer to a change and the cell after it. The number is the place that an insertion gets. -/
def change (seq : Nat) (c : Cell α) : Pool.Change α → Pool.Answer α × Cell α
  | .put key a item size =>
    let r := c.put ⟨item, .fresh key a.artifactClass a.device size seq⟩
    (.put r.1, { c with partition := r.2 })
  | .get key _ => (c.lookUp key, { c with partition := c.partition.touch key })
  | .remove key _ =>
    match c.partition.take? key with
    | some (_, q) => (.told true, { c with partition := q })
    | none => (.told false, c)
  | .evictToFit _ needed =>
    let r := c.evictToFit needed
    (.told r.1, { c with partition := r.2 })
  | .setTotal _ bytes => (.done, { c with budget := { c.budget with total := bytes } })
  | .setItem _ bytes => (.done, { c with budget := { c.budget with item := bytes } })
  | .clear _ => (.done, { c with partition := .empty })
  | .clearAll => (.done, { c with partition := .empty })

def ask (c : Cell α) : Pool.Query → Pool.Answer α
  | .contains key => .told (c.partition.holds key)
  | .usage key => .usage ((c.partition.find? key).map fun e => e.usage.unplaced)
  | .occupied => .amount c.partition.occupied
  | .count => .amount c.partition.count
  | .keys =>
    .keys ((c.partition.entries.map fun e => e.usage.key).mergeSort fun k l =>
      decide (k.value ≤ l.value))

def operate [Artifact α] (seq : Nat) (c : Cell α) : Pool.Operation α → Pool.Answer α × Cell α
  | .change x => c.change seq x
  | .putItem item =>
    match Pool.itemChange? item with
    | some x => c.change seq x
    | none => (.put (.rejected .noKey), c)
  | .ask _ q => (c.ask q, c)

end Cell

/-! ### Pools and their cells -/

namespace Pool

theorem put_cell (p : Pool α) (key : ArtifactKey) (a : Address) (item : α) (size : Nat) :
    (p.cell a).put (p.freshEntry key a item size) =
      ((p.put key a item size).1.outcome, (p.put key a item size).2.partition a) := by
  have hsize : (p.freshEntry key a item size).usage.size = size := rfl
  have hkey : (p.freshEntry key a item size).usage.key = key := rfl
  rcases p.put_cases key a item size with ⟨why, hwhy, hput⟩ | ⟨hadmits, hholds, hput⟩ |
    ⟨hadmits, hholds, hmade, hput⟩ | ⟨hadmits, hholds, hmade, hput⟩
  · simp only [hput, Cell.put, cell, hsize, hwhy]
    rfl
  · have hwhy := (Budget.rejection?_eq_none_iff _ size).mpr hadmits
    simp only [hput, Cell.put, cell, hsize, hkey, hwhy, hholds, if_true]
  · have hwhy := (Budget.rejection?_eq_none_iff _ size).mpr hadmits
    simp only [hput, Cell.put, cell, hsize, hkey, hwhy, hholds, hmade, Bool.false_eq_true, if_false,
      if_true]
    exact Prod.ext rfl ((partition_setPartition ..).trans (if_pos rfl)).symm
  · have hwhy := (Budget.rejection?_eq_none_iff _ size).mpr hadmits
    simp only [hput, Cell.put, cell, hsize, hkey, hwhy, hholds, hmade, Bool.false_eq_true, if_false]
    exact Prod.ext rfl ((partition_setPartition ..).trans (if_pos rfl)).symm

theorem partition_put_of_ne (p : Pool α) (key : ArtifactKey) {a b : Address} (h : b ≠ a) (item : α)
    (size : Nat) : (p.put key a item size).2.partition b = p.partition b := by
  rcases p.put_cases key a item size with ⟨_, _, hput⟩ | ⟨_, _, hput⟩ | ⟨_, _, _, hput⟩ |
    ⟨_, _, _, hput⟩
  · rw [hput]
    rfl
  · rw [hput]
  · rw [hput]
    exact (partition_setPartition ..).trans (if_neg h)
  · rw [hput]
    exact (partition_setPartition ..).trans (if_neg h)

theorem partition_get (p : Pool α) (key : ArtifactKey) (a b : Address) :
    (p.get key a).2.partition b = if b = a then (p.partition a).touch key else p.partition b := by
  rw [get]
  cases hfound : (p.partition a).find? key with
  | some e => exact partition_setPartition ..
  | none =>
    have hholds : (p.partition a).holds key = false := by
      rw [Partition.holds, hfound]
      rfl
    rw [Partition.touch_eq_self hholds]
    by_cases hb : b = a
    · rw [if_pos hb, hb]
      rfl
    · rw [if_neg hb]
      rfl

theorem partition_remove_of_ne (p : Pool α) (key : ArtifactKey) {a b : Address} (h : b ≠ a) :
    (p.remove key a).2.partition b = p.partition b := by
  rw [remove]
  split
  · exact (partition_setPartition ..).trans (if_neg h)
  · rfl

theorem partition_evictToFit_of_ne (p : Pool α) {a b : Address} (h : b ≠ a) (needed : Nat) :
    (p.evictToFit a needed).2.partition b = p.partition b := by
  rw [evictToFit]
  split
  · rfl
  · exact (partition_setPartition ..).trans (if_neg h)

theorem evictToFit_cell (p : Pool α) (a : Address) (needed : Nat) :
    (p.cell a).evictToFit needed =
      ((p.evictToFit a needed).1.1, (p.evictToFit a needed).2.partition a) := by
  rw [evictToFit, Cell.evictToFit, cell]
  split
  · rfl
  · exact congrArg _ ((partition_setPartition ..).trans (if_pos rfl)).symm

/-! ### Uses of a kept artifact -/

theorem mem_kept {p : Pool α} {a : Address} {e : Entry α} (he : e ∈ (p.partition a).entries) :
    e.usage ∈ p.kept := by
  cases hlookup : p.partitions.lookup a with
  | none =>
    rw [partition, hlookup] at he
    cases he
  | some q =>
    rw [partition, hlookup] at he
    rw [kept, List.mem_flatMap]
    exact ⟨(a, q), mem_of_lookup_eq_some hlookup, List.mem_map_of_mem he⟩

/-- The place of a kept artifact leads to its own record. -/
theorem Sound.usageAt?_eq {p : Pool α} (hp : p.Sound) {a : Address} {e : Entry α}
    (he : e ∈ (p.partition a).entries) : p.usageAt? e.usage.seq = some e.usage := by
  have hfound : p.kept.find? (·.seq = e.usage.seq) = some e.usage :=
    (find?_eq_some_iff_of_nodup hp.nodup_kept).mpr ⟨mem_kept he, rfl⟩
  rw [usageAt?, List.find?_append, hfound, Option.some_or]

theorem Sound.lookUpAnswer_get {p : Pool α} (hp : p.Sound) (key : ArtifactKey) (a : Address) :
    (p.get key a).2.lookUpAnswer (p.get key a).1 = (p.cell a).lookUp key := by
  cases hfound : (p.partition a).find? key with
  | none => simp only [get, hfound, lookUpAnswer, Cell.lookUp, cell]
  | some e =>
    obtain ⟨he, hkey⟩ := Partition.mem_of_find? hfound
    have hafter : (p.get key a).2.Sound := hp.change (.get key a)
    have htouched : { e with usage := e.usage.touch } ∈ ((p.get key a).2.partition a).entries := by
      rw [partition_get, if_pos rfl]
      exact List.mem_map.mpr ⟨e, he, if_pos hkey⟩
    have huses : (p.get key a).2.usesAt e.usage.seq = e.usage.uses + 1 := by
      have husage := hafter.usageAt?_eq htouched
      rw [Usage.touch_seq] at husage
      rw [usesAt, husage]
      rfl
    have hhandle : (p.get key a).1 = some ⟨e.item, e.usage.seq⟩ := by
      rw [get, hfound]
    rw [hhandle, lookUpAnswer, huses, Cell.lookUp, cell, hfound]

/-! ### Operations on a cell -/

theorem cell_eq {p r : Pool α} {a : Address} {q : Partition α} (hpartition : r.partition a = q)
    (hbudgets : r.budgets = p.budgets) : r.cell a = { p.cell a with partition := q } := by
  rw [cell, cell, hpartition, hbudgets]

theorem cell_setTotal (p : Pool α) (c : ArtifactClass) (bytes : Nat) (a : Address) :
    (p.setTotal c bytes).cell a =
      if a.artifactClass = c then
        { p.cell a with budget := { (p.cell a).budget with total := bytes } }
      else p.cell a := by
  rw [cell, partition_setTotal, setTotal, Budgets.get_set]
  split
  · next hc => rw [← hc]; rfl
  · rfl

theorem cell_setItem (p : Pool α) (c : ArtifactClass) (bytes : Nat) (a : Address) :
    (p.setItem c bytes).cell a =
      if a.artifactClass = c then
        { p.cell a with budget := { (p.cell a).budget with item := bytes } }
      else p.cell a := by
  rw [cell, partition_setItem, setItem, Budgets.get_set]
  split
  · next hc => rw [← hc]; rfl
  · rfl

/-- A change that covers an address does there what it does with the cell alone. -/
theorem Sound.change_cell {p : Pool α} (hp : p.Sound) {a : Address} {x : Change α}
    (h : x.scope.covers a = true) :
    (p.cell a).change p.nextSeq x = (p.answer x, (p.change x).cell a) := by
  cases x with
  | put key b item size =>
    obtain rfl : b = a := of_decide_eq_true h
    have hput := p.put_cell key b item size
    have houtcome : (p.put key b item size).1.outcome =
        ((p.cell b).put (p.freshEntry key b item size)).1 := (congrArg Prod.fst hput).symm
    have hpartition : (p.change (.put key b item size)).partition b =
        ((p.cell b).put (p.freshEntry key b item size)).2 := (congrArg Prod.snd hput).symm
    rw [cell_eq hpartition (p.budgets_change (.put key b item size)), answer, houtcome]
    rfl
  | get key b =>
    obtain rfl : b = a := of_decide_eq_true h
    have hpartition : (p.change (.get key b)).partition b = (p.partition b).touch key :=
      (p.partition_get key b b).trans (if_pos rfl)
    rw [cell_eq hpartition (p.budgets_change (.get key b)), answer, hp.lookUpAnswer_get]
    rfl
  | remove key b =>
    obtain rfl : b = a := of_decide_eq_true h
    rw [Cell.change, cell, answer, Pool.change, remove]
    cases (p.partition b).take? key with
    | none => rfl
    | some taken =>
      have hpartition := ((p.depart .removed [taken.1]).partition_setPartition b b taken.2).trans
        (if_pos rfl)
      rw [cell_eq hpartition rfl]
      rfl
  | evictToFit b needed =>
    obtain rfl : b = a := of_decide_eq_true h
    have hevict := p.evictToFit_cell b needed
    have htold : (p.evictToFit b needed).1.1 = ((p.cell b).evictToFit needed).1 :=
      (congrArg Prod.fst hevict).symm
    have hpartition : (p.change (.evictToFit b needed)).partition b =
        ((p.cell b).evictToFit needed).2 := (congrArg Prod.snd hevict).symm
    rw [cell_eq hpartition (p.budgets_change (.evictToFit b needed)), answer, htold]
    rfl
  | setTotal c bytes =>
    obtain rfl : c = a.artifactClass := of_decide_eq_true h
    rw [Pool.change, cell_setTotal, if_pos rfl]
    rfl
  | setItem c bytes =>
    obtain rfl : c = a.artifactClass := of_decide_eq_true h
    rw [Pool.change, cell_setItem, if_pos rfl]
    rfl
  | clear b =>
    obtain rfl : b = a := of_decide_eq_true h
    have hpartition : (p.change (.clear b)).partition b = .empty :=
      (partition_setPartition ..).trans (if_pos rfl)
    rw [cell_eq hpartition (p.budgets_change (.clear b))]
    rfl
  | clearAll =>
    have hpartition : (p.change .clearAll).partition a = .empty := p.partition_clearAll a
    rw [cell_eq hpartition (p.budgets_change .clearAll)]
    rfl

/-- A change that does not cover an address does nothing there. -/
theorem cell_change_of_not_covers (p : Pool α) {a : Address} {x : Change α}
    (h : x.scope.covers a = false) : (p.change x).cell a = p.cell a := by
  cases x with
  | put key b item size =>
    have hb : a ≠ b := Ne.symm (of_decide_eq_false h)
    exact cell_eq (p.partition_put_of_ne key hb item size) (p.budgets_change (.put key b item size))
  | get key b =>
    have hb : a ≠ b := Ne.symm (of_decide_eq_false h)
    exact cell_eq ((p.partition_get key b a).trans (if_neg hb)) (p.budgets_change (.get key b))
  | remove key b =>
    have hb : a ≠ b := Ne.symm (of_decide_eq_false h)
    exact cell_eq (p.partition_remove_of_ne key hb) (p.budgets_change (.remove key b))
  | evictToFit b needed =>
    have hb : a ≠ b := Ne.symm (of_decide_eq_false h)
    exact cell_eq (p.partition_evictToFit_of_ne hb needed) (p.budgets_change (.evictToFit b needed))
  | setTotal c bytes =>
    have hc : a.artifactClass ≠ c := Ne.symm (of_decide_eq_false h)
    exact (p.cell_setTotal c bytes a).trans (if_neg hc)
  | setItem c bytes =>
    have hc : a.artifactClass ≠ c := Ne.symm (of_decide_eq_false h)
    exact (p.cell_setItem c bytes a).trans (if_neg hc)
  | clear b =>
    have hb : a ≠ b := Ne.symm (of_decide_eq_false h)
    exact cell_eq ((partition_setPartition ..).trans (if_neg hb)) (p.budgets_change (.clear b))
  | clearAll => cases h

theorem ask_cell (p : Pool α) (a : Address) (q : Query) : (p.cell a).ask q = p.ask a q := by
  cases q with
  | usage key => rw [Cell.ask, ask, usage?, Option.map_map]; rfl
  | _ => rfl

section Artifacts

variable [Artifact α]

theorem putItem_of_itemChange? (p : Pool α) {item : α} {x : Change α} (h : itemChange? item = some x) :
    p.operate (.putItem item) = p.operate (.change x) := by
  obtain ⟨key, hkey, rfl⟩ := Option.map_eq_some_iff.mp h
  rw [operate, operate, putItem, hkey]
  rfl

theorem scope_of_itemChange? {item : α} {x : Change α} (h : itemChange? item = some x) :
    (Operation.putItem item).scope = x.scope := by
  obtain ⟨key, _, rfl⟩ := Option.map_eq_some_iff.mp h
  rfl

/-- What is done at an address depends on the cell there alone. -/
theorem Sound.operate_cell {p : Pool α} (hp : p.Sound) {a : Address} {o : Operation α}
    (h : o.scope.covers a = true) :
    (p.cell a).operate p.nextSeq o = ((p.operate o).1, (p.operate o).2.cell a) := by
  cases o with
  | change x => exact hp.change_cell h
  | putItem item =>
    cases hx : itemChange? item with
    | none =>
      have hkey : Artifact.key? item = none := by simpa [itemChange?] using hx
      simp only [Cell.operate, hx, operate, putItem, hkey]
    | some x =>
      simp only [Cell.operate, hx, p.putItem_of_itemChange? hx]
      exact hp.change_cell (scope_of_itemChange? hx ▸ h)
  | ask b q =>
    obtain rfl : b = a := of_decide_eq_true h
    rw [Cell.operate, operate, ask_cell]

theorem cell_operate_of_not_covers (p : Pool α) {a : Address} {o : Operation α}
    (h : o.scope.covers a = false) : (p.operate o).2.cell a = p.cell a := by
  cases o with
  | change x => exact p.cell_change_of_not_covers h
  | putItem item =>
    cases hx : itemChange? item with
    | none =>
      have hkey : Artifact.key? item = none := by simpa [itemChange?] using hx
      simp only [operate, putItem, hkey]
    | some x =>
      rw [p.putItem_of_itemChange? hx]
      exact p.cell_change_of_not_covers (scope_of_itemChange? hx ▸ h)
  | ask b q => rfl

theorem operate_sound {p : Pool α} (hp : p.Sound) (o : Operation α) : (p.operate o).2.Sound := by
  cases o with
  | change x => exact hp.change x
  | putItem item =>
    rw [operate, putItem_eq_changeAll]
    exact hp.changeAll _
  | ask b q => exact hp

end Artifacts

end Pool

/-! ### Cells at other places -/

namespace Cell

variable {f : Nat → Nat}

def renumber (f : Nat → Nat) (c : Cell α) : Cell α := { c with partition := c.partition.renumber f }

def unplaced (c : Cell α) : Cell α := { c with partition := c.partition.unplaced }

theorem put_renumber (hf : Monotone f) {c : Cell α} (hc : c.partition.Sound) (e : Entry α) :
    (c.renumber f).put (e.renumber f) = ((c.put e).1, (c.put e).2.renumber f) := by
  simp only [put, renumber, Entry.usage_renumber, Usage.size_renumber, Usage.key_renumber,
    Partition.holds_renumber, Partition.makeRoom_renumber hf hc, Eviction.renumber]
  cases c.budget.rejection? e.usage.size with
  | some why => rfl
  | none =>
    dsimp only
    split
    · rfl
    · split
      · rw [Partition.push_renumber]
      · rfl

theorem evictToFit_renumber (hf : Monotone f) {c : Cell α} (hc : c.partition.Sound) (needed : Nat) :
    (c.renumber f).evictToFit needed =
      ((c.evictToFit needed).1, (c.evictToFit needed).2.renumber f) := by
  simp only [evictToFit, renumber, Partition.makeRoom_renumber hf hc, Eviction.renumber]
  split <;> rfl

theorem lookUp_renumber (f : Nat → Nat) (c : Cell α) (key : ArtifactKey) :
    (c.renumber f).lookUp key = c.lookUp key := by
  simp only [lookUp, renumber, Partition.find?_renumber]
  cases c.partition.find? key <;> rfl

theorem change_renumber (hf : Monotone f) {c : Cell α} (hc : c.partition.Sound) (seq : Nat)
    (x : Pool.Change α) :
    (c.renumber f).change (f seq) x = ((c.change seq x).1, (c.change seq x).2.renumber f) := by
  cases x with
  | put key a item size =>
    have hput := put_renumber hf hc ⟨item, .fresh key a.artifactClass a.device size seq⟩
    rw [change, change]
    exact congrArg (fun r => (Pool.Answer.put r.1, Cell.mk r.2 c.budget)) hput
  | get key a =>
    rw [change, change, lookUp_renumber]
    exact congrArg (fun q => (c.lookUp key, Cell.mk q c.budget)) (c.partition.touch_renumber f key)
  | remove key a =>
    have htake := c.partition.take?_renumber f key
    simp only [change, renumber, htake]
    cases c.partition.take? key <;> rfl
  | evictToFit a needed =>
    rw [change, change]
    exact congrArg (fun r => (Pool.Answer.told r.1, Cell.mk r.2 c.budget))
      (evictToFit_renumber hf hc needed)
  | setTotal k bytes => rfl
  | setItem k bytes => rfl
  | clear a => rfl
  | clearAll => rfl

theorem ask_renumber (f : Nat → Nat) (c : Cell α) (q : Pool.Query) :
    (c.renumber f).ask q = c.ask q := by
  cases q with
  | contains key => exact congrArg Pool.Answer.told (c.partition.holds_renumber f key)
  | usage key =>
    simp only [ask, renumber, Partition.find?_renumber, Option.map_map]
    rfl
  | occupied => rfl
  | count =>
    simp only [ask, renumber, Partition.count, Partition.entries_renumber, List.length_map]
  | keys =>
    simp only [ask, renumber, Partition.entries_renumber, List.map_map]
    rfl

/-- The answers are those of the cell at other places in the same order, and so is what stays, apart from
the places. -/
theorem operate_renumber [Artifact α] (hf : Monotone f) {c : Cell α} (hc : c.partition.Sound)
    (seq : Nat) (o : Pool.Operation α) :
    (c.renumber f).operate (f seq) o = ((c.operate seq o).1, (c.operate seq o).2.renumber f) := by
  cases o with
  | change x => exact change_renumber hf hc seq x
  | putItem item =>
    simp only [operate]
    cases Pool.itemChange? item with
    | none => rfl
    | some x => exact change_renumber hf hc seq x
  | ask a q => rw [operate, operate, ask_renumber]

/-- Entries without places all have the same one, so the answers are those of the cell without its places,
and so is what stays, apart from them. -/
theorem operate_unplaced [Artifact α] {c : Cell α} (hc : c.partition.Sound) (seq : Nat)
    (o : Pool.Operation α) :
    c.unplaced.operate 0 o = ((c.operate seq o).1, (c.operate seq o).2.unplaced) :=
  operate_renumber monotone_const hc seq o

end Cell

end PlanReuse
