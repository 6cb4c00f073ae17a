import PlanReuse.Pool.Partition
import PlanReuse.Pool.Tally

/-!
# Pool of artifacts

A pool keeps costly artifacts for reuse, in one partition for each class and device. An artifact is put
in under a key; a later request with that key gets the same artifact back. A partition that is full
evicts by use and age. Whoever has got an artifact keeps it, and can still read its record, after the
pool has let go of it.
-/

namespace PlanReuse

/-- Where an artifact is kept. -/
structure Address where
  artifactClass : ArtifactClass
  device : DeviceId
deriving DecidableEq

def Address.text (a : Address) : String := a.artifactClass.name ++ "/设备" ++ toString a.device

/-- How an artifact left the pool. -/
inductive Departure
  | evicted
  | removed
  | cleared
deriving DecidableEq

structure Pool (α : Type) where
  name : String
  /-- The partitions that have been written to, each address once. -/
  partitions : List (Address × Partition α)
  budgets : Budgets
  /-- The number of insertions so far. -/
  nextSeq : Nat
  tally : Tally
  /-- The records of all artifacts that have left, with the way they left. -/
  departed : List (Usage × Departure)

/-- What a request gets: the artifact, and the place of its record in the order of insertions. -/
structure Handle (α : Type) where
  item : α
  seq : Nat

/-- Why an artifact is not kept. -/
inductive Rejection
  | overItemLimit (size limit : Nat)
  | overTotalLimit (size limit : Nat)
  | noSpace (size available : Nat)
  | noKey
deriving DecidableEq

def Rejection.name : Rejection → String
  | .overItemLimit .. => "ExceedsItemLimit"
  | .overTotalLimit .. => "ExceedsTotalLimit"
  | .noSpace .. => "InsufficientSpace"
  | .noKey => "MissingKey"

/-- The size, and the limit or the room there was. -/
def Rejection.numbers : Rejection → List Nat
  | .overItemLimit size limit => [size, limit]
  | .overTotalLimit size limit => [size, limit]
  | .noSpace size available => [size, available]
  | .noKey => []

def Rejection.message : Rejection → String
  | .overItemLimit size limit =>
    "缓存项大小 " ++ toString size ++ " 超过单项上限 " ++ toString limit
  | .overTotalLimit size limit =>
    "缓存项大小 " ++ toString size ++ " 超过分区总容量 " ++ toString limit
  | .noSpace size available =>
    "需要 " ++ toString size ++ " 字节但只能腾出 " ++ toString available ++ " 字节"
  | .noKey => "缓存项没有缓存键"

inductive PutOutcome
  | accepted
  | rejected (why : Rejection)
deriving DecidableEq

def PutOutcome.isAccepted : PutOutcome → Bool
  | .accepted => true
  | .rejected _ => false

/-- What an insertion did. -/
structure PutReport (α : Type) where
  outcome : PutOutcome
  /-- The entries evicted for it, first to last. -/
  evicted : List (Entry α)
  /-- The key was in use already, and what it stands for was kept. -/
  duplicate : Bool

/-- The first limit that a size exceeds; the limit for one artifact is looked at first. -/
def Budget.rejection? (b : Budget) (size : Nat) : Option Rejection :=
  if b.item < size then some (.overItemLimit size b.item)
  else if b.total < size then some (.overTotalLimit size b.total)
  else none

theorem Budget.rejection?_eq_none_iff (b : Budget) (size : Nat) :
    b.rejection? size = none ↔ b.admits size = true := by
  unfold rejection? admits
  split
  · simp; omega
  · split <;> simp <;> omega

namespace Pool

variable {α : Type}

def new (name : String) (budgets : Budgets) : Pool α :=
  { name, partitions := [], budgets, nextSeq := 0, tally := .zero, departed := [] }

/-! ### Partitions -/

/-- The partition at an address; one never written to is empty. -/
def partition (p : Pool α) (a : Address) : Partition α := (p.partitions.lookup a).getD .empty

def setPartition (p : Pool α) (a : Address) (q : Partition α) : Pool α :=
  { p with partitions := (a, q) :: p.partitions.filter (·.1 ≠ a) }

/-- Notes that entries have left. -/
def depart (p : Pool α) (how : Departure) (es : List (Entry α)) : Pool α :=
  { p with departed := es.map (fun e => (e.usage, how)) ++ p.departed }

/-- Notes and counts evicted entries. -/
def noteEvicted (p : Pool α) (es : List (Entry α)) : Pool α :=
  { p.depart .evicted es with tally := es.foldl (fun t e => t.evict e.usage.size) p.tally }

/-! ### Putting in -/

/-- Puts an artifact in under a key. A key in use keeps what it stands for. -/
def put (p : Pool α) (key : ArtifactKey) (a : Address) (item : α) (size : Nat) :
    PutReport α × Pool α :=
  let budget := p.budgets.get a.artifactClass
  match budget.rejection? size with
  | some why => (⟨.rejected why, [], false⟩, { p with tally := p.tally.reject })
  | none =>
    if (p.partition a).holds key then (⟨.accepted, [], true⟩, p)
    else
      let room := (p.partition a).makeRoom size budget.total
      let p := p.noteEvicted room.evicted
      if room.made then
        let usage := Usage.fresh key a.artifactClass a.device size p.nextSeq
        let p := p.setPartition a (room.rest.push ⟨item, usage⟩)
        (⟨.accepted, room.evicted, false⟩,
          { p with nextSeq := p.nextSeq + 1, tally := p.tally.accept })
      else
        let p := p.setPartition a room.rest
        (⟨.rejected (.noSpace size (budget.total - room.rest.occupied)), room.evicted, false⟩,
          { p with tally := p.tally.reject })

/-- Evicts until `needed` more bytes fit. More than the limit never fit, and then nothing is evicted. -/
def evictToFit (p : Pool α) (a : Address) (needed : Nat) : (Bool × List (Entry α)) × Pool α :=
  let limit := (p.budgets.get a.artifactClass).total
  if limit < needed then ((false, []), p)
  else
    let room := (p.partition a).makeRoom needed limit
    ((room.made, room.evicted), (p.noteEvicted room.evicted).setPartition a room.rest)

/-! ### Asking -/

/-- The artifact under a key, if there is one, and one more use of it. -/
def get (p : Pool α) (key : ArtifactKey) (a : Address) : Option (Handle α) × Pool α :=
  let q := p.partition a
  match q.find? key with
  | some e =>
    (some ⟨e.item, e.usage.seq⟩,
      { p.setPartition a (q.touch key) with tally := p.tally.hit a.artifactClass })
  | none => (none, { p with tally := p.tally.miss })

def contains (p : Pool α) (key : ArtifactKey) (a : Address) : Bool := (p.partition a).holds key

/-- The record of the artifact under a key. Reading it is no use. -/
def usage? (p : Pool α) (key : ArtifactKey) (a : Address) : Option Usage :=
  ((p.partition a).find? key).map Entry.usage

/-- The records of all kept artifacts. -/
def kept (p : Pool α) : List Usage :=
  p.partitions.flatMap fun (_, q) => q.entries.map Entry.usage

/-- The record at a place in the order of insertions, of an artifact kept or departed. -/
def usageAt? (p : Pool α) (seq : Nat) : Option Usage :=
  (p.kept ++ p.departed.map Prod.fst).find? (·.seq = seq)

/-- The uses of the artifact at a place in the order of insertions. -/
def usesAt (p : Pool α) (seq : Nat) : Nat := ((p.usageAt? seq).map Usage.uses).getD 0

def occupied (p : Pool α) (a : Address) : Nat := (p.partition a).occupied

def count (p : Pool α) (a : Address) : Nat := (p.partition a).count

/-- The keys in a partition, ascending. -/
def keys (p : Pool α) (a : Address) : List ArtifactKey :=
  ((p.partition a).entries.map fun e => e.usage.key).mergeSort fun k l =>
    decide (k.value ≤ l.value)

/-! ### Budgets -/

/-- A lower total evicts nothing by itself; the next insertion will. -/
def setTotal (p : Pool α) (c : ArtifactClass) (bytes : Nat) : Pool α :=
  { p with budgets := p.budgets.set c { p.budgets.get c with total := bytes } }

/-- What is kept already stays, whatever its size. -/
def setItem (p : Pool α) (c : ArtifactClass) (bytes : Nat) : Pool α :=
  { p with budgets := p.budgets.set c { p.budgets.get c with item := bytes } }

/-! ### Taking out -/

/-- Takes out the artifact under a key. -/
def remove (p : Pool α) (key : ArtifactKey) (a : Address) : Option Usage × Pool α :=
  match (p.partition a).take? key with
  | some (e, q) => (some e.usage, (p.depart .removed [e]).setPartition a q)
  | none => (none, p)

/-- Empties one partition. -/
def clear (p : Pool α) (a : Address) : Pool α :=
  (p.depart .cleared (p.partition a).entries).setPartition a .empty

/-- Empties every partition. -/
def clearAll (p : Pool α) : Pool α :=
  { p.depart .cleared (p.partitions.flatMap fun (_, q) => q.entries) with
    partitions := p.partitions.map fun (a, _) => (a, .empty) }

/-! ### What each change does to the partitions -/

theorem partition_setPartition (p : Pool α) (a b : Address) (q : Partition α) :
    (p.setPartition a q).partition b = if b = a then q else p.partition b := by
  by_cases h : b = a
  · simp [partition, setPartition, h]
  · have hb : (b == a) = false := by simpa using h
    simp only [partition, setPartition, List.lookup_cons, hb, h, if_false]
    congr 1
    induction p.partitions with
    | nil => rfl
    | cons c cs ih =>
      obtain ⟨x, r⟩ := c
      by_cases hx : x = a
      · have : (b == x) = false := by simpa [hx] using h
        simpa [List.filter_cons, hx, List.lookup_cons, hb] using ih
      · by_cases hbx : b = x
        · simp [hbx, hx]
        · have : (b == x) = false := by simpa using hbx
          simpa [List.filter_cons, hx, List.lookup_cons, this] using ih

@[simp] theorem partition_new (name : String) (budgets : Budgets) (a : Address) :
    (new name budgets : Pool α).partition a = .empty := rfl

@[simp] theorem partition_depart (p : Pool α) (how : Departure) (es : List (Entry α)) (a : Address) :
    (p.depart how es).partition a = p.partition a := rfl

@[simp] theorem partition_noteEvicted (p : Pool α) (es : List (Entry α)) (a : Address) :
    (p.noteEvicted es).partition a = p.partition a := rfl

@[simp] theorem partition_setTotal (p : Pool α) (c : ArtifactClass) (bytes : Nat) (a : Address) :
    (p.setTotal c bytes).partition a = p.partition a := rfl

@[simp] theorem partition_setItem (p : Pool α) (c : ArtifactClass) (bytes : Nat) (a : Address) :
    (p.setItem c bytes).partition a = p.partition a := rfl

end Pool

end PlanReuse
