import Mathlib.Algebra.BigOperators.Group.Multiset.Basic
import PlanReuse.Proofs.Pool.Counting

/-!
# The flow of entries

What one change makes of the entries of a pool, with their uses. A look-up adds one use to the entry that
it gives out. Everything else leaves the entries that stay as they are: some come, some leave, and those
that leave are noted with the uses they had.
-/

namespace PlanReuse

variable {α : Type}

/-! ### Uses -/

/-- A record once the artifacts at some places have been given out. -/
def Usage.used (seqs : List Nat) (u : Usage) : Usage := { u with uses := u.uses + seqs.count u.seq }

def Entry.used (seqs : List Nat) (e : Entry α) : Entry α := { e with usage := e.usage.used seqs }

namespace Usage

theorem used_of_notMem {seqs : List Nat} {u : Usage} (h : u.seq ∉ seqs) : u.used seqs = u := by
  rw [used, List.count_eq_zero.mpr h, Nat.add_zero]

@[simp] theorem used_nil (u : Usage) : u.used [] = u := used_of_notMem List.not_mem_nil

theorem used_append (seqs later : List Nat) (u : Usage) :
    u.used (later ++ seqs) = (u.used seqs).used later := by
  simp only [used, List.count_append, Nat.add_assoc, Nat.add_comm]

theorem used_self (u : Usage) : u.used [u.seq] = u.touch := by
  rw [used, List.count_singleton_self, touch]

end Usage

namespace Entry

theorem used_of_notMem {seqs : List Nat} {e : Entry α} (h : e.usage.seq ∉ seqs) : e.used seqs = e := by
  rw [used, Usage.used_of_notMem h]

@[simp] theorem used_nil (e : Entry α) : e.used [] = e := used_of_notMem List.not_mem_nil

@[simp] theorem map_used_nil (es : List (Entry α)) : es.map (used []) = es :=
  (List.map_congr_left fun e _ => e.used_nil).trans es.map_id

theorem alike_used (seqs : List Nat) (e : Entry α) : e.Alike (e.used seqs) := alike_of_base_eq rfl

end Entry

/-- With unique keys a use of a key is one of the place where the key is found. -/
theorem Partition.Sound.entries_touch {q : Partition α} (hq : q.Sound) {key : ArtifactKey} {e : Entry α}
    (h : q.find? key = some e) : (q.touch key).entries = q.entries.map (Entry.used [e.usage.seq]) := by
  obtain ⟨he, hkey⟩ := mem_of_find? h
  rw [touch]
  apply List.map_congr_left
  intro f hf
  by_cases hfkey : f.usage.key = key
  · have hsame : f = e := List.inj_on_of_nodup_map hq.keys hf he (hfkey.trans hkey.symm)
    rw [if_pos hfkey, hsame, Entry.used, Usage.used_self]
  · rw [if_neg hfkey, Entry.used_of_notMem]
    intro hseq
    have hsame : f = e :=
      List.inj_on_of_nodup_map (hq.order.imp Nat.ne_of_lt) hf he (List.mem_singleton.mp hseq)
    exact hfkey (hsame ▸ hkey)

namespace Pool

/-- What a change gives out: the artifact that a look-up finds. -/
def handedOut (p : Pool α) : Change α → List (Handle α)
  | .get key a => (p.get key a).1.toList
  | _ => []

/-- The entries of all partitions but one. -/
def elsewhere (p : Pool α) (a : Address) : List (Entry α) :=
  (p.partitions.filter (·.1 ≠ a)).flatMap fun (_, q) => q.entries

theorem entries_setPartition (p : Pool α) (a : Address) (q : Partition α) :
    (p.setPartition a q).entries = q.entries ++ p.elsewhere a := rfl

theorem Sound.perm_entries {p : Pool α} (hp : p.Sound) (a : Address) :
    ((p.partition a).entries ++ p.elsewhere a).Perm p.entries := by
  rw [Pool.partition, elsewhere]
  cases hlookup : p.partitions.lookup a with
  | none =>
    rw [filter_ne_of_lookup_eq_none hlookup]
    exact .refl _
  | some q =>
    exact (perm_of_lookup_eq_some hp.addresses hlookup).flatMap_right fun (_, q) => q.entries

theorem Sound.mem_entries {p : Pool α} (hp : p.Sound) {e : Entry α} :
    e ∈ p.entries ↔ ∃ a, e ∈ (p.partition a).entries := by
  constructor
  · intro he
    obtain ⟨⟨a, q⟩, haq, he⟩ := List.mem_flatMap.mp he
    exact ⟨a, (partition_of_mem hp.addresses haq).symm ▸ he⟩
  · rintro ⟨a, he⟩
    exact (hp.perm_entries a).subset (List.mem_append_left _ he)

theorem Sound.mem_elsewhere {p : Pool α} (hp : p.Sound) {a : Address} {e : Entry α}
    (he : e ∈ p.elsewhere a) : ∃ b, b ≠ a ∧ e ∈ (p.partition b).entries := by
  obtain ⟨⟨b, q⟩, hbq, he⟩ := List.mem_flatMap.mp he
  obtain ⟨hmem, hne⟩ := List.mem_filter.mp hbq
  exact ⟨b, of_decide_eq_true hne, (partition_of_mem hp.addresses hmem).symm ▸ he⟩

/-- If some entries of a partition leave and others come, then just these leave and come. -/
theorem Sound.entries_setPartition_add {p : Pool α} (hp : p.Sound) {a : Address} {q : Partition α}
    {out new : Multiset (Entry α)} (h : out + q.entries = (p.partition a).entries + new) :
    ((p.setPartition a q).entries : Multiset (Entry α)) + out = p.entries + new := by
  rw [entries_setPartition, ← Multiset.coe_eq_coe.mpr (hp.perm_entries a), ← Multiset.coe_add,
    ← Multiset.coe_add, add_right_comm, add_comm (q.entries : Multiset (Entry α)), h, add_right_comm]

/-- If some entries of a partition leave, then just these leave. -/
theorem Sound.entries_setPartition_rest {p : Pool α} (hp : p.Sound) {a : Address} {q : Partition α}
    {out : Multiset (Entry α)} (h : out + q.entries = (p.partition a).entries) :
    ((p.setPartition a q).entries : Multiset (Entry α)) + out = p.entries := by
  rw [← add_zero (p.entries : Multiset (Entry α))]
  exact hp.entries_setPartition_add (h.trans (add_zero _).symm)

/-! ### One change -/

theorem coe_makeRoom (q : Partition α) (needed limit : Nat) :
    ((q.makeRoom needed limit).evicted : Multiset (Entry α)) + (q.makeRoom needed limit).rest.entries =
      q.entries := by
  rw [Multiset.coe_add]
  exact Multiset.coe_eq_coe.mpr (Partition.makeRoomUpTo_perm needed limit _ q)

theorem Sound.entries_put {p : Pool α} (hp : p.Sound) (key : ArtifactKey) (a : Address) (item : α)
    (size : Nat) :
    ((p.put key a item size).2.entries : Multiset (Entry α)) + (p.put key a item size).1.evicted =
      p.entries + p.insertedBy (.put key a item size) := by
  have hroom := coe_makeRoom (p.partition a) size (p.budgets.get a.artifactClass).total
  rw [insertedBy, insertion?]
  rcases p.put_cases key a item size with ⟨why, _, hput⟩ | ⟨_, _, hput⟩ | ⟨_, _, _, hput⟩ |
    ⟨_, _, _, hput⟩
  · rw [hput]
    rfl
  · rw [hput]
    rfl
  · rw [hput]
    refine hp.entries_setPartition_add ?_
    rw [Partition.entries_push, ← Multiset.coe_add, ← add_assoc, hroom]
    rfl
  · rw [hput]
    exact (hp.entries_setPartition_rest hroom).trans (add_zero _).symm

theorem Sound.entries_get {p : Pool α} (hp : p.Sound) (key : ArtifactKey) (a : Address) :
    ((p.get key a).2.entries : Multiset (Entry α)) =
      p.entries.map (Entry.used ((p.get key a).1.toList.map Handle.seq)) := by
  rw [get]
  cases hfind : (p.partition a).find? key with
  | none => exact congrArg Multiset.ofList (Entry.map_used_nil _).symm
  | some e =>
    have hothers : (p.elsewhere a).map (Entry.used [e.usage.seq]) = p.elsewhere a := by
      refine (List.map_congr_left fun f hf => ?_).trans (List.map_id _)
      obtain ⟨b, hb, hf⟩ := hp.mem_elsewhere hf
      refine Entry.used_of_notMem fun hseq => hb ?_
      exact hp.apart b a f hf e (Partition.mem_of_find? hfind).1 (List.mem_singleton.mp hseq)
    have hsplit := (hp.perm_entries a).map (Entry.used [e.usage.seq])
    rw [List.map_append, hothers, ← (hp.partition a).entries_touch hfind] at hsplit
    exact Multiset.coe_eq_coe.mpr hsplit

theorem Sound.entries_remove {p : Pool α} (hp : p.Sound) (key : ArtifactKey) (a : Address) :
    ((p.remove key a).2.entries : Multiset (Entry α)) + ((p.partition a).find? key).toList =
      p.entries := by
  rw [remove]
  cases htaken : (p.partition a).take? key with
  | none =>
    rw [Option.map_eq_none_iff.mp htaken]
    exact add_zero _
  | some taken =>
    obtain ⟨e, r⟩ := taken
    obtain ⟨f, hfound, hf⟩ := Option.map_eq_some_iff.mp htaken
    obtain ⟨rfl, rfl⟩ := Prod.mk.inj hf
    rw [hfound]
    exact hp.entries_setPartition_rest (Multiset.coe_eq_coe.mpr (Partition.perm_of_take? htaken))

theorem Sound.entries_evictToFit {p : Pool α} (hp : p.Sound) (a : Address) (needed : Nat) :
    ((p.evictToFit a needed).2.entries : Multiset (Entry α)) + (p.evictToFit a needed).1.2 =
      p.entries := by
  rw [evictToFit]
  split
  · exact add_zero _
  · exact hp.entries_setPartition_rest (coe_makeRoom (p.partition a) needed _)

theorem Sound.entries_clear {p : Pool α} (hp : p.Sound) (a : Address) :
    ((p.clear a).entries : Multiset (Entry α)) + (p.partition a).entries = p.entries :=
  hp.entries_setPartition_rest (add_zero _)

theorem entries_clearAll (p : Pool α) : p.clearAll.entries = [] := by
  rw [clearAll, entries, List.flatMap_map]
  exact List.flatMap_eq_nil_iff.mpr fun _ _ => rfl

@[simp] theorem entries_setTotal (p : Pool α) (c : ArtifactClass) (bytes : Nat) :
    (p.setTotal c bytes).entries = p.entries := rfl

@[simp] theorem entries_setItem (p : Pool α) (c : ArtifactClass) (bytes : Nat) :
    (p.setItem c bytes).entries = p.entries := rfl

/-- What was there, with one more use if it is given out, and what is put in is there afterwards, is
evicted or is taken out. -/
theorem Sound.entries_change {p : Pool α} (hp : p.Sound) (c : Change α) :
    ((p.change c).entries : Multiset (Entry α)) + p.evictedBy c + p.takenOutBy c =
      p.entries.map (Entry.used ((p.handedOut c).map Handle.seq)) + p.insertedBy c := by
  cases c with
  | put key a item size =>
    have hput := hp.entries_put key a item size
    rw [← Entry.map_used_nil p.entries] at hput
    exact (add_zero _).trans hput
  | get key a =>
    have hget := (hp.entries_get key a).trans (add_zero _).symm
    exact (add_zero _).trans ((add_zero _).trans hget)
  | _ =>
    simp only [Pool.change, evictedBy, takenOutBy, handedOut, insertedBy, insertion?, Option.toList_none,
      List.map_nil, Entry.map_used_nil, Multiset.coe_nil, add_zero, zero_add, hp.entries_remove,
      hp.entries_evictToFit, hp.entries_clear, entries_clearAll, entries_setTotal, entries_setItem]

theorem map_departed_depart (p : Pool α) (how : Departure) (es : List (Entry α)) :
    (p.depart how es).departed.map Prod.fst = es.map Entry.usage ++ p.departed.map Prod.fst := by
  rw [depart, List.map_append, List.map_map]
  rfl

/-- What leaves is noted as it is when it leaves. -/
theorem departed_change (p : Pool α) (c : Change α) :
    (p.change c).departed.map Prod.fst =
      (p.evictedBy c ++ p.takenOutBy c).map Entry.usage ++ p.departed.map Prod.fst := by
  cases c with
  | put key a item size =>
    show (p.put key a item size).2.departed.map Prod.fst =
      ((p.put key a item size).1.evicted ++ []).map Entry.usage ++ p.departed.map Prod.fst
    rw [List.append_nil]
    rcases p.put_cases key a item size with ⟨why, _, hput⟩ | ⟨_, _, hput⟩ | ⟨_, _, _, hput⟩ |
      ⟨_, _, _, hput⟩
    · rw [hput]
      rfl
    · rw [hput]
      rfl
    · rw [hput]
      exact map_departed_depart _ .evicted _
    · rw [hput]
      exact map_departed_depart _ .evicted _
  | get key a =>
    rw [change, get]
    split <;> rfl
  | remove key a =>
    show (p.remove key a).2.departed.map Prod.fst =
      ((p.partition a).find? key).toList.map Entry.usage ++ p.departed.map Prod.fst
    rw [remove]
    cases htaken : (p.partition a).take? key with
    | none =>
      rw [Option.map_eq_none_iff.mp htaken]
      rfl
    | some taken =>
      obtain ⟨f, hfound, hf⟩ := Option.map_eq_some_iff.mp htaken
      cases hf
      rw [hfound]
      exact map_departed_depart _ .removed _
  | evictToFit a needed =>
    show (p.evictToFit a needed).2.departed.map Prod.fst =
      ((p.evictToFit a needed).1.2 ++ []).map Entry.usage ++ p.departed.map Prod.fst
    rw [List.append_nil, evictToFit]
    split
    · rfl
    · exact map_departed_depart _ .evicted _
  | setTotal c bytes => rfl
  | setItem c bytes => rfl
  | clear a => exact map_departed_depart _ .cleared _
  | clearAll => exact map_departed_depart _ .cleared _

end Pool

end PlanReuse
