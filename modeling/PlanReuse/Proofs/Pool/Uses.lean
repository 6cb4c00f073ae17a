import PlanReuse.Proofs.Pool.Cell
import PlanReuse.Proofs.Pool.Conservation

/-!
# Counting uses

An artifact is used once when it is put in and once more whenever it is given out. Its place in the order
of insertions stays its own: when it has left, its record stands still, and whatever comes under the same
key later has a later place and a count of its own.
-/

namespace PlanReuse.Pool

variable {α : Type}

/-! ### Records -/

/-- The records of all artifacts ever put in. -/
def records (p : Pool α) : List Usage := p.kept ++ p.departed.map Prod.fst

theorem kept_eq_map (p : Pool α) : p.kept = p.entries.map Entry.usage := by
  rw [kept, entries, List.map_flatMap]

/-- Only what is kept is given out. -/
theorem Sound.mem_of_handedOut {p : Pool α} (hp : p.Sound) {c : Change α} {h : Handle α}
    (hh : h ∈ p.handedOut c) : ∃ e ∈ p.entries, e.usage.seq = h.seq ∧ e.item = h.item := by
  cases c with
  | get key a =>
    have hget : (p.get key a).1 = some h := Option.mem_toList.mp hh
    rw [get] at hget
    cases hfind : (p.partition a).find? key with
    | none =>
      rw [hfind] at hget
      cases hget
    | some e =>
      rw [hfind] at hget
      cases hget
      exact ⟨e, hp.mem_entries.mpr ⟨a, (Partition.mem_of_find? hfind).1⟩, rfl, rfl⟩
  | _ => cases hh

theorem Sound.mem_entries_change {p : Pool α} (hp : p.Sound) {c : Change α} {e : Entry α}
    (he : e ∈ (p.change c).entries) : (∃ f ∈ p.entries, f.Alike e) ∨ e ∈ p.insertedBy c := by
  have hmem : e ∈ ((p.change c).entries : Multiset (Entry α)) + p.evictedBy c + p.takenOutBy c :=
    Multiset.mem_add.mpr (Or.inl (Multiset.mem_add.mpr (Or.inl he)))
  rw [hp.entries_change c] at hmem
  rcases Multiset.mem_add.mp hmem with hold | hnew
  · obtain ⟨f, hf, rfl⟩ := List.mem_map.mp hold
    exact Or.inl ⟨f, hf, f.alike_used _⟩
  · exact Or.inr hnew

/-- What has left is not given out, so no use of it is counted. -/
theorem Sound.used_departed {p : Pool α} (hp : p.Sound) (hnodup : (p.records.map Usage.seq).Nodup)
    (c : Change α) :
    (p.departed.map Prod.fst).map (Usage.used ((p.handedOut c).map Handle.seq)) =
      p.departed.map Prod.fst := by
  refine (List.map_congr_left fun u hu => ?_).trans (List.map_id _)
  refine Usage.used_of_notMem fun hseq => ?_
  obtain ⟨h, hh, hseq⟩ := List.mem_map.mp hseq
  obtain ⟨e, he, heq, _⟩ := hp.mem_of_handedOut hh
  rw [records, List.map_append, List.nodup_append] at hnodup
  refine hnodup.2.2 u.seq ?_ u.seq (List.mem_map_of_mem hu) rfl
  rw [← hseq, ← heq, kept_eq_map, List.map_map]
  exact List.mem_map_of_mem he

/-- A change adds the records of what is put in, and one use to the record of what is given out. -/
theorem Sound.records_change {p : Pool α} (hp : p.Sound) (hnodup : (p.records.map Usage.seq).Nodup)
    (c : Change α) :
    ((p.change c).records : Multiset Usage) =
      p.records.map (Usage.used ((p.handedOut c).map Handle.seq)) +
        (p.insertedBy c).map Entry.usage := by
  let seqs := (p.handedOut c).map Handle.seq
  have hdeparted := hp.used_departed hnodup c
  have hkept (es : List (Entry α)) :
      (es.map (Entry.used seqs)).map Entry.usage = (es.map Entry.usage).map (Usage.used seqs) := by
    rw [List.map_map, List.map_map]
    rfl
  have hflow := congrArg (Multiset.map Entry.usage) (hp.entries_change c)
  simp only [Multiset.map_add, Multiset.map_coe] at hflow
  calc
    ((p.change c).records : Multiset Usage) =
        (p.change c).entries.map Entry.usage + (p.evictedBy c).map Entry.usage +
          (p.takenOutBy c).map Entry.usage + (p.departed.map Prod.fst : List Usage) := by
      rw [records, kept_eq_map, departed_change, List.map_append]
      simp only [← Multiset.coe_add, add_assoc]
    _ = (p.entries.map (Entry.used seqs)).map Entry.usage + (p.insertedBy c).map Entry.usage +
          (p.departed.map Prod.fst : List Usage) := by rw [hflow]
    _ = p.records.map (Usage.used seqs) + (p.insertedBy c).map Entry.usage := by
      rw [hkept, records, kept_eq_map, List.map_append, hdeparted, ← Multiset.coe_add, add_right_comm]

theorem seq_insertedBy (p : Pool α) (c : Change α) :
    (p.insertedBy c).map (·.usage.seq) ++ (List.range p.nextSeq).reverse =
      (List.range (p.change c).nextSeq).reverse := by
  rw [insertedBy]
  rcases p.change_cases c with ⟨hnone, hshrinks⟩ | ⟨key, a, item, size, rfl, hsome, hfresh⟩
  · rw [hnone, hshrinks.nextSeq]
    rfl
  · rw [hsome, change, (put_of_isFresh hfresh).2.1.nextSeq, List.range_succ, List.reverse_append]
    rfl

theorem of_mem_insertedBy {p : Pool α} {c : Change α} {e : Entry α} (he : e ∈ p.insertedBy c) :
    e.usage.seq = p.nextSeq ∧ e.usage.uses = 1 := by
  rw [insertedBy] at he
  rcases p.change_cases c with ⟨hnone, _⟩ | ⟨key, a, item, size, rfl, hsome, _⟩
  · rw [hnone] at he
    cases he
  · rw [hsome] at he
    rw [List.mem_singleton.mp he]
    exact ⟨rfl, rfl⟩

/-! ### Runs -/

/-- A pool, all that was put into it, the latest first, and all that it gave out. -/
structure Recorded (p : Pool α) (made : List (Entry α)) (handed : List (Handle α)) : Prop where
  sound : p.Sound
  numbered : made.map (·.usage.seq) = (List.range p.nextSeq).reverse
  unused : ∀ e ∈ made, e.usage.uses = 1
  records : (p.records : Multiset Usage) =
    made.map fun e => e.usage.used (handed.map Handle.seq)
  kept : ∀ e ∈ p.entries, ∃ f ∈ made, f.Alike e
  handed : ∀ h ∈ handed, ∃ e ∈ made, e.usage.seq = h.seq ∧ e.item = h.item

theorem recorded_new (name : String) (budgets : Budgets) :
    Recorded (new name budgets : Pool α) [] [] := by
  constructor
  · exact sound_new name budgets
  · rfl
  · intro e he
    cases he
  · rfl
  · intro e he
    cases he
  · intro h hh
    cases hh

section

variable {p : Pool α} {made : List (Entry α)} {handed : List (Handle α)}

theorem Recorded.nodup_made (hp : Recorded p made handed) : (made.map (·.usage.seq)).Nodup := by
  rw [hp.numbered]
  exact List.nodup_reverse.mpr List.nodup_range

theorem Recorded.seq_lt (hp : Recorded p made handed) {e : Entry α} (he : e ∈ made) :
    e.usage.seq < p.nextSeq := by
  have hmem : e.usage.seq ∈ made.map (·.usage.seq) := List.mem_map_of_mem he
  rw [hp.numbered, List.mem_reverse] at hmem
  exact List.mem_range.mp hmem

theorem Recorded.nodup_records (hp : Recorded p made handed) : (p.records.map Usage.seq).Nodup := by
  have hperm := (Multiset.coe_eq_coe.mp hp.records).map Usage.seq
  rw [List.map_map] at hperm
  exact hperm.nodup_iff.mpr hp.nodup_made

/-- The record at a place is that of the artifact put in there, with one more use for each time that it
was given out. -/
theorem Recorded.usageAt?_eq (hp : Recorded p made handed) {e : Entry α} (he : e ∈ made) :
    p.usageAt? e.usage.seq = some (e.usage.used (handed.map Handle.seq)) := by
  refine (find?_eq_some_iff_of_nodup hp.nodup_records).mpr ⟨?_, rfl⟩
  exact (Multiset.coe_eq_coe.mp hp.records).mem_iff.mpr (List.mem_map.mpr ⟨e, he, rfl⟩)

theorem Recorded.handed_change (hp : Recorded p made handed) (c : Change α) :
    ∀ h ∈ p.handedOut c ++ handed, ∃ e ∈ made, e.usage.seq = h.seq ∧ e.item = h.item := by
  intro h hh
  rcases List.mem_append.mp hh with hnew | hold
  · obtain ⟨e, he, hseq, hitem⟩ := hp.sound.mem_of_handedOut hnew
    obtain ⟨f, hf, hfe⟩ := hp.kept e he
    exact ⟨f, hf, hfe.seq.trans hseq, hfe.item.trans hitem⟩
  · exact hp.handed h hold

/-- What is put in has not been given out yet. -/
theorem Recorded.used_insertedBy (hp : Recorded p made handed) {c : Change α} {e : Entry α}
    (he : e ∈ p.insertedBy c) :
    e.usage.used ((p.handedOut c ++ handed).map Handle.seq) = e.usage := by
  refine Usage.used_of_notMem fun hmem => ?_
  obtain ⟨h, hh, hseq⟩ := List.mem_map.mp hmem
  obtain ⟨f, hf, hfh, _⟩ := hp.handed_change c h hh
  have hlt := hp.seq_lt hf
  rw [hfh, hseq, (of_mem_insertedBy he).1] at hlt
  exact Nat.lt_irrefl _ hlt

theorem Recorded.change (hp : Recorded p made handed) (c : Change α) :
    Recorded (p.change c) (p.insertedBy c ++ made) (p.handedOut c ++ handed) := by
  let seqs := (p.handedOut c ++ handed).map Handle.seq
  constructor
  · exact hp.sound.change c
  · rw [List.map_append, hp.numbered, seq_insertedBy]
  · intro e he
    rcases List.mem_append.mp he with hnew | hold
    · exact (of_mem_insertedBy hnew).2
    · exact hp.unused e hold
  · have hfresh : (p.insertedBy c).map Entry.usage = (p.insertedBy c).map fun e => e.usage.used seqs :=
      List.map_congr_left fun e he => (hp.used_insertedBy he).symm
    have hused : (p.records.map (Usage.used ((p.handedOut c).map Handle.seq)) : Multiset Usage) =
        made.map fun e => e.usage.used seqs := by
      refine Multiset.coe_eq_coe.mpr (((Multiset.coe_eq_coe.mp hp.records).map _).trans ?_)
      rw [List.map_map]
      refine .of_eq (List.map_congr_left fun e _ => ?_)
      rw [Function.comp_apply, ← Usage.used_append, ← List.map_append]
    rw [hp.sound.records_change hp.nodup_records, hused, hfresh, List.map_append, ← Multiset.coe_add,
      add_comm]
  · intro e he
    rcases hp.sound.mem_entries_change he with ⟨f, hf, hfe⟩ | hnew
    · obtain ⟨g, hg, hgf⟩ := hp.kept f hf
      exact ⟨g, List.mem_append_right _ hg, hgf.trans hfe⟩
    · exact ⟨e, List.mem_append_left _ hnew, .refl e⟩
  · intro h hh
    obtain ⟨e, he, heq⟩ := hp.handed_change c h hh
    exact ⟨e, List.mem_append_right _ he, heq⟩

theorem Recorded.changeAll (hp : Recorded p made handed) (cs : List (Change α)) :
    Recorded (p.changeAll cs) (p.gathered insertedBy cs ++ made) (p.gathered handedOut cs ++ handed) := by
  induction cs generalizing p made handed with
  | nil => exact hp
  | cons c cs ih =>
    rw [gathered, gathered, List.append_assoc, List.append_assoc]
    exact ih (hp.change c)

end

theorem recorded_run [Artifact α] (name : String) (budgets : Budgets) (actions : List (Action α)) :
    let start : Pool α := new name budgets
    let cs := start.changes actions
    Recorded (start.run actions) (start.gathered insertedBy cs) (start.gathered handedOut cs) := by
  intro start cs
  have h := (recorded_new name budgets).changeAll cs
  rw [← run_eq_changeAll, List.append_nil, List.append_nil] at h
  exact h

/-! ### After an artifact has left -/

/-- The place was given to an artifact that is no longer kept. -/
structure Gone (p : Pool α) (seq : Nat) : Prop where
  given : seq < p.nextSeq
  notKept : ∀ e ∈ p.entries, e.usage.seq ≠ seq

theorem Gone.change {p : Pool α} {seq : Nat} (h : p.Gone seq) (hp : p.Sound) (c : Change α) :
    (p.change c).Gone seq := by
  have hmore := p.nextSeq_change c
  refine ⟨Nat.lt_of_lt_of_le h.given (by omega), fun e he => ?_⟩
  rcases hp.mem_entries_change he with ⟨f, hf, hfe⟩ | hnew
  · rw [← hfe.seq]
    exact h.notKept f hf
  · rw [(of_mem_insertedBy hnew).1]
    exact Nat.ne_of_gt h.given

theorem Gone.not_handedOut {p : Pool α} {seq : Nat} (h : p.Gone seq) (hp : p.Sound) (c : Change α) :
    ∀ handle ∈ p.handedOut c, handle.seq ≠ seq := by
  intro handle hhandle
  obtain ⟨e, he, heq, _⟩ := hp.mem_of_handedOut hhandle
  rw [← heq]
  exact h.notKept e he

theorem Gone.changeAll {p : Pool α} {seq : Nat} (h : p.Gone seq) (hp : p.Sound) (cs : List (Change α)) :
    (p.changeAll cs).Gone seq ∧ ∀ handle ∈ p.gathered handedOut cs, handle.seq ≠ seq := by
  induction cs generalizing p with
  | nil => exact ⟨h, List.forall_mem_nil _⟩
  | cons c cs ih =>
    obtain ⟨hgone, hlater⟩ := ih (h.change hp c) (hp.change c)
    exact ⟨hgone, List.forall_mem_append.mpr ⟨hlater, h.not_handedOut hp c⟩⟩

/-! ### Counts over runs -/

theorem handedOut_eq_nil {p : Pool α} {c : Change α} (h : ∀ key a, c ≠ .get key a) :
    p.handedOut c = [] := by
  cases c with
  | get key a => exact absurd rfl (h key a)
  | _ => rfl

/-- No operation but a look-up changes the record of what was put in before. -/
theorem Recorded.usageAt?_operate [Artifact α] {p : Pool α} {made : List (Entry α)}
    {handed : List (Handle α)} (hp : Recorded p made handed) {op : Operation α}
    (hop : ∀ key a, op ≠ .change (.get key a)) {e : Entry α} (he : e ∈ made) :
    (p.operate op).2.usageAt? e.usage.seq = p.usageAt? e.usage.seq := by
  have hchange (c : Change α) (hc : ∀ key a, c ≠ .get key a) :
      (p.change c).usageAt? e.usage.seq = p.usageAt? e.usage.seq := by
    rw [(hp.change c).usageAt?_eq (List.mem_append_right _ he), hp.usageAt?_eq he,
      handedOut_eq_nil hc, List.nil_append]
  cases op with
  | change c => exact hchange c fun key a hc => hop key a (congrArg Operation.change hc)
  | putItem item =>
    show (p.putItem item).2.usageAt? e.usage.seq = _
    rw [putItem]
    cases Artifact.key? item with
    | none => rfl
    | some key => exact hchange (.put ..) fun _ _ hc => by cases hc
  | ask a q => rfl

/-- Over every run, builders that use the pool themselves included: a record counts one use for the
insertion and one for each time that the artifact was given out, which it is only while it is kept; an
artifact given out from some place is the one put in there; only a look-up changes a count; once an
artifact has left, its record never changes and it is not given out again; and whatever is put in gets a
later place than all before it and begins with one use. -/
theorem use_counts [Artifact α] (name : String) (budgets : Budgets) (actions : List (Action α)) :
    let start : Pool α := new name budgets
    let p := start.run actions
    let cs := start.changes actions
    let made := start.gathered insertedBy cs
    let handed := start.gathered handedOut cs
    (∀ e ∈ made, p.usageAt? e.usage.seq =
      some { e.usage with uses := 1 + (handed.map Handle.seq).count e.usage.seq }) ∧
    (∀ before c after, cs = before ++ c :: after →
      ∀ h ∈ (start.changeAll before).handedOut c,
        ∃ e ∈ (start.changeAll before).entries, e.usage.seq = h.seq ∧ e.item = h.item) ∧
    (∀ h ∈ handed, ∃ e ∈ made, e.usage.seq = h.seq ∧ e.item = h.item ∧
      ∀ f ∈ made, f.usage.seq = h.seq → f = e) ∧
    (∀ op : Operation α, (∀ key a, op ≠ .change (.get key a)) →
      ∀ e ∈ made, (p.operate op).2.usageAt? e.usage.seq = p.usageAt? e.usage.seq) ∧
    (∀ e ∈ made, (∀ f ∈ p.entries, f.usage.seq ≠ e.usage.seq) → ∀ later : List (Action α),
      (p.run later).usageAt? e.usage.seq = p.usageAt? e.usage.seq ∧
      (∀ f ∈ (p.run later).entries, f.usage.seq ≠ e.usage.seq) ∧
      ∀ h ∈ p.gathered handedOut (p.changes later), h.seq ≠ e.usage.seq) ∧
    ∀ c, ∀ e ∈ p.insertedBy c,
      (p.change c).usageAt? e.usage.seq = some e.usage ∧ e.usage.uses = 1 ∧
      ∀ f ∈ made, f.usage.seq < e.usage.seq := by
  intro start p cs made handed
  have hp : Recorded p made handed := recorded_run name budgets actions
  have hcount {e : Entry α} (he : e ∈ made) : p.usageAt? e.usage.seq =
      some { e.usage with uses := 1 + (handed.map Handle.seq).count e.usage.seq } := by
    rw [hp.usageAt?_eq he, Usage.used, hp.unused e he]
  refine ⟨fun e => hcount, ?_, ?_, fun op hop e he => hp.usageAt?_operate hop he, ?_, ?_⟩
  · intro before c after _ h hh
    exact ((sound_new name budgets).changeAll before).mem_of_handedOut hh
  · intro h hh
    obtain ⟨e, he, hseq, hitem⟩ := hp.handed h hh
    refine ⟨e, he, hseq, hitem, fun f hf hfh => ?_⟩
    exact List.inj_on_of_nodup_map hp.nodup_made hf he (hfh.trans hseq.symm)
  · intro e he hgone later
    obtain ⟨hstill, hnone⟩ := Gone.changeAll ⟨hp.seq_lt he, hgone⟩ hp.sound (p.changes later)
    rw [run_eq_changeAll]
    refine ⟨?_, hstill.notKept, hnone⟩
    have hlater := (hp.changeAll (p.changes later)).usageAt?_eq (List.mem_append_right _ he)
    have hzero : e.usage.seq ∉ (p.gathered handedOut (p.changes later)).map Handle.seq := by
      intro hmem
      obtain ⟨h, hh, hseq⟩ := List.mem_map.mp hmem
      exact hnone h hh hseq
    rw [hlater, hp.usageAt?_eq he, List.map_append, Usage.used_append]
    exact congrArg some (Usage.used_of_notMem hzero)
  · intro c e he
    obtain ⟨hseq, huses⟩ := of_mem_insertedBy he
    have hearlier : ∀ f ∈ made, f.usage.seq < e.usage.seq := fun f hf => hseq ▸ hp.seq_lt hf
    refine ⟨?_, huses, hearlier⟩
    rw [(hp.change c).usageAt?_eq (List.mem_append_left _ he), hp.used_insertedBy he]

/- The first artifact is given out twice, and an artifact offered under its key in between is not taken.
It is driven out by the second one. Then the second one is taken out, another is put in under the first
key and given out. -/
theorem use_counts_of_evicted :
    let table (rows : Nat) : JoinTable :=
      ⟨.perfect 0 0, .oneToOne, some ⟨1⟩, 0, rows, Array.replicate rows 0⟩
    let a : Address := ⟨.perfect, 0⟩
    let actions : List (Action JoinTable) :=
      [.change (.put ⟨1⟩ a (table 10) 40), .change (.get ⟨1⟩ a), .change (.put ⟨1⟩ a (table 5) 20),
        .reuseOrBuild ⟨1⟩ a JoinTable.size [] (.ok (table 5)), .change (.put ⟨2⟩ a (table 18) 72)]
    let later : List (Action JoinTable) :=
      [.change (.remove ⟨2⟩ a), .change (.put ⟨1⟩ a (table 5) 20), .change (.get ⟨1⟩ a)]
    let start : Pool JoinTable := new "tables" (.uniform ⟨100, 100⟩)
    let p := start.run actions
    let cs := start.changes actions
    let made := start.gathered insertedBy cs
    (made.map Entry.usage = [.fresh ⟨2⟩ .perfect 0 72 1, .fresh ⟨1⟩ .perfect 0 40 0] ∧
        (start.gathered handedOut cs).map Handle.seq = [0, 0] ∧ ∀ f ∈ p.entries, f.usage.seq ≠ 0) ∧
      p.usageAt? 0 = some ⟨⟨1⟩, .perfect, 0, 40, 0, 3⟩ ∧
      (p.operate (.ask a (.usage ⟨1⟩))).2.usageAt? 0 = p.usageAt? 0 ∧
      (p.run later).usageAt? 0 = p.usageAt? 0 ∧
      (∀ h ∈ p.gathered handedOut (p.changes later), h.seq ≠ 0) ∧
      (p.run later).usageAt? 2 = some ⟨⟨1⟩, .perfect, 0, 20, 2, 2⟩ := by
  intro table a actions later start p cs made
  obtain ⟨hmade, hhanded, hgone, hagain⟩ :
      made.map Entry.usage = [.fresh ⟨2⟩ .perfect 0 72 1, .fresh ⟨1⟩ .perfect 0 40 0] ∧
        (start.gathered handedOut cs).map Handle.seq = [0, 0] ∧ (∀ f ∈ p.entries, f.usage.seq ≠ 0) ∧
        (p.run later).usageAt? 2 = some ⟨⟨1⟩, .perfect, 0, 20, 2, 2⟩ := by
    decide +kernel +revert
  obtain ⟨e, he, husage⟩ : ∃ e ∈ made, e.usage = .fresh ⟨1⟩ .perfect 0 40 0 := by
    refine List.mem_map.mp ?_
    rw [hmade]
    exact List.mem_cons_of_mem _ List.mem_cons_self
  have hseq : e.usage.seq = 0 := congrArg Usage.seq husage
  obtain ⟨hcount, _, _, hother, hafter, _⟩ := use_counts "tables" (.uniform ⟨100, 100⟩) actions
  have huses := hcount e he
  have hasked := hother (.ask a (.usage ⟨1⟩)) (fun _ _ h => by cases h) e he
  obtain ⟨hsame, _, hnone⟩ := hafter e he (hseq ▸ hgone) later
  rw [hhanded, hseq, husage] at huses
  rw [hseq] at hasked hsame hnone
  exact ⟨⟨hmade, hhanded, hgone⟩, huses, hasked, hsame, hnone, hagain⟩

end PlanReuse.Pool
