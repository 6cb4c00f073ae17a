import PlanReuse.JoinTable.Basic
import PlanReuse.Proofs.Pool.History

/-!
# Accounting

The bytes that a pool says are in use are in use, and each partition stays within the total that was in
force at its latest insertion. A later change of a budget touches nothing that is kept.
-/

namespace PlanReuse.Pool

variable {α : Type}

/-- The total in force at the latest insertion at an address; nothing before the first. -/
def lastTotal (made : List (Insertion α)) (a : Address) : Nat :=
  ((made.find? (·.address = a)).map (·.budget.total)).getD 0

@[simp] theorem lastTotal_cons (i : Insertion α) (made : List (Insertion α)) (a : Address) :
    lastTotal (i :: made) a = if i.address = a then i.budget.total else lastTotal made a := by
  by_cases h : i.address = a <;> simp [lastTotal, h]

/-- A pool and the insertions made into it, the latest first. -/
structure Accounted (p : Pool α) (made : List (Insertion α)) : Prop where
  totals : ∀ c, (p.budgets.get c).total < maxWord
  sound : p.Sound
  numbered : made.map (fun i => i.entry.usage.seq) = (List.range p.nextSeq).reverse
  inserted : ∀ a, ∀ e ∈ (p.partition a).entries, ∃ i ∈ made, i.address = a ∧ i.entry.Alike e ∧
    i.entry.usage.size ≤ i.budget.item ∧ i.entry.usage.size ≤ i.budget.total
  bounded : ∀ a, p.occupied a ≤ lastTotal made a

theorem accounted_new (name : String) {budgets : Budgets}
    (h : ∀ c, (budgets.get c).total < maxWord) :
    Accounted (new name budgets : Pool α) [] := by
  constructor
  · exact h
  · exact sound_new name budgets
  · rfl
  · intro a e he
    cases he
  · exact fun a => Nat.le_refl 0

theorem totals_change {p : Pool α} {c : Change α} (hp : ∀ k, (p.budgets.get k).total < maxWord)
    (hset : ∀ k bytes, c = .setTotal k bytes → bytes < maxWord) (k : ArtifactClass) :
    ((p.change c).budgets.get k).total < maxWord := by
  rw [budgets_change]
  cases c with
  | setTotal d bytes =>
    rw [Budgets.get_set]
    split
    · exact hset d bytes rfl
    · exact hp k
  | setItem d bytes =>
    rw [Budgets.get_set]
    split
    · exact hp d
    · exact hp k
  | _ => exact hp k

theorem Accounted.shrinks {p r : Pool α} {made : List (Insertion α)} (hp : Accounted p made)
    (h : Shrinks p r) (htotals : ∀ c, (r.budgets.get c).total < maxWord) : Accounted r made := by
  constructor
  · exact htotals
  · exact hp.sound.shrinks h
  · rw [h.nextSeq]
    exact hp.numbered
  · intro a e he
    obtain ⟨f, hf, hfe⟩ := (h.partition a).exists_alike he
    obtain ⟨i, hi, hia, hif, hitem, htotal⟩ := hp.inserted a f hf
    exact ⟨i, hi, hia, hif.trans hfe, hitem, htotal⟩
  · exact fun a => Nat.le_trans (h.partition a).occupied (hp.bounded a)

theorem Accounted.put {p : Pool α} {made : List (Insertion α)} (hp : Accounted p made)
    {key : ArtifactKey} {a : Address} {item : α} {size : Nat}
    (hfresh : (p.put key a item size).1.isFresh = true) :
    Accounted (p.put key a item size).2
      (⟨a, p.freshEntry key a item size, p.budgets.get a.artifactClass⟩ :: made) := by
  obtain ⟨hadmits, hinserts, hbound⟩ := put_of_isFresh hfresh
  obtain ⟨hitem, htotal⟩ : size ≤ (p.budgets.get a.artifactClass).item ∧
      size ≤ (p.budgets.get a.artifactClass).total := by
    simpa [Budget.admits] using hadmits
  constructor
  · exact totals_change (c := .put key a item size) hp.totals fun k bytes h => by cases h
  · exact hp.sound.change (.put key a item size)
  · rw [hinserts.nextSeq, List.range_succ, List.reverse_append, List.map_cons, hp.numbered]
    rfl
  · intro b e he
    rcases hinserts.mem_cases he with ⟨rfl, rfl⟩ | ⟨f, hf, hfe⟩
    · exact ⟨_, List.mem_cons_self .., rfl, .refl _, hitem, htotal⟩
    · obtain ⟨i, hi, hib, hif, hiitem, hitotal⟩ := hp.inserted b f hf
      exact ⟨i, List.mem_cons_of_mem _ hi, hib, hif.trans hfe, hiitem, hitotal⟩
  · intro b
    rw [lastTotal_cons]
    by_cases hb : b = a
    · subst hb
      rw [if_pos rfl]
      exact hbound (hp.totals _)
    · rw [if_neg (Ne.symm hb), occupied, hinserts.elsewhere b hb]
      exact hp.bounded b

theorem Accounted.change {p : Pool α} {made : List (Insertion α)} (hp : Accounted p made)
    {c : Change α} (hset : ∀ k bytes, c = .setTotal k bytes → bytes < maxWord) :
    Accounted (p.change c) ((p.insertion? c).toList ++ made) := by
  rcases p.change_cases c with ⟨hnone, hshrinks⟩ | ⟨key, a, item, size, rfl, hsome, hfresh⟩
  · rw [hnone]
    exact hp.shrinks hshrinks (totals_change hp.totals hset)
  · rw [hsome]
    exact hp.put hfresh

theorem Accounted.changeAll {p : Pool α} {made : List (Insertion α)} (hp : Accounted p made)
    {cs : List (Change α)} (hset : ∀ k bytes, Change.setTotal k bytes ∈ cs → bytes < maxWord) :
    Accounted (p.changeAll cs) (p.insertions cs ++ made) := by
  induction cs generalizing p made with
  | nil => exact hp
  | cons c cs ih =>
    rw [insertions, List.append_assoc]
    apply ih
    · exact hp.change fun k bytes hc => hset k bytes (hc ▸ List.mem_cons_self ..)
    · exact fun k bytes hc => hset k bytes (List.mem_cons_of_mem _ hc)

/-- In every pool that a run leads to, builders that use the pool themselves included, the bytes in use
at an address are those of what is kept there, every key stands for the one artifact whose record carries
it, the record is that of an insertion at the address that both limits then in force admitted, and the
bytes in use stay within the total in force at the latest insertion there. -/
theorem accounting [Artifact α] (name : String) (budgets : Budgets) (actions : List (Action α))
    (hstart : ∀ c, (budgets.get c).total < maxWord)
    (hset : ∀ c bytes, Change.setTotal c bytes ∈ (new name budgets).changes actions →
      bytes < maxWord) :
    let p := (new name budgets).run actions
    let made := (new name budgets).insertions ((new name budgets).changes actions)
    (p.kept.map Usage.seq).Nodup ∧
      made.map (fun i => i.entry.usage.seq) = (List.range p.nextSeq).reverse ∧
      ∀ a,
        p.occupied a = ((p.partition a).entries.map fun e => e.usage.size).sum ∧
        (∀ key e, (p.partition a).find? key = some e ↔
          e ∈ (p.partition a).entries ∧ e.usage.key = key) ∧
        (∀ e ∈ (p.partition a).entries,
          e.usage.artifactClass = a.artifactClass ∧ e.usage.device = a.device ∧
          ∃ i ∈ made, i.address = a ∧ i.entry.Alike e ∧
            e.usage.size ≤ i.budget.item ∧ e.usage.size ≤ i.budget.total) ∧
        p.occupied a ≤ lastTotal made a ∧
        (lastTotal made a ≤ (p.budgets.get a.artifactClass).total →
          p.occupied a ≤ (p.budgets.get a.artifactClass).total) := by
  intro p made
  have hp : Accounted p made := by
    have h := (accounted_new name hstart).changeAll hset
    rw [List.append_nil, ← run_eq_changeAll] at h
    exact h
  refine ⟨hp.sound.nodup_kept, hp.numbered, ?_⟩
  intro a
  refine ⟨(hp.sound.partition a).occupied, ?_, ?_, hp.bounded a, Nat.le_trans (hp.bounded a)⟩
  · exact fun key e => (hp.sound.partition a).find?_eq_some_iff
  · intro e he
    obtain ⟨hclass, hdevice⟩ := hp.sound.placed a e he
    obtain ⟨i, hi, hia, hie, hitem, htotal⟩ := hp.inserted a e he
    rw [hie.size] at hitem htotal
    exact ⟨hclass, hdevice, i, hi, hia, hie, hitem, htotal⟩

/- The builder lowers the total and puts an artifact of its own in; what it builds then has to evict
both earlier artifacts, and stays below the lower total. -/
theorem accounting_lowered_by_builder :
    let table (key : UInt64) (rows : Nat) : JoinTable :=
      ⟨.perfect 0 0, .oneToOne, some ⟨key⟩, 0, rows, Array.replicate rows 0⟩
    let a : Address := ⟨.perfect, 0⟩
    let budgets := Budgets.uniform ⟨100, 50⟩
    let actions : List (Action JoinTable) :=
      [.putItem (table 1 10),
        .reuseOrBuild ⟨2⟩ a JoinTable.size
          [.change (.setTotal .perfect 60), .change (.put ⟨3⟩ a (table 3 5) 20)] (.ok (table 2 12)),
        .change (.get ⟨2⟩ a)]
    let p := (new "tables" budgets).run actions
    let made := (new "tables" budgets).insertions ((new "tables" budgets).changes actions)
    (∀ c, (budgets.get c).total < maxWord) ∧
      (∀ c bytes, Change.setTotal c bytes ∈ (new "tables" budgets).changes actions →
        bytes < maxWord) ∧
      (p.occupied a = 48 ∧ lastTotal made a = 60) ∧
      p.occupied a ≤ lastTotal made a := by
  intro table a budgets actions p made
  have hvalues : p.occupied a = 48 ∧ lastTotal made a = 60 := by decide +kernel +revert
  have hstart : ∀ c, (budgets.get c).total < maxWord := by
    intro c
    cases c <;> decide
  have hchanges : (new "tables" budgets).changes actions =
      [.put ⟨1⟩ a (table 1 10) 40, .get ⟨2⟩ a, .setTotal .perfect 60, .put ⟨3⟩ a (table 3 5) 20,
        .put ⟨2⟩ a (table 2 12) 48, .get ⟨2⟩ a] := by rfl
  have hset : ∀ c bytes, Change.setTotal c bytes ∈ (new "tables" budgets).changes actions →
      bytes < maxWord := by
    intro c bytes h
    rw [hchanges] at h
    simp at h
    rw [h.2]
    decide
  have hall := accounting "tables" budgets actions hstart hset
  exact ⟨hstart, hset, hvalues, (hall.2.2 a).2.2.2.1⟩

end PlanReuse.Pool
